import Reconciliation.Http.Message
import Reconciliation.Platform.Payment
import Reconciliation.Settings.Environment

/-!
# The platform client

The billing platform is reached over HTTP. Each call sends one request.

* `Platform.Client.send` sends it and reads the answer.
* `Platform.Client.getPayment`, `getMethod`, `updateTransaction` and `createChargeback` are the calls.
-/

namespace Reconciliation.Platform.Client

open Json Number Settings Text Http

structure Config where
  baseUrl : String
  apiKey : String
  apiSecret : String
  timeoutSeconds : Nat
  deriving Repr, DecidableEq

/-- The settings that environment variables give; slashes at the end of the address are dropped. -/
def Config.ofEnvironment (env : Environment) : Except Failure Config := do
  let baseUrl ← env.required "BILLING_BASE_URL"
  let apiKey ← env.required "BILLING_API_KEY"
  pure {
    baseUrl := trimEnd (· = '/') baseUrl
    apiKey
    apiSecret := (env.get? "BILLING_API_SECRET").getD ""
    timeoutSeconds := (env.number? "BILLING_TIMEOUT_SECS" maxUInt64).getD 10 }

/-- How this program names itself. -/
def userAgent : String := "adyen-billing-bridge/1.0"

/-- The request to an address for a call. -/
def request (config : Config) (method : Method) (url : Url) (tenant : Ident) (body : Option Value) : Http.Request where
  method := method
  target := url.target
  headers := [
    ("authorization", "Bearer " ++ config.apiKey), ("x-api-secret", config.apiSecret), ("x-tenant-id", tenant.text),
    ("user-agent", userAgent)] ++
    (if body.isSome then [("content-type", "application/json")] else [])
  body := body

/-- A failure that may pass. -/
def unanswered (path why : String) : Failure :=
  .ofKind (.platform ("request to " ++ path ++ " failed: " ++ why) true)

/-- What a reply means; an answer without content has no value. -/
def judge {α : Type} (d : Decoder α) (url path : String) : Reply → Except Failure (Option α)
  | .lost => .error (unanswered path (notAnswered url))
  | .answer status body =>
    if status = 404 then .error (.notFound "BillingResource" path)
    else if !isSuccess status then
      .error (.ofKind (.platform ("HTTP " ++ statusText status ++ ": " ++ bodyText body) (isServerError status)))
    else if status = 204 then .ok none
    else
      match d.parse body with
      | .ok a => .ok (some a)
      | .error _ => .error (.platform ("invalid response from " ++ path ++ ": " ++ notDecoded))

/-- Sends one request; without a reply the connection is lost. -/
def send {α : Type} (d : Decoder α) (config : Config) (method : Method) (path : String) (tenant : Ident)
    (body : Option Value) (replies : List Reply) : Exchange (Except Failure (Option α)) :=
  match address? [config.apiKey, config.apiSecret] (config.baseUrl ++ path) with
  | some url => ⟨[request config method url tenant body], judge d (config.baseUrl ++ path) path (replies.headD .lost)⟩
  | none => ⟨[], .error (unanswered path notBuilt)⟩

/-- The value that an answer has to have. -/
def present {α : Type} (path : String) : Option α → Except Failure α
  | some a => .ok a
  | none => .error (.platform ("empty response from " ++ path))

/-- Sends one request whose answer has to have a value. -/
def fetch {α : Type} (d : Decoder α) (config : Config) (method : Method) (path : String) (tenant : Ident)
    (body : Option Value) (replies : List Reply) : Exchange (Except Failure α) :=
  let x := send d config method path tenant body replies
  ⟨x.sent, x.result.bind (present path)⟩

def getPayment (config : Config) (payment tenant : Ident) : List Reply → Exchange (Except Failure Payment) :=
  fetch Payment.decoder config .get ("/payments/" ++ payment.text) tenant none

def getMethod (config : Config) (method tenant : Ident) : List Reply → Exchange (Except Failure PaymentMethod) :=
  fetch PaymentMethod.decoder config .get ("/paymentMethods/" ++ method.text) tenant none

/-- Asks for a status; the answer may have any value or none. -/
def updateTransaction (config : Config) (change : StatusChange) (tenant : Ident) (replies : List Reply) :
    Exchange (Except Failure Unit) :=
  let path := "/payments/" ++ change.payment.text ++ "/transactions/" ++ change.transaction.text
  let x := send .any config .put path tenant (some change.json) replies
  ⟨x.sent, x.result.map fun _ => ()⟩

def createChargeback (config : Config) (payment : Ident) (chargeback : NewChargeback) (tenant : Ident) :
    List Reply → Exchange (Except Failure Transaction) :=
  fetch Transaction.decoder config .post ("/payments/" ++ payment.text ++ "/chargebacks") tenant
    (some chargeback.json)

end Reconciliation.Platform.Client
