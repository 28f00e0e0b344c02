import Reconciliation.Gateway.Config
import Reconciliation.Gateway.Request
import Reconciliation.Http.Message
import Reconciliation.MinorUnits

/-!
# The gateway client

Requests to the gateway are sent over HTTP. A request without an answer, or with one that may change soon, is sent
again a limited number of times, with the same key, so that the gateway carries it out once.

* `Client.post` sends a body until there is a final answer.
* `Client.perform` carries out a request of any kind.
-/

namespace Reconciliation.Gateway.Client

open Json Number Text Http

/-- The name of the gateway in error texts. -/
def provider : String := "Adyen"

def failed (message : String) (retryable : Bool) : Failure := .ofKind (.gateway provider message retryable)

/-! ### Sending -/

/-- What one answer means for the request. -/
inductive Verdict where
  /-- It may be sent again; the text says why. -/
  | again (why : String)
  | accepted (v : Value)
  | refused (f : Failure)
  deriving Repr

/-- The status for too many requests. -/
def tooMany : Nat := 429

/-- The number of seconds to wait after too many requests. -/
def retryAfter : Nat := 60

/-- The error that the gateway explains, if it does. -/
def explained : Decoder (Int × String × String) :=
  (Record.decoder "struct AdyenErrorResponse"
    (.cons (.required "status" (.int minInt32 maxInt32 "i32"))
    (.cons (.required "errorCode" .string)
    (.cons (.required "message" .string) .nil)))).map
    fun (status, code, message, ()) => (status, code, message)

/-- The text of an answer that refuses a request. -/
def refusal (status : Nat) (text : String) : String :=
  match explained.parse (Utf8.encode text) with
  | .ok (status, code, message) => intText status ++ " " ++ code ++ ": " ++ message
  | .error _ => "HTTP " ++ statusText status ++ ": " ++ text

/-- What a reply means; `last` says that the request is not sent again. -/
def judge (url : String) (last : Bool) : Reply → Verdict
  | .lost => .again (notAnswered url)
  | .answer status body =>
    let text := bodyText body
    if isSuccess status then
      match parse (Utf8.encode text) with
      | .ok v => .accepted v
      | .error f => .refused (failed ("Invalid response format: " ++ f.located (Utf8.encode text)) false)
    else if status = tooMany then
      if last then .refused (.ofKind (.rateLimit provider (some retryAfter))) else .again "rate limited"
    else if isServerError status then .again ("HTTP " ++ statusText status)
    else .refused (failed (refusal status text) false)

/-- The request to an address for a body. -/
def request (config : Config) (url : Url) (key : String) (body : Value) : Http.Request where
  method := .post
  target := url.target
  headers := [("x-api-key", config.apiKey), ("idempotency-key", key), ("content-type", "application/json")]
  body := some body

/-- Sends a request up to `left + 1` times; where the replies end, the connection is lost. -/
def attempts (url : String) (r : Http.Request) :
    (left : Nat) → List Reply → List Http.Request × Except String (Except Failure Value)
  | left, replies =>
    match judge url (left == 0) (replies.headD .lost) with
    | .accepted v => ([r], .ok (.ok v))
    | .refused f => ([r], .ok (.error f))
    | .again why =>
      match left with
      | 0 => ([r], .error why)
      | left + 1 =>
        let (sent, result) := attempts url r left replies.tail
        (r :: sent, result)

/-- The failure after the last attempt. -/
def exhausted (config : Config) (why : String) : Failure :=
  failed ("Request failed after " ++ digitsText config.maxRetries ++ " retries: " ++ why) true

/-- Sends a body to an endpoint until there is a final answer. -/
def post (config : Config) (endpoint key : String) (body : Value) (replies : List Reply) :
    Exchange (Except Failure Value) :=
  match address? [config.apiKey, key] (config.baseUrl ++ endpoint) with
  | some url =>
    match attempts (config.baseUrl ++ endpoint) (request config url key body) config.maxRetries replies with
    | (sent, .ok result) => ⟨sent, result⟩
    | (sent, .error why) => ⟨sent, .error (exhausted config why)⟩
  | none => ⟨[], .error (exhausted config notBuilt)⟩

/-! ### Bodies and answers -/

def amountJson (units : Int64) (currency : String) : Value :=
  .ofPairs [("value", .ofInt units.toInt), ("currency", .string currency)]

/-- The body of an order, given the amount in minor units. -/
def orderBody (o : Order) (units : Int64) : Value :=
  .ofPairs ([
    ("merchantAccount", .string o.merchantAccount),
    ("reference", .string o.reference),
    ("amount", amountJson units o.currency),
    ("paymentMethod", o.paymentMethod)] ++
    (match o.shopperReference with
      | some s => [("shopperReference", .string s)]
      | none => []) ++
    (if o.recurring then
      [("recurringProcessingModel", .string "Subscription"), ("shopperInteraction", .string "ContAuth")]
    else []) ++
    (if o.captureImmediately then [("captureDelayHours", .ofInt 0)] else []))

/-- The body of a modification, given the amount in minor units if there is one. -/
def modificationBody (m : Modification) (amount : Option (Int64 × String)) : Value :=
  .ofPairs ([("merchantAccount", .string m.merchantAccount), ("reference", .string m.reference)] ++
    match amount with
    | some (units, currency) => [("amount", amountJson units currency)]
    | none => [])

/-- The answer in a value. Modifications have a status instead of a result code. -/
def answer (raw : Value) : Answer :=
  let text (key : String) : Option String := (raw.get? key).bind Value.asString?
  ⟨text "pspReference", ((text "resultCode").or (text "status")).getD "Unknown", text "refusalReason", raw⟩

/-! ### Requests -/

/-- How a request ends. -/
inductive Ending where
  | returned (result : Except Failure Answer)
  /-- The calculation of the amount was aborted; nothing was sent. -/
  | aborted (message : String)
  deriving Repr

/-- An amount in minor units that can not be calculated. -/
def withoutUnits (amount : Decimal) (currency : String) : MinorUnits.Flaw → Ending
  | .outOfRange => .returned (.error (MinorUnits.outOfRange amount currency))
  | .overflow => .aborted MinorUnits.overflowMessage

/-- Sends a body and reads the answer. -/
def send (config : Config) (endpoint key : String) (body : Value) (replies : List Reply) : Exchange Ending :=
  let x := post config endpoint key body replies
  ⟨x.sent, .returned (x.result.map answer)⟩

/-- Sends an order. -/
def sendOrder (config : Config) (endpoint : String) (o : Order) (replies : List Reply) : Exchange Ending :=
  match MinorUnits.ofAmount o.amount o.currency with
  | .ok units => send config endpoint o.reference (orderBody o units) replies
  | .error flaw => ⟨[], withoutUnits o.amount o.currency flaw⟩

/-- The address of a modification. -/
def modificationEndpoint (m : Modification) (action : String) : String :=
  "/payments/" ++ m.parentReference ++ "/" ++ action

/-- Sends a modification. An amount counts only with a currency. -/
def sendModification (config : Config) (action : String) (m : Modification) (replies : List Reply) :
    Exchange Ending :=
  let endpoint := modificationEndpoint m action
  match m.amount, m.currency with
  | some amount, some currency =>
    match MinorUnits.ofAmount amount currency with
    | .ok units => send config endpoint m.reference (modificationBody m (some (units, currency))) replies
    | .error flaw => ⟨[], withoutUnits amount currency flaw⟩
  | _, _ => send config endpoint m.reference (modificationBody m none) replies

/-- Carries out a request, given what comes back for each time it is sent. -/
def perform (config : Config) : Gateway.Request → List Reply → Exchange Ending
  | .authorize o => sendOrder config "/payments" o
  | .credit o => sendOrder config "/refundWithData" o
  | .capture m => sendModification config "captures" m
  | .refund m => sendModification config "refunds" m
  | .cancel m => sendModification config "cancels" m

end Reconciliation.Gateway.Client
