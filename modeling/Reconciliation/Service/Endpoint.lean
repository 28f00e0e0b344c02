import Reconciliation.Json.Printer
import Reconciliation.Notification.Delivery
import Reconciliation.World

/-!
# The endpoint

The gateway posts its deliveries to one path; another path tells how the service is. What a delivery makes of the
world has no bearing on its answer.

* `Endpoint.action` says what a request asks for, and `Endpoint.response` answers it.
* `Endpoint.work` is what is done for a delivery, and `Endpoint.serve` does it. An abort ends the work alone.
-/

namespace Reconciliation.Service

open Json Text

/-- What is known of the database. -/
inductive DatabaseState where
  /-- The service runs without one. -/
  | disabled
  | up
  | down
  deriving Repr, DecidableEq

def DatabaseState.name : DatabaseState → String
  | .disabled => "disabled"
  | .up => "up"
  | .down => "down"

structure Endpoint where
  registry : Registry
  environment : String
  database : DatabaseState
  deriving Repr

structure Request where
  method : String
  /-- The path; a query may follow it, and scheme and host may stand before it. -/
  target : String
  body : Utf8.Bytes
  /-- The identifier that the request has been given. -/
  id : Option String
  deriving Repr, DecidableEq

structure Response where
  status : Nat
  contentType : Option String
  /-- The methods of the path, where the request has another. -/
  allow : Option String
  body : String
  /-- The identifier of the request; without one, the service draws one. -/
  id : Option String
  deriving Repr, DecidableEq

/-- What a request asks for. -/
inductive Action where
  | deliver (body : Utf8.Bytes)
  /-- A delivery that is not read, because it is too long. -/
  | refuse
  /-- The state of the service, with or without the body of the answer. -/
  | health (shown : Bool)
  /-- A method that the path does not have. -/
  | otherMethod (allowed : String)
  | otherPath
  deriving Repr, DecidableEq

namespace Endpoint

/-- The greatest length of a delivery in bytes. -/
def bodyLimit : Nat := 2 * 1024 * 1024

def isSchemeChar (c : Char) : Bool := c.isAlphanum || c = '+' || c = '-' || c = '.'

/-- What follows the host in a target that names one; its path may be left out. -/
def behindHost? (cs : List Char) : Option (List Char) :=
  match cs.dropWhile isSchemeChar with
  | ':' :: '/' :: '/' :: rest =>
    let rest := rest.dropWhile fun c => c ≠ '/' && c ≠ '?' && c ≠ '#'
    some (if rest.head? = some '/' then rest else '/' :: rest)
  | _ => none

/-- The path of a target. -/
def path (target : String) : String :=
  let cs := (behindHost? target.toList).getD target.toList
  String.ofList (cs.takeWhile fun c => c ≠ '?' && c ≠ '#')

def action (r : Request) : Action :=
  match path r.target with
  | "/notifications" =>
    match r.method with
    | "POST" => if r.body.length ≤ bodyLimit then .deliver r.body else .refuse
    | _ => .otherMethod "POST"
  | "/health" =>
    match r.method with
    | "GET" => .health true
    | "HEAD" => .health false
    | _ => .otherMethod "GET,HEAD"
  | _ => .otherPath

/-! ### Answers -/

def version : String := "0.1.0"

def isHealthy (e : Endpoint) : Bool := e.database ≠ .down

/-- A JSON text of members in the order given. -/
def report (members : List (String × String)) : String :=
  "\x7b" ++ ",".intercalate (members.map fun (key, text) =>
    (Value.string key).print ++ ":" ++ (Value.string text).print) ++ "\x7d"

/-- How the service is. -/
def health (e : Endpoint) : String := report [
  ("status", if e.isHealthy then "healthy" else "degraded"),
  ("version", version),
  ("environment", e.environment),
  ("database", e.database.name)]

def plainText : String := "text/plain; charset=utf-8"

/-- The answer to an action for the request `id`. -/
def response (e : Endpoint) (id : Option String) : Action → Response
  | .deliver _ => ⟨200, some plainText, none, Notification.acknowledgement, id⟩
  | .refuse => ⟨413, some plainText, none, "Failed to buffer the request body: length limit exceeded", id⟩
  | .health shown =>
    ⟨if e.isHealthy then 200 else 503, some "application/json", none, if shown then e.health else "", id⟩
  | .otherMethod allowed => ⟨405, none, some allowed, "", id⟩
  | .otherPath => ⟨404, none, none, "", id⟩

/-! ### Work -/

/-- What is done for an action. -/
def work (e : Endpoint) : Action → Procedure Unit
  | .deliver body => do
    let _ ← Notification.Delivery.process e.registry body
    pure ()
  | _ => pure ()

/-- Answers a request and does the work for it. -/
def serve (e : Endpoint) (conditions : Conditions) (w : World) (r : Request) : Response × Run Unit :=
  let a := action r
  (e.response r.id a, (e.work a).run conditions w)

end Endpoint
end Reconciliation.Service
