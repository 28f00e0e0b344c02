import Reconciliation.Failure
import Reconciliation.Json.Decoder

/-!
# Kinds of operations and their statuses

A payment is moved by operations: it is authorized, captured, refunded and so on. Each operation has a status.

* `Operation` and `Status` have fixed names, `Operation.ofName?` and `Status.ofName?` read them.
-/

namespace Reconciliation

/-- What an operation does to a payment. -/
inductive Operation where
  | authorize
  | capture
  | purchase
  | refund
  | void
  | credit
  | chargeback
  deriving Repr, DecidableEq, Inhabited

/-- How an operation ended, if it did. -/
inductive Status where
  | pending
  | success
  | paymentFailure
  | error
  | canceled
  deriving Repr, DecidableEq, Inhabited

namespace Operation

def all : List Operation := [.authorize, .capture, .purchase, .refund, .void, .credit, .chargeback]

def name : Operation → String
  | .authorize => "AUTHORIZE"
  | .capture => "CAPTURE"
  | .purchase => "PURCHASE"
  | .refund => "REFUND"
  | .void => "VOID"
  | .credit => "CREDIT"
  | .chargeback => "CHARGEBACK"

/-- The operation of a name. -/
def ofName? (s : String) : Except Failure Operation :=
  match all.find? (·.name == s) with
  | some o => .ok o
  | none => .error (.validation ("unknown transaction type '" ++ s ++ "'"))

def decoder : Json.Decoder Operation := .choice (all.map fun o => (o.name, o))

end Operation

namespace Status

def all : List Status := [.pending, .success, .paymentFailure, .error, .canceled]

def name : Status → String
  | .pending => "PENDING"
  | .success => "SUCCESS"
  | .paymentFailure => "PAYMENT_FAILURE"
  | .error => "ERROR"
  | .canceled => "CANCELED"

/-- The status of a name. -/
def ofName? (s : String) : Except Failure Status :=
  match all.find? (·.name == s) with
  | some x => .ok x
  | none => .error (.validation ("unknown transaction status '" ++ s ++ "'"))

def decoder : Json.Decoder Status := .choice (all.map fun s => (s.name, s))

end Status
end Reconciliation
