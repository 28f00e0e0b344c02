import Reconciliation.Call

/-!
# Operations at the gateway

Each operation calls the gateway once and keeps one attempt, whatever the gateway answers. An attempt that can not
be kept fails the operation, even if the gateway accepted.

* `Operations.authorize`, `purchase`, `credit`, `capture`, `refund` and `void` are the operations.
* `Operations.statusOf` says what the gateway's result codes mean.
-/

namespace Reconciliation.Gateway

open Json Number

/-- Which operation of the platform is carried out. -/
structure Context where
  account : Ident
  payment : Ident
  transaction : Ident
  tenant : Ident
  merchantAccount : String
  deriving Repr, DecidableEq

/-- What is to be paid, and with what. -/
structure Details where
  amount : Decimal
  currency : String
  /-- The payment method as the gateway wants it, for a single payment. -/
  paymentMethod : Value
  /-- The payment method that the platform has stored, if any. -/
  stored : Option PaymentMethod
  deriving Repr, DecidableEq

/-- The result of an operation. -/
structure Info where
  payment : Ident
  transaction : Ident
  operation : Operation
  amount : Option Decimal
  currency : Option String
  status : Status
  reference : Option String
  resultCode : Option String
  error : Option String
  deriving Repr, DecidableEq

def Info.json (i : Info) : Value := .ofPairs [
  ("payment_id", .ofIdent i.payment),
  ("transaction_id", .ofIdent i.transaction),
  ("transaction_type", .string i.operation.name),
  ("amount", .ofOption .ofDecimal i.amount),
  ("currency", .ofString? i.currency),
  ("status", .string i.status.name),
  ("gateway_reference", .ofString? i.reference),
  ("gateway_result_code", .ofString? i.resultCode),
  ("gateway_error", .ofString? i.error)]

namespace Operations

/-- Result codes of operations that are not decided yet. -/
def pendingCodes : List String :=
  ["Received", "received", "Pending", "RedirectShopper", "IdentifyShopper", "ChallengeShopper", "PresentToShopper"]

/-- A result code such as `[capture-received]`. -/
def isReceipt (code : String) : Bool :=
  let cs := code.toList
  cs.head? == some '[' && "-received]".toList.isSuffixOf cs

/-- The status that a result code means. -/
def statusOf (code : String) : Status :=
  if code = "Authorised" then .success
  else if code ∈ pendingCodes || isReceipt code then .pending
  else if code = "Refused" || code = "Cancelled" then .paymentFailure
  else .error

/-- The reference of a stored payment method that may be used again. -/
def storedReference? (d : Details) : Option String :=
  (d.stored.filter (·.recurring)).bind (·.recurringReference)

/-- The order for a payment; a stored payment method goes before the one given. -/
def order (c : Context) (d : Details) (captureImmediately : Bool) : Order where
  merchantAccount := c.merchantAccount
  reference := c.transaction.text
  amount := d.amount
  currency := d.currency
  paymentMethod :=
    match storedReference? d with
    | some r => .ofPairs [("type", .string "scheme"), ("storedPaymentMethodId", .string r)]
    | none => d.paymentMethod
  shopperReference := some c.account.text
  recurring := (storedReference? d).isSome
  captureImmediately := captureImmediately

/-- The change to the payment of an earlier transaction. -/
def modification (c : Context) (parent : Ident) (amount : Option (Decimal × String)) : Attempted Modification := do
  match ← Attempted.ask (.findByTransaction parent) with
  | none => throw (.notFound "TransactionResponse" parent.text)
  | some attempt =>
    match attempt.reference with
    | none => throw (.validation ("transaction " ++ parent.text ++ " has no gateway reference yet"))
    | some reference =>
      pure ⟨c.merchantAccount, reference, c.transaction.text, amount.map (·.1), amount.map (·.2)⟩

/-- What is known of an operation once the gateway has answered or failed. -/
def info (c : Context) (o : Operation) (amount : Option Decimal) (currency : Option String) :
    Except Failure Answer → Info
  | .ok a =>
    ⟨c.payment, c.transaction, o, amount, currency, statusOf a.resultCode, a.reference, some a.resultCode,
      a.refusalReason⟩
  | .error f => ⟨c.payment, c.transaction, o, amount, currency, .error, none, none, some f.message⟩

/-- What is kept of the gateway's answer or failure. -/
def payload : Except Failure Answer → Value
  | .ok a => a.raw
  | .error f => .ofPairs [("error", .string f.message)]

/-- Calls the gateway and keeps the attempt. -/
def carryOut (c : Context) (o : Operation) (amount : Option Decimal) (currency : Option String)
    (request : Request) : Attempted Info := do
  let answer ← Attempted.tryAsk (.gateway request)
  let i := info c o amount currency answer
  Attempted.ask (.recordAttempt
    ⟨c.account, c.payment, c.transaction, o, amount, currency, i.reference, i.status, some (payload answer),
      c.tenant⟩)
  pure i

def authorize (c : Context) (d : Details) : Attempted Info :=
  carryOut c .authorize (some d.amount) (some d.currency) (.authorize (order c d false))

/-- Authorizes and captures in one. -/
def purchase (c : Context) (d : Details) : Attempted Info :=
  carryOut c .purchase (some d.amount) (some d.currency) (.authorize (order c d true))

/-- Pays out without an earlier payment. -/
def credit (c : Context) (d : Details) : Attempted Info :=
  carryOut c .credit (some d.amount) (some d.currency) (.credit (order c d false))

def capture (c : Context) (parent : Ident) (amount : Decimal) (currency : String) : Attempted Info := do
  let m ← modification c parent (some (amount, currency))
  carryOut c .capture (some amount) (some currency) (.capture m)

def refund (c : Context) (parent : Ident) (amount : Decimal) (currency : String) : Attempted Info := do
  let m ← modification c parent (some (amount, currency))
  carryOut c .refund (some amount) (some currency) (.refund m)

def void (c : Context) (parent : Ident) : Attempted Info := do
  let m ← modification c parent none
  carryOut c .void none none (.cancel m)

end Operations
end Reconciliation.Gateway
