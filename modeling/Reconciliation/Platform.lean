import Reconciliation.Platform.Payment

/-!
# The billing platform in memory

A platform that holds its payments in the order in which they were inserted and keeps a log of the status changes
that had an effect.

* `Platform.updateTransaction` moves a transaction; asking again for the same status changes nothing.
* `Platform.createChargeback` appends a chargeback; asking again with the same key changes nothing.
-/

namespace Reconciliation

open Time

structure Platform where
  payments : List Payment
  methods : List PaymentMethod
  /-- The status changes that had an effect, in order. -/
  transitions : List (Ident × Status)
  /-- The number of times a status change was asked for. -/
  updateCalls : Nat
  deriving Repr, DecidableEq, Inhabited

namespace Platform

def empty : Platform := ⟨[], [], [], 0⟩

/-- Puts an element in the place of the one with the same key, or behind all others. -/
def put {α : Type} (key : α → Ident) (a : α) : List α → List α
  | [] => [a]
  | b :: rest => if key b = key a then a :: rest else b :: put key a rest

/-- Changes the first element with a key. -/
def change {α : Type} (key : α → Ident) (k : Ident) (f : α → α) : List α → List α
  | [] => []
  | b :: rest => if key b = k then f b :: rest else b :: change key k f rest

def insertPayment (p : Platform) (payment : Payment) : Platform :=
  { p with payments := put Payment.id payment p.payments }

def insertMethod (p : Platform) (method : PaymentMethod) : Platform :=
  { p with methods := put PaymentMethod.id method p.methods }

/-- The payment with an id. -/
def payment? (p : Platform) (id : Ident) : Except Failure Payment :=
  match p.payments.find? (·.id == id) with
  | some x => .ok x
  | none => .error (.notFound "Payment" id.text)

/-- The payment method with an id. -/
def method? (p : Platform) (id : Ident) : Except Failure PaymentMethod :=
  match p.methods.find? (·.id == id) with
  | some x => .ok x
  | none => .error (.notFound "PaymentMethod" id.text)

/-- Appends a transaction to a payment. -/
def append (payment : Ident) (t : Transaction) (payments : List Payment) : List Payment :=
  change Payment.id payment (fun p => { p with transactions := p.transactions ++ [t] }) payments

/-- Adds a transaction to a payment from outside. -/
def pushTransaction (p : Platform) (payment : Ident) (t : Transaction) : Except Failure Platform := do
  let _ ← p.payment? payment
  pure { p with payments := append payment t p.payments }

/-- All transactions of all payments. -/
def transactions (p : Platform) : List Transaction := p.payments.flatMap (·.transactions)

/-- The greatest of some numbers, or zero. -/
def greatest (ns : List Nat) : Nat := ns.foldl max 0

/-- The serial number of the next identifier that is drawn, greater than all that are in use. -/
def nextSerial (ids : List Ident) : Nat :=
  greatest (ids.map fun | .given _ => 0 | .drawn n => n) + 1

/-- The next moment, later than all that were. -/
def nextMoment (moments : List Moment) : Moment := .live (greatest (moments.map Moment.tick) + 1)

/-! ### What the platform is asked for -/

/-- A transaction after a change; a gateway reference is only filled in. -/
def changed (c : StatusChange) (t : Transaction) : Transaction :=
  { t with
    gatewayReference := t.gatewayReference.or c.gatewayReference
    status := c.status }

/-- Moves a transaction to a status. A transaction that has it already only gets a missing gateway reference. -/
def updateTransaction (p : Platform) (c : StatusChange) : Except Failure Unit × Platform :=
  let counted := { p with updateCalls := p.updateCalls + 1 }
  match (p.payments.find? (·.id == c.payment)).bind (·.transaction? c.transaction) with
  | none => (.error (.notFound "PaymentTransaction" c.transaction.text), counted)
  | some t =>
    let edit (x : Payment) : Payment :=
      { x with transactions := change Transaction.id c.transaction (changed c) x.transactions }
    (.ok (), { counted with
      payments := change Payment.id c.payment edit p.payments
      transitions := if t.status = c.status then p.transitions else p.transitions ++ [(c.transaction, c.status)] })

/-- The transaction of a new chargeback, already successful. -/
def chargebackTransaction (p : Platform) (c : NewChargeback) : Transaction where
  id := .drawn (nextSerial (p.transactions.map (·.id)))
  externalKey := c.externalKey
  operation := .chargeback
  status := .success
  amount := c.amount
  currency := c.currency
  gatewayReference := c.gatewayReference
  created := nextMoment (p.transactions.map (·.created))

/-- Records a chargeback on a payment; the transaction that already has its key is returned instead, if there is
one. -/
def createChargeback (p : Platform) (payment : Ident) (c : NewChargeback) : Except Failure Transaction × Platform :=
  match p.payment? payment with
  | .error f => (.error f, p)
  | .ok x =>
    match x.transactionByKey? c.externalKey with
    | some t => (.ok t, p)
    | none =>
      let t := p.chargebackTransaction c
      (.ok t, { p with
        payments := append payment t p.payments
        transitions := p.transitions ++ [(t.id, .success)] })

end Platform
end Reconciliation
