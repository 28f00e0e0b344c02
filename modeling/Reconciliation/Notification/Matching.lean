import Reconciliation.Call
import Reconciliation.Notification.Candidates
import Reconciliation.Notification.Item
import Reconciliation.Tenant

/-!
# Matching an item

An item is matched to an attempt by the first of these references that any candidate has: the item's parent
reference, its own reference, and the merchant reference, which may be the identifier of a transaction. The payment
and its payment method are then loaded from the platform.

* `Matching.find` finds the attempt and says by which reference.
* `Matching.resolve` finds the transaction; failures of the platform count as no match.
-/

namespace Reconciliation.Notification

/-- The reference that an item was matched by. -/
inductive Source where
  | parentReference
  | ownReference
  | merchantReference
  deriving Repr, DecidableEq

structure Match where
  attempt : Attempt
  /-- The payment as the platform knows it. -/
  payment : Payment
  transaction : Transaction
  family : Option Family
  source : Source
  deriving Repr, DecidableEq

namespace Matching

/-- The second of two searches, if the first finds nothing. -/
def orElse {α : Type} (p q : Attempted (Option α)) : Attempted (Option α) := do
  match ← p with
  | some a => pure (some a)
  | none => q

/-- The best candidate with a reference, if there is one. -/
def byReference (c : Candidates) (tenant : Option Ident) (source : Source) :
    Option String → Attempted (Option (Attempt × Source))
  | none => pure none
  | some reference => do
    let attempts ← Attempted.ask (.findByReference reference)
    pure ((c.select tenant attempts).map (·, source))

/-- The attempt for a transaction, if it is a candidate. -/
def byTransaction (c : Candidates) (tenant : Option Ident) :
    Option Ident → Attempted (Option (Attempt × Source))
  | none => pure none
  | some transaction => do
    let attempt ← Attempted.ask (.findByTransaction transaction)
    pure ((c.select tenant attempt.toList).map (·, .merchantReference))

/-- The identifier that a merchant reference is, if it is one. -/
def transactionId? (i : Item) : Option Ident :=
  i.merchantReference.bind fun s => (Ident.ofText? (Text.trim s)).toOption

/-- The item's own reference, unless it is the one it was looked for by before. -/
def ownReference? (i : Item) : Option String :=
  if i.parentReference = i.reference then none else i.reference

/-- The attempt that an item tells of. -/
def find (i : Item) (c : Candidates) (tenant : Option Ident) : Attempted (Option (Attempt × Source)) :=
  orElse (byReference c tenant .parentReference i.parentReference)
    (orElse (byReference c tenant .ownReference (ownReference? i)) (byTransaction c tenant (transactionId? i)))

/-- The family of the payment's method, or the one the item names where the platform does not know the method. -/
def family (i : Item) : Except Failure PaymentMethod → Option Family
  | .ok m => some m.family
  | .error _ => i.paymentMethod.map Family.ofText

/-- The transaction of an attempt on the platform. -/
def load (i : Item) (attempt : Attempt) (source : Source) : Procedure (Option Match) := do
  match ← Procedure.ask (.getPayment attempt.payment attempt.tenant) with
  | .error _ => pure none
  | .ok payment =>
    match payment.transaction? attempt.transaction with
    | none => pure none
    | some transaction => do
      let method ← Procedure.ask (.getMethod payment.method attempt.tenant)
      pure (some ⟨attempt, payment, transaction, family i method, source⟩)

/-- The transaction that an item tells of. Events without candidates are not looked for. -/
def resolve (i : Item) (tenant : Option Ident) : Attempted (Option Match) :=
  let c := Candidates.forEvent i.eventCode
  if c.isEmpty then pure none
  else do
    match ← find i c tenant with
    | none => pure none
    | some (attempt, source) => load i attempt source

end Matching
end Reconciliation.Notification
