import Reconciliation.Attempt
import Reconciliation.Notification.EventCode

/-!
# Candidates for an event

The gateway uses one reference for several operations, so an attempt with the right reference need not be the one
an event tells of. Each event comes from certain kinds of operations: exactly the ones it is named for, or others
that are likely.

* `Candidates.forEvent` lists these operations.
* `Candidates.select` picks the best attempt: an exact one before a likely one, then the latest.
-/

namespace Reconciliation.Notification

open Time

structure Candidates where
  exact : List Operation
  likely : List Operation
  deriving Repr, DecidableEq

namespace Candidates

/-- The operations an event can come from. Chargebacks belong to the payment, never to a capture. -/
def forEvent : EventCode → Candidates
  | .authorisation => ⟨[.authorize], [.purchase]⟩
  | .capture | .captureFailed => ⟨[.capture], [.purchase]⟩
  | .cancellation => ⟨[.void], []⟩
  | .refund | .refundFailed | .refundedReversed => ⟨[.refund], [.credit]⟩
  | .chargeback | .chargebackReversed | .notificationOfChargeback | .requestForInformation =>
    ⟨[.authorize, .purchase], []⟩
  | .reportAvailable | .notificationTest | .other _ => ⟨[], []⟩

/-- Two for an exact operation, one for a likely one. -/
def rank? (c : Candidates) (o : Operation) : Option Nat :=
  if o ∈ c.exact then some 2 else if o ∈ c.likely then some 1 else none

/-- No operation comes into question. -/
def isEmpty (c : Candidates) : Bool := c.exact.isEmpty && c.likely.isEmpty

/-- An attempt with its rank, if it comes into question. -/
def ranked? (c : Candidates) (tenant : Option Ident) (a : Attempt) : Option (Nat × Attempt) :=
  if tenant.all (a.tenant == ·) then (c.rank? a.operation).map (·, a) else none

/-- A ranked attempt gives way to another of at least its rank that is not older. -/
def givesWay (a b : Nat × Attempt) : Bool :=
  a.1 < b.1 || (a.1 == b.1 && a.2.created.notAfter b.2.created)

/-- The better of two, the later in the list where they are equal. -/
def better (best : Option (Nat × Attempt)) (next : Nat × Attempt) : Option (Nat × Attempt) :=
  match best with
  | none => some next
  | some b => if givesWay b next then some next else some b

/-- The best attempt, of one tenant only if one is given. -/
def select (c : Candidates) (tenant : Option Ident) (attempts : List Attempt) : Option Attempt :=
  ((attempts.filterMap (c.ranked? tenant)).foldl better none).map (·.2)

end Candidates
end Reconciliation.Notification
