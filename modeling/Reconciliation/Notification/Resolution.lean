import Reconciliation.Notification.EventCode
import Reconciliation.Operation
import Reconciliation.Tenant

/-!
# Resolving an event

What an event asks for depends on the operation it was matched to, the status of that operation, the event itself
and whether chargebacks on the family fail the payment.

A payment failure is final: it comes from a correction, and a success that is told of later is stale.

* `Resolution.ofEvent` is the table of all cases.
-/

namespace Reconciliation.Notification

/-- What a transition applies to. -/
inductive Target where
  /-- The transaction that was matched. -/
  | matched
  /-- A chargeback that is to be created on the payment. -/
  | newChargeback
  /-- The chargeback that was recorded on the payment. -/
  | existingChargeback
  deriving Repr, DecidableEq

structure Transition where
  target : Target
  status : Status
  deriving Repr, DecidableEq

inductive Resolution where
  | transition (t : Transition)
  /-- The event is recorded, no more. -/
  | informational
  /-- The event code is not known. -/
  | unrecognized
  /-- The event can not apply to an operation of this kind. -/
  | inapplicable (operation : Operation)
  /-- The operation has failed already; the success is stale. -/
  | superseded (current : Status)
  deriving Repr, DecidableEq

namespace Resolution

/-- The status that a success flag tells of. -/
def outcome (success : Bool) : Status := if success then .success else .paymentFailure

/-- A transition, if the operation is one of those the event can apply to and the transition is not stale. -/
def ofTransition (operation : Operation) (current : Status) (applicable : List Operation) (t : Transition) :
    Resolution :=
  if operation ∉ applicable then .inapplicable operation
  else if t = ⟨.matched, .success⟩ ∧ current = .paymentFailure then .superseded current
  else .transition t

/-- What an event asks for. `failing` says whether chargebacks on the family fail the payment. -/
def ofEvent (operation : Operation) (current : Status) (event : EventCode) (success failing : Bool) : Resolution :=
  let apply := ofTransition operation current
  match event with
  | .authorisation => apply [.authorize, .purchase] ⟨.matched, outcome success⟩
  | .capture => apply [.capture, .purchase] ⟨.matched, outcome success⟩
  | .captureFailed => apply [.capture, .purchase] ⟨.matched, .paymentFailure⟩
  | .cancellation => apply [.void] ⟨.matched, outcome success⟩
  | .refund => apply [.refund, .credit] ⟨.matched, outcome success⟩
  | .refundFailed | .refundedReversed => apply [.refund, .credit] ⟨.matched, .paymentFailure⟩
  | .chargeback =>
    apply [.authorize, .purchase] (if failing then ⟨.matched, .paymentFailure⟩ else ⟨.newChargeback, .success⟩)
  | .chargebackReversed =>
    if failing then .informational else apply [.authorize, .purchase] ⟨.existingChargeback, .paymentFailure⟩
  | .notificationOfChargeback | .requestForInformation | .reportAvailable | .notificationTest => .informational
  | .other _ => .unrecognized

/-- Whether chargebacks fail the payment; they do not where the family is unknown. -/
def failing (tenant : Tenant) (family : Option Family) : Bool := family.any tenant.failsOnChargeback

end Resolution
end Reconciliation.Notification
