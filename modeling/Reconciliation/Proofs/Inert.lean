import Reconciliation.Proofs.AuditTrail
import Reconciliation.Proofs.Verification

/-!
# Events that move nothing

Only nine event codes can move a transaction. All others, whether they are known or not, are recorded and no more, and
most of them are not even looked up.

* `movingCodes` are these nine, `disputeCodes` the two that tell of a dispute on a payment without moving it.
* `ofEvent_of_inert` and `forEvent_of_unlinked` say what the tables of resolutions and of candidates hold for the others.
* `inert_event` is the statement about an item.
-/

namespace Reconciliation.Notification

/-- The codes of the events that can move a transaction. -/
def movingCodes : List String := [
  "AUTHORISATION", "CAPTURE", "CAPTURE_FAILED", "CANCELLATION", "REFUND", "REFUND_FAILED", "REFUNDED_REVERSED",
  "CHARGEBACK", "CHARGEBACK_REVERSED"]

/-- The codes of the events that tell of a dispute on a payment and do not move it. -/
def disputeCodes : List String := ["NOTIFICATION_OF_CHARGEBACK", "REQUEST_FOR_INFORMATION"]

/-! ### The tables -/

/-- Any other code asks for no transition. -/
theorem ofEvent_of_inert {code : String} (inert : code ∉ movingCodes) (operation : Operation) (current : Status)
    (success failing : Bool) (x : Transition) :
    Resolution.ofEvent operation current (.ofText code) success failing ≠ .transition x := by
  have text := EventCode.text_ofText code
  generalize EventCode.ofText code = event at text
  subst text
  cases event with
  | notificationOfChargeback | requestForInformation | reportAvailable | notificationTest | other =>
    simp [Resolution.ofEvent]
  | _ => exact absurd (by decide) inert

/-- A code that tells of no dispute either has no candidates. -/
theorem forEvent_of_unlinked {code : String} (inert : code ∉ movingCodes) (unlinked : code ∉ disputeCodes) :
    (Candidates.forEvent (.ofText code)).isEmpty = true := by
  have text := EventCode.text_ofText code
  generalize EventCode.ofText code = event at text
  subst text
  cases event with
  | reportAvailable | notificationTest | other => rfl
  | notificationOfChargeback | requestForInformation => exact absurd (by decide) unlinked
  | _ => exact absurd (by decide) inert

namespace Delivery

open Procedure Matching

variable {r : Registry} {i : Item} {e : AuditEntry} {o : Outcome} {code : String} {trace : List Event}

/-! ### Items -/

theorem conclude_inert (ho : o.transaction? = none) :
    (conclude e o).Behaves (fun _ k => k.writes = false) (fun o _ => o.transaction? = none) trace :=
  ⟨rfl, fun _ => ho⟩

/-- Whatever the answers are, no call writes, and nothing is said to be applied. -/
theorem item_inert (parsed : i.eventCode = .ofText code) (inert : code ∉ movingCodes) (r : Registry) :
    (item r i).Behaves (fun _ k => k.writes = false) (fun o _ => o.transaction? = none) trace := by
  unfold item
  dsimp only
  split
  case isFalse => exact conclude_inert rfl
  case isTrue =>
  rw [bind_eq, behaves_bind]
  refine (resolve_behaves i _).mono (fun _ _ => Call.not_writes_of_reads) fun x trace _ => ?_
  match x with
  | .error f => exact conclude_inert rfl
  | .ok none => exact conclude_inert rfl
  | .ok (some m) =>
    dsimp only
    split
    case isFalse => exact conclude_inert rfl
    case isTrue =>
    have asks : ∀ x, ¬ Asks i m (tenantOf r (r.forAccount? i.merchantAccount) m.attempt) x := fun x => by
      rw [Asks, parsed]
      exact ofEvent_of_inert inert _ _ _ _ x
    obtain ⟨o, settled, ho⟩ := settle_of_not_asks asks
    rw [settled]
    have unnamed : o.transaction? = none := by rcases ho with rfl | ⟨_, rfl⟩ <;> rfl
    exact conclude_inert unnamed

/-- An item whose event has no candidates is not looked up. -/
theorem item_of_isEmpty (h : (Candidates.forEvent i.eventCode).isEmpty = true) (r : Registry) :
    item r i = conclude (ownerEntry r i)
      (if (r.forAccount? i.merchantAccount).all (verified i) then .unmatched else .rejected) := by
  unfold item
  dsimp only
  split
  · unfold resolve
    dsimp only
    rw [if_pos h]
    rfl
  · rfl

/-- Whatever calls fail or abort, an item whose event code is none of the nine makes no call that could change an attempt
or the platform, leaves both as they are, and is never reported as applied. If its code tells of no dispute either, its
only call is the one for its audit entry, which belongs to no payment and has the code as it came; it counts as unmatched
or is rejected. -/
theorem inert_event (r : Registry) (conditions : Conditions) (w : World) (i : Item) (code : String)
    (parsed : i.eventCode = .ofText code) (inert : code ∉ movingCodes) :
    let run := (item r i).run conditions w
    (∀ e ∈ run.trace, e.call.writes = false) ∧ run.world.journal.attempts = w.journal.attempts ∧
      run.world.platform = w.platform ∧
      (∀ t s, run.ending ≠ .finished (.applied t s) ∧ run.ending ≠ .finished (.alreadyApplied t s)) ∧
      (code ∉ disputeCodes → ∃ e o, (o = .unmatched ∨ o = .rejected) ∧ e.NamesNone ∧ e.eventCode = code ∧
        OnlyEnters conditions w e o run) := by
  dsimp only
  have behaves : (item r i).Behaves _ _ [] := item_inert parsed inert r
  obtain ⟨attempts, platform, calls⟩ : Idle conditions w (item r i) := behaves.idle w
  refine ⟨calls, attempts, platform, fun t s => ⟨fun h => ?_, fun h => ?_⟩, fun unlinked => ?_⟩
  · cases behaves.result h
  · cases behaves.result h
  · have empty : (Candidates.forEvent i.eventCode).isEmpty = true := parsed ▸ forEvent_of_unlinked inert unlinked
    rw [item_of_isEmpty empty]
    refine ⟨_, _, ?_, ⟨rfl, rfl, rfl⟩, ?_, conclude_onlyEnters _ _ _ _⟩
    · split
      · exact .inl rfl
      · exact .inr rfl
    · change i.eventCode.text = code
      rw [parsed, EventCode.text_ofText]

/-- A request for information on the authorization of the small world is recorded with it, and an item with a code that is
not known is not even looked up. -/
theorem inert_event_of_references :
    let request := specimenItem .requestForInformation true none none
    let unknown := specimenItem (.other "ORDER_OPENED") false (some "A") (some "A")
    (request.eventCode = .ofText "REQUEST_FOR_INFORMATION" ∧ "REQUEST_FOR_INFORMATION" ∉ movingCodes ∧
      ((item .empty request).run .fair specimen).ending = .finished .informational ∧
      ((item .empty request).run .fair specimen).world.platform = specimen.platform) ∧
    unknown.eventCode = .ofText "ORDER_OPENED" ∧ "ORDER_OPENED" ∉ movingCodes ∧ "ORDER_OPENED" ∉ disputeCodes ∧
      ∃ e o, e.eventCode = "ORDER_OPENED" ∧ OnlyEnters .fair specimen e o ((item .empty unknown).run .fair specimen) := by
  dsimp only
  have informational : ((item .empty (specimenItem .requestForInformation true none none)).run .fair specimen).ending =
      .finished .informational := by
    have outcome : ((item .empty (specimenItem .requestForInformation true none none)).fairly specimen).1 =
        .informational := by decide +kernel
    rw [ending_fair, outcome]
  obtain ⟨-, -, platform, -⟩ := inert_event .empty .fair specimen (specimenItem .requestForInformation true none none)
    "REQUEST_FOR_INFORMATION" (by decide) (by decide)
  obtain ⟨-, -, -, -, unlinked⟩ := inert_event .empty .fair specimen
    (specimenItem (.other "ORDER_OPENED") false (some "A") (some "A")) "ORDER_OPENED" (by decide) (by decide)
  obtain ⟨e, o, -, -, code, enters⟩ := unlinked (by decide)
  exact ⟨⟨by decide, by decide, informational, platform⟩, by decide, by decide, by decide, e, o, code, enters⟩

end Delivery
end Reconciliation.Notification
