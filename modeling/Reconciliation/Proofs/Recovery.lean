import Reconciliation.Proofs.Outcomes
import Reconciliation.Proofs.Redelivery
import Reconciliation.Proofs.Unread

/-!
# Recovering from failures

Where calls of a delivery fail, its writes may be done in part: the platform may have moved a transaction whose attempt
could not be moved. The next delivery of the item, if no call fails then, does what is left.

* `Recovers` says that delivering an item in one world leads where it leads in another; `recovers_of_left` goes through
  what a delivery can leave.
* `recovery` is the statement about a run.
-/

namespace Reconciliation.Notification.Delivery

open Procedure Platform Matching

variable {r : Registry} {conditions : Conditions} {w u v : World} {i : Item} {m : Match} {t : Tenant} {o : Outcome}
  {s : Status}

/-- Delivering an item in `u` where no call fails leads where it leads in `w`, though it may be there already. -/
structure Recovers (r : Registry) (i : Item) (w u : World) : Prop where
  same : ((item r i).fairly w).2.Same ((item r i).fairly u).2
  outcome : ((item r i).fairly u).1 = ((item r i).fairly w).1 ∨ ((item r i).fairly u).1 = ((item r i).fairly w).1.again

theorem Recovers.refl (r : Registry) (i : Item) (w : World) : Recovers r i w w := ⟨.refl _, .inl rfl⟩

/-- The audit has no part in it. -/
theorem Recovers.of_same (h : Recovers r i w u) (same : u.Same v) : Recovers r i w v := by
  obtain ⟨ending, -, world⟩ := (item_heedless r i).run_same (.refl .fair) same
  rw [world_fair, world_fair] at world
  rw [ending_fair, ending_fair, Ending.finished.injEq] at ending
  exact ⟨h.same.trans world, by rw [ending]; exact h.outcome⟩

/-- The item has its outcome again, and the stores are the same but for an audit entry. -/
theorem Recovers.of_fairly {d e : AuditEntry} (hw : (item r i).fairly w = (o, v.noted d))
    (hu : (item r i).fairly u = (o.again, v.noted e)) : Recovers r i w u where
  same := by
    rw [hw, hu]
    exact ⟨rfl, rfl⟩
  outcome := by
    rw [hw, hu]
    exact .inr rfl

/-- Where its payment method can be asked for, an item has the match that it has where no call fails. -/
theorem accepted_of_matchedTo (methods : .getMethod ∉ conditions.failing) (matched : MatchedTo r conditions w i m)
    (h : Accepted r w i m) : accepted r i w.journal.attempts w.platform = .ok m :=
  accepted_eq_ok.2 ⟨h.owner, (glimpsed_of_matchedTo matched).known methods, h.tenant⟩

/-- What is settled in spite of failures is settled as where no call fails. -/
theorem Settlement.fairly {tenant : Option Ident} (found : Found w i tenant m)
    (h : Settlement conditions i m t w (.ok o) u) : (settle i m t).run.fairly w = (.ok o, u) := by
  cases h with
  | passed settled outcome => exact settle_fairly_of_eq_pure settled w
  | standing settled recorded => exact settle_fairly_of_eq_pure settled w
  | kept asks status => exact settle_kept asks status w
  | moved asks status => exact settle_moved found asks status
  | created asks target carried fresh => exact settle_created found asks target carried fresh
  | reversed asks picked status => exact settle_reversed found asks picked status

/-- After everything was done, the item rests. -/
theorem recovers_of_settled (distinct : w.platform.DistinctInPayments)
    (h : accepted r i w.journal.attempts w.platform = .ok m)
    (settled : (settle i m (tenantFor r i m)).run.fairly w = (.ok o, u)) : Recovers r i w u := by
  obtain ⟨e, he⟩ := item_of_ok h settled
  obtain ⟨o', v, e', hv, -, rests⟩ := rests_again r i w distinct
  obtain ⟨rfl, rfl⟩ : o' = o ∧ v = u.noted e := by simpa [he, eq_comm] using hv
  obtain ⟨e'', hu⟩ := rests u rfl rfl
  exact .of_fairly he hu

/-- After the platform moved a transaction, the item is matched to it again, which is not stale, and its attempt is
moved. -/
theorem recovers_of_moved (h : accepted r i w.journal.attempts w.platform = .ok m)
    (asks : Asks i m (tenantFor r i m) ⟨.matched, s⟩) (status : m.transaction.status ≠ s) :
    Recovers r i w { w with platform := (w.platform.updateTransaction (matchedChange i m s)).2 } := by
  obtain ⟨-, hm, -⟩ := accepted_eq_ok.1 h
  have found := found_of_sight hm
  obtain ⟨m', h', rematch, -, htr⟩ := accepted_again h (sight_eq_some.1 hm).1 rfl (stands_changed found s) rfl
    (methods_updateTransaction _ _)
  have status' : m'.transaction.status = s := by rw [htr]; rfl
  have id' : m'.transaction.id = m.transaction.id := by rw [htr]; rfl
  have asks' : Asks i m' (tenantFor r i m') ⟨.matched, s⟩ := by
    refine asks_again rematch asks (by rw [htr]; rfl) ?_
    rintro ⟨hs, hf⟩
    cases hs
    exact absurd (status'.symm.trans hf) (by simp)
  obtain ⟨e, he⟩ := item_of_ok h (settle_moved found asks status)
  obtain ⟨e', he'⟩ := item_of_ok
    (w := { w with platform := (w.platform.updateTransaction (matchedChange i m s)).2 }) h'
    (settle_kept asks' status' _)
  refine .of_fairly (e := e') he ?_
  rw [he', id', movedAttempts, rematch.key]
  rfl

theorem recovers_of_left (distinct : w.platform.DistinctInPayments) (methods : .getMethod ∉ conditions.failing)
    (h : Left r conditions w i u) : Recovers r i w u := by
  cases h with
  | nothing => exact .refl r i w
  | halfway matched accepted halfway =>
    have h := accepted_of_matchedTo methods matched accepted
    cases halfway with
    | untouched => exact .refl r i w
    | moved asks status stopped => exact recovers_of_moved h asks status
  | settled matched accepted settlement =>
    exact recovers_of_settled distinct (accepted_of_matchedTo methods matched accepted)
      (settlement.fairly accepted.toFound)

/-- Whatever calls fail or abort in a delivery of an item, but that for the payment method does not fail, a delivery
after it in which no call fails leaves the attempts and the platform as a single delivery does in which no call fails.
Its outcome is the same, but that what was applied may be there already. -/
theorem recovery (r : Registry) (w : World) (distinct : w.platform.DistinctInPayments) (i : Item)
    (conditions : Conditions) (methods : .getMethod ∉ conditions.failing) :
    let failed := (item r i).run conditions w
    let again := (item r i).run .fair failed.world
    let once := (item r i).run .fair w
    again.world.journal.attempts = once.world.journal.attempts ∧ again.world.platform = once.world.platform ∧
      ∃ o, once.ending = .finished o ∧ (again.ending = .finished o ∨ again.ending = .finished o.again) := by
  obtain ⟨u, left, same⟩ := left_of_item r conditions w i
  have recovers := (recovers_of_left distinct methods left).of_same same
  dsimp only
  rw [world_fair, world_fair, ending_fair, ending_fair]
  exact ⟨recovers.same.attempts, recovers.same.platform, _, rfl,
    recovers.outcome.imp (congrArg Ending.finished) (congrArg Ending.finished)⟩

/-- A payment whose attempt could not be moved when it was authorized is moved at the next delivery. -/
theorem recovery_of_unrecorded :
    specimen.platform.DistinctInPayments ∧ Call.Kind.getMethod ∉ unrecording.failing ∧
      let failed := (item .empty (specimenItem .authorisation true none none)).run unrecording specimen
      let again := (item .empty (specimenItem .authorisation true none none)).run .fair failed.world
      failed.world.platform.transitions = [(.given 4, .success)] ∧
        failed.world.journal.attempts = specimen.journal.attempts ∧
        again.world.platform.transitions = [(.given 4, .success)] ∧
        again.world.journal.attempts.map (·.status) = [.success, .pending] := by
  have distinct : specimen.platform.DistinctInPayments := distinctInPayments_of_nodup (by decide)
  have methods : Call.Kind.getMethod ∉ unrecording.failing := by decide
  obtain ⟨attempts, platform, -⟩ :=
    recovery .empty specimen distinct (specimenItem .authorisation true none none) unrecording methods
  refine ⟨distinct, methods, by decide +kernel, by decide +kernel, ?_, ?_⟩
  · rw [platform]
    decide +kernel
  · rw [attempts]
    decide +kernel

end Reconciliation.Notification.Delivery
