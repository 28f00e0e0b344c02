import Reconciliation.Proofs.Deliveries
import Reconciliation.Proofs.Interleaving

/-!
# Failures and stale deliveries

Between the look-up of a transaction and its change, other deliveries may have failed it. A success is then written all
the same, since only the status that was looked up is heeded.

* `SawOpen` says that a delivery looked a transaction up while it had not failed.
* `item_heeds`: an item asks for a status other than a failure only after it has seen the transaction open.
* `failure_stays`: a failure is final but for the deliveries under way that have seen the transaction open before.
* `refund_overtakes_reversal` is a run in which a failure is not final.
-/

namespace Reconciliation

namespace Platform

/-- The payment has the transaction, and it has failed. -/
def Failed (p : Platform) (payment transaction : Ident) : Prop :=
  ∃ t, p.transactionOf? payment transaction = some t ∧ t.status = .paymentFailure

variable {p : Platform} {payment transaction : Ident} {x : Payment} {t : Transaction}

theorem failed_iff : p.Failed payment transaction ↔
    (p.transactionOf? payment transaction).map (·.status) = some .paymentFailure :=
  Option.map_eq_some_iff.symm

instance : Decidable (p.Failed payment transaction) := decidable_of_iff _ failed_iff.symm

/-- A change leaves a transaction failed, if it is about another one or fails it again. -/
theorem Failed.updateTransaction (h : p.Failed payment transaction) {c : StatusChange}
    (hc : c.payment = payment → c.transaction = transaction → c.status = .paymentFailure) :
    (p.updateTransaction c).2.Failed payment transaction := by
  obtain ⟨t, ht, hs⟩ := h
  obtain ⟨x, hx, hxt⟩ := transactionOf?_eq_some.1 ht
  cases hfound : p.transactionOf? c.payment c.transaction with
  | none =>
    have unchanged : (p.updateTransaction c).2.payments = p.payments := by
      rw [transactionOf?] at hfound
      simp only [Platform.updateTransaction, hfound]
    exact ⟨t, by rw [transactionOf?, unchanged, ← transactionOf?, ht], hs⟩
  | some u =>
    obtain ⟨y, hy, hyu⟩ := transactionOf?_eq_some.1 hfound
    have hafter := find?_updateTransaction hy hyu payment
    by_cases hp : payment = c.payment
    · subst hp
      rw [hx] at hy
      cases hy
      rw [if_pos rfl] at hafter
      by_cases hu : transaction = c.transaction
      · refine ⟨changed c t, transactionOf?_eq_some.2 ⟨_, hafter, ?_⟩, hc rfl hu.symm⟩
        rw [transaction?_edited, if_pos hu, hxt, Option.map_some]
      · refine ⟨t, transactionOf?_eq_some.2 ⟨_, hafter, ?_⟩, hs⟩
        rw [transaction?_edited, if_neg hu, hxt]
    · rw [if_neg hp] at hafter
      exact ⟨t, transactionOf?_eq_some.2 ⟨x, hafter.trans hx, hxt⟩, hs⟩

theorem Failed.createChargeback (h : p.Failed payment transaction) (k : Ident) (c : NewChargeback) :
    (p.createChargeback k c).2.Failed payment transaction := by
  obtain ⟨t, ht, hs⟩ := h
  obtain ⟨x, hx, hxt⟩ := transactionOf?_eq_some.1 ht
  cases hy : p.payments.find? (·.id == k) with
  | none =>
    have unchanged : (p.createChargeback k c).2 = p := by simp [Platform.createChargeback, payment?, hy]
    exact ⟨t, by rw [unchanged, ht], hs⟩
  | some y =>
    cases hk : y.transactionByKey? c.externalKey with
    | some known =>
      have unchanged : (p.createChargeback k c).2 = p := by simp [Platform.createChargeback, payment?, hy, hk]
      exact ⟨t, by rw [unchanged, ht], hs⟩
    | none =>
      have hafter := find?_createChargeback hy hk payment
      split at hafter
      · next hp =>
        subst hp
        rw [hx] at hy
        cases hy
        refine ⟨t, transactionOf?_eq_some.2 ⟨_, hafter, ?_⟩, hs⟩
        rw [transaction?_extended, hxt, Option.some_or]
      · exact ⟨t, transactionOf?_eq_some.2 ⟨x, hafter.trans hx, hxt⟩, hs⟩

end Platform

/-- Only a change of a failed transaction to another status makes it anything else. -/
theorem World.failed_answer {w : World} {payment transaction : Ident} (h : w.platform.Failed payment transaction)
    (c : Conditions) {k : Call} (hk : ∀ change tenant, k = .updateTransaction change tenant →
      change.payment = payment → change.transaction = transaction → change.status = .paymentFailure) :
    (w.answer c k).2.platform.Failed payment transaction := by
  unfold World.answer
  split
  · exact h
  · cases k with
    | updateTransaction change tenant => exact h.updateTransaction (hk change tenant rfl)
    | createChargeback k chargeback tenant => exact h.createChargeback k chargeback
    | _ => exact h

/-! ### What a delivery has seen -/

/-- The payment was answered with the transaction, which had not failed. -/
def SawOpen (trace : List Event) (payment transaction : Ident) : Prop :=
  ∃ asked tenant x t, (⟨.getPayment asked tenant, some (.ok x)⟩ : Event) ∈ trace ∧ x.id = payment ∧
    x.transaction? transaction = some t ∧ t.status ≠ .paymentFailure

/-- Nothing is seen open once it has failed. -/
theorem not_sawOpen_of_failed {w : World} {payment transaction : Ident} (h : w.platform.Failed payment transaction)
    (c : Conditions) (k : Call) {trace : List Event} (hnot : ¬ SawOpen trace payment transaction) :
    ¬ SawOpen (trace ++ [⟨k, some (w.answer c k).1⟩]) payment transaction := by
  rintro ⟨asked, tenant, x, t, hmem, rfl, ht, hs⟩
  rcases List.mem_append.1 hmem with hmem | hmem
  · exact hnot ⟨asked, tenant, x, t, hmem, rfl, ht, hs⟩
  · rw [List.mem_singleton] at hmem
    injection hmem with hk ha
    subst hk
    have hanswer : (w.answer c (.getPayment asked tenant)).1 = .ok x := (Option.some.inj (eq_of_heq ha)).symm
    have hx : w.platform.payments.find? (·.id == asked) = some x := by
      unfold World.answer at hanswer
      split at hanswer
      · cases hanswer
      · simp only [World.perform, Platform.payment?] at hanswer
        split at hanswer
        · next y hy =>
          cases hanswer
          exact hy
        · cases hanswer
    have hid : x.id = asked := by simpa using List.find?_some hx
    obtain ⟨u, hu, hus⟩ := h
    obtain ⟨y, hy, hyu⟩ := Platform.transactionOf?_eq_some.1 hu
    rw [hid, hx] at hy
    cases hy
    rw [ht] at hyu
    cases hyu
    exact hs hus

/-- A status other than a failure is only asked for where the transaction was seen open. -/
def Heeded (trace : List Event) (k : Call) : Prop :=
  ∀ change tenant, k = .updateTransaction change tenant → change.status ≠ .paymentFailure →
    SawOpen trace change.payment change.transaction

namespace Notification.Delivery

open Procedure Matching

theorem item_heeds (r : Registry) (i : Item) :
    (item r i).Behaves Heeded (fun _ _ => True) [] := by
  refine (item_behaves r i).mono (fun trace k hk => ?_) fun _ _ _ => trivial
  rintro change tenant rfl hs
  cases hk with
  | read h => cases h
  | write m loaded h =>
    cases h with
    | matched s asks status =>
      obtain ⟨tenant', hmem⟩ := loaded.payment
      have hid : m.transaction.id = m.attempt.transaction := by simpa using List.find?_some loaded.transaction
      have hfound : m.payment.transaction? m.transaction.id = some m.transaction := hid ▸ loaded.transaction
      refine ⟨_, tenant', m.payment, m.transaction, hmem, rfl, hfound, fun hfailed => ?_⟩
      -- a success is not asked for where the status that was seen is a failure
      rcases Resolution.status_of_transition asks with h | h
      · refine ((Resolution.ofEvent_eq_transition _).1 asks).2 ⟨?_, hfailed⟩
        cases h
        rfl
      · exact hs h
    | reversed s asks chargeback picked status => exact absurd (Resolution.of_existingChargeback asks rfl).2 hs

variable {c : Conditions} {payment transaction : Ident}

/-- A transaction that has failed stays failed while no strand makes a call that has seen it open. -/
theorem failed_play {s : Pool Outcome} (heeds : ∀ t ∈ s.strands, t.rest.Behaves Heeded (fun _ _ => True) t.trace)
    (failed : s.world.platform.Failed payment transaction) (later : List Nat)
    (blind : ∀ n ∈ later, ∀ t, s.strands[n]? = some t → t.isDone = false → ¬ SawOpen t.trace payment transaction) :
    (s.play c later).world.platform.Failed payment transaction := by
  induction later generalizing s with
  | nil => exact failed
  | cons n rest ih =>
    rw [List.forall_mem_cons] at blind
    rw [Pool.play_cons]
    have heeds' := Pool.behaves_play (c := c) heeds [n]
    rw [Pool.play_cons, Pool.play_nil] at heeds'
    rcases Pool.step_cases c s n with hstep | ⟨before, trace, k, next, after, hstrands, hn, -, hstep⟩
    · rw [hstep]
      exact ih heeds failed blind.2
    · subst hn
      have hget : s.strands[before.length]? = some ⟨trace, .call k next⟩ := by simp [hstrands]
      have hnot : ¬ SawOpen trace payment transaction := blind.1 _ hget rfl
      have hk : Heeded trace k := (heeds _ (List.mem_of_getElem? hget)).1
      refine ih heeds' ?_ fun m hm t ht hdone => ?_
      · rw [hstep]
        refine World.failed_answer failed c fun change tenant he hp ht => ?_
        by_contra hs
        exact hnot (hp ▸ ht ▸ hk change tenant he hs)
      · rw [hstep] at ht
        by_cases hmn : m = before.length
        · subst hmn
          have : t = ⟨trace ++ [⟨k, some (s.world.answer c k).1⟩], next (s.world.answer c k).1⟩ := by
            simpa using ht.symm
          rw [this]
          exact not_sawOpen_of_failed failed c k hnot
        · refine blind.2 m hm t ?_ hdone
          rw [hstrands, ← ht]
          exact Pool.getElem?_append_cons_of_ne hmn

/-- However the calls of some deliveries are interleaved, a transaction that has failed stays failed, unless one goes on
that was under way then and had looked the transaction up before it failed. -/
theorem failure_stays (r : Registry) (items : List Item) (conditions : Conditions) (w : World)
    (earlier later : List Nat) (payment transaction : Ident)
    (failed : ((Pool.start (items.map (item r)) w).play conditions earlier).world.platform.Failed payment
      transaction) :
    ((Pool.start (items.map (item r)) w).play conditions (earlier ++ later)).world.platform.Failed payment
        transaction ∨
      ∃ n ∈ later, ∃ t, ((Pool.start (items.map (item r)) w).play conditions earlier).strands[n]? = some t ∧
        t.isDone = false ∧ SawOpen t.trace payment transaction := by
  by_cases h : ∃ n ∈ later, ∃ t, ((Pool.start (items.map (item r)) w).play conditions earlier).strands[n]? = some t ∧
      t.isDone = false ∧ SawOpen t.trace payment transaction
  · exact .inr h
  · left
    rw [Pool.play_append]
    have heeds : ∀ p ∈ items.map (item r), p.Behaves Heeded (fun _ _ => True) [] := by
      intro p hp
      obtain ⟨i, -, rfl⟩ := List.mem_map.1 hp
      exact item_heeds r i
    refine failed_play (Pool.behaves_play (Pool.behaves_start heeds w) earlier) failed later ?_
    exact fun n hn t ht hdone hsaw => h ⟨n, hn, t, ht, hdone, hsaw⟩

/-! ### A refund and its reversal -/

/-- A payment with a refund that has not ended. -/
def refundSpecimen : World where
  journal := ⟨[
    ⟨.given 12, .given 2, .given 3, .given 8, .refund, none, none, some "R", .pending, none, .live 3, .given 7⟩], []⟩
  platform := ⟨[⟨.given 3, .given 2, .given 6, [
    ⟨.given 8, "refund", .refund, .pending, none, none, none, .live 3⟩]⟩], [], [], 0⟩

/-- An item that names the refund by its reference. -/
def refundItem (code : EventCode) : Item := { specimenItem code true (some "R") none with merchantReference := none }

/-- The success of a refund and its reversal, both delivered in this world. -/
def refundPool : Pool Outcome :=
  .start [item .empty (refundItem .refund), item .empty (refundItem .refundedReversed)] refundSpecimen

/-- A reversal that was delivered before the success is looked at is final. -/
theorem failure_stays_of_reversal :
    let reversed := [1, 1, 1, 1, 1, 1]
    (refundPool.play .fair reversed).world.platform.Failed (.given 3) (.given 8) ∧
      (refundPool.play .fair (reversed ++ [0, 0, 0, 0, 0, 0])).world.platform.Failed (.given 3) (.given 8) := by
  have failed : (refundPool.play .fair [1, 1, 1, 1, 1, 1]).world.platform.Failed (.given 3) (.given 8) := by
    decide +kernel
  refine ⟨failed, (failure_stays .empty [refundItem .refund, refundItem .refundedReversed] .fair refundSpecimen
    [1, 1, 1, 1, 1, 1] [0, 0, 0, 0, 0, 0] (.given 3) (.given 8) failed).resolve_right ?_⟩
  rintro ⟨n, hn, t, ht, -, hsaw⟩
  -- the other delivery has made no calls by then
  have hn : n = 0 := by simpa using hn
  subst hn
  have calls : ((refundPool.play .fair [1, 1, 1, 1, 1, 1]).strands[0]?).map (·.trace.length) = some 0 := by
    decide +kernel
  change (refundPool.play .fair [1, 1, 1, 1, 1, 1]).strands[0]? = some t at ht
  rw [ht] at calls
  have length : t.trace.length = 0 := Option.some.inj calls
  obtain ⟨asked, tenant, x, u, hmem, -⟩ := hsaw
  rw [List.eq_nil_of_length_eq_zero length] at hmem
  cases hmem

/-- The success of a refund looks the refund up, its reversal is delivered, and the success goes on: the refund ends as
successful after it had failed. -/
theorem refund_overtakes_reversal :
    let reversed := refundPool.play .fair [0, 0, 0, 1, 1, 1, 1, 1, 1]
    let ended := reversed.play .fair [0, 0, 0]
    reversed.world.platform.Failed (.given 3) (.given 8) ∧
      ended.strands.map (·.isDone) = [true, true] ∧
      (ended.world.platform.transactionOf? (.given 3) (.given 8)).map (·.status) = some .success := by
  decide +kernel

end Notification.Delivery
end Reconciliation
