import Reconciliation.Proofs.Chargebacks
import Reconciliation.Proofs.Exits
import Reconciliation.Proofs.Outline

/-!
# Attempts agree with the platform

A transition is written to the platform first and to the journal after that. As long as the second write does not fail,
every attempt has the status of its transaction after each delivery, if it had before. Chargebacks are the exception:
they are kept on the platform alone, and an attempt for one would not follow it.

* `World.Agrees` says that attempts have the statuses of their transactions.
* `Agreement` is the invariant, `item_agreement` that an item preserves it.
* `agreement_of_deliveries` is the statement about a run.
* `reversal_breaks_agreement` shows why it leaves chargebacks out.
-/

namespace Reconciliation

/-- Every attempt whose transaction is on the platform has its status, if its operation counts. -/
def World.Agrees (counts : Operation → Bool) (w : World) : Prop :=
  ∀ a ∈ w.journal.attempts, ∀ t ∈ w.platform.transactionOf? a.payment a.transaction,
    counts t.operation = true → a.status = t.status

instance (counts : Operation → Bool) (w : World) : Decidable (w.Agrees counts) :=
  inferInstanceAs (Decidable (∀ a ∈ w.journal.attempts, ∀ t ∈ w.platform.transactionOf? a.payment a.transaction,
    counts t.operation = true → a.status = t.status))

/-- An operation that is not a chargeback: events move none of those. -/
def Operation.isMovable (o : Operation) : Bool := o != .chargeback

/-- Calls of this kind neither fail nor abort. -/
def Conditions.Spares (c : Conditions) (kind : Call.Kind) : Prop := kind ∉ c.failing ∧ kind ∉ c.aborting

namespace Conditions

variable {c : Conditions} {kind : Call.Kind} {k : Call}

theorem Spares.fails (h : c.Spares kind) (hk : k.kind? = some kind) : c.fails k = false := by
  simpa [Conditions.fails, hk] using h.1

theorem Spares.aborts (h : c.Spares kind) (hk : k.kind? = some kind) : c.aborts k = false := by
  simpa [Conditions.aborts, hk] using h.2

end Conditions

namespace Platform

variable {p : Platform} {payment transaction : Ident} {t : Transaction}

theorem movable?_eq_some_iff : (∃ method, p.movable? payment transaction = some (method, t)) ↔
    p.transactionOf? payment transaction = some t ∧ t.operation.isMovable = true := by
  unfold movable? transactionOf?
  cases p.payments.find? (·.id == payment) with
  | none => simp
  | some x => simp [Option.filter_eq_some_iff, Operation.isMovable]

end Platform

namespace Notification.Delivery

open Procedure Platform Matching

variable {r : Registry} {conditions : Conditions} {w v : World} {i : Item} {m : Match} {s : Status} {o : Outcome}

/-- Attempts and transactions are told apart by their identifiers, and agree with each other but for chargebacks. -/
structure Agreement (w : World) : Prop where
  attempts : w.journal.DistinctAttempts
  transactions : w.platform.DistinctInPayments
  agrees : w.Agrees Operation.isMovable

theorem agrees_iff : w.Agrees Operation.isMovable ↔
    ∀ a ∈ w.journal.attempts, ∀ y, w.platform.movable? a.payment a.transaction = some y → a.status = y.2.status := by
  constructor
  · intro h a ha y hy
    obtain ⟨ht, hm⟩ := movable?_eq_some_iff.1 ⟨y.1, hy⟩
    exact h a ha y.2 ht hm
  · intro h a ha t ht hm
    obtain ⟨method, hy⟩ := movable?_eq_some_iff.2 ⟨ht, hm⟩
    exact h a ha _ hy

theorem Agreement.of_same (h : Agreement w) (same : w.Same v) : Agreement v := by
  obtain ⟨attempts, transactions, agrees⟩ := h
  refine ⟨?_, same.platform ▸ transactions, ?_⟩
  · unfold Journal.DistinctAttempts at attempts ⊢
    rwa [same.attempts]
  · unfold World.Agrees at agrees ⊢
    rwa [same.attempts, same.platform]

/-- Where only the platform is changed, what can be moved stays as it is. -/
theorem Agreement.of_movable (h : Agreement w) (attempts : v.journal.attempts = w.journal.attempts)
    (transactions : v.platform.DistinctInPayments) (movable : v.platform.movable? = w.platform.movable?) :
    Agreement v := by
  refine ⟨?_, transactions, agrees_iff.2 ?_⟩
  · unfold Journal.DistinctAttempts
    rw [attempts]
    exact h.attempts
  · rw [attempts, movable]
    exact agrees_iff.1 h.agrees

/-- Where the attempt of a match is moved, its transaction has the same status, and others are as before. -/
theorem Agreement.of_moved {tenant : Option Ident} (h : Agreement w) (found : Found w i tenant m)
    (ha : v.journal.attempts = movedAttempts i m s w) (transactions : v.platform.DistinctInPayments)
    (own : ∀ y, v.platform.movable? m.attempt.payment m.attempt.transaction = some y → y.2.status = s)
    (others : ∀ payment transaction, ¬ (payment = m.attempt.payment ∧ transaction = m.attempt.transaction) →
      v.platform.movable? payment transaction = w.platform.movable? payment transaction) : Agreement v := by
  have agrees := agrees_iff.1 h.agrees
  obtain ⟨before, after, hl, hm⟩ := movedAttempts_split found h.attempts s
  have distinct : (w.journal.attempts.map fun a => (a.payment, a.transaction)).Nodup := h.attempts
  rw [hl] at distinct
  rw [hm] at ha
  refine ⟨?_, transactions, agrees_iff.2 fun a hmem y hy => ?_⟩
  · unfold Journal.DistinctAttempts
    rw [ha]
    simpa [Journal.moved] using distinct
  -- no other attempt is for the same transaction
  have other (b : Attempt) (hb : b ∈ before ++ after) :
      ¬ (b.payment = m.attempt.payment ∧ b.transaction = m.attempt.transaction) := by
    rintro ⟨hp, ht⟩
    rw [List.map_append, List.map_cons, List.nodup_middle, List.nodup_cons, ← List.map_append, ← hp, ← ht] at distinct
    exact distinct.1 (List.mem_map_of_mem hb)
  rw [ha, List.mem_append, List.mem_cons] at hmem
  by_cases hb : a ∈ before ++ after
  · rw [others _ _ (other a hb)] at hy
    have recorded : a ∈ w.journal.attempts := by
      rw [hl, List.mem_append, List.mem_cons]
      exact (List.mem_append.1 hb).imp id .inr
    exact agrees a recorded y hy
  · obtain rfl : a = Journal.moved (reference i) s m.attempt := by
      rw [List.mem_append, not_or] at hb
      exact (hmem.resolve_left hb.1).resolve_right hb.2
    exact (own y hy).symm

/-- A reversal changes nothing that can be moved. -/
theorem movable?_reversed {tenant : Option Ident} (found : Found w i tenant m)
    (transactions : w.platform.DistinctInPayments) {chargeback : Transaction}
    (picked : reversed? i m.payment = some chargeback) (s : Status) :
    (w.platform.updateTransaction (reversal i m chargeback s)).2.movable? = w.platform.movable? := by
  obtain ⟨hmem, hop⟩ := mem_of_reversed? picked
  have hc : m.payment.transaction? chargeback.id = some chargeback :=
    transaction?_of_mem (transactions _ found.payment_mem) hmem
  funext payment transaction
  rw [movable?_updateTransaction (c := reversal i m chargeback s) found.payment_found hc]
  split
  · next h =>
    rw [h.1, h.2]
    have none : w.platform.movable? m.payment.id chargeback.id = none :=
      movable?_of_chargeback found.payment_found hc hop
    exact (congrArg (Option.map _) none).trans none.symm
  · rfl

/-- However a match is settled, attempts stay in agreement. -/
theorem Settlement.agreement {tenant : Option Ident} {t : Tenant} (h : Agreement w) (found : Found w i tenant m)
    (settlement : Settlement conditions i m t w (.ok o) v) : Agreement v := by
  cases settlement with
  | passed settled outcome => exact h
  | standing settled recorded => exact h
  | kept asks status =>
    refine h.of_moved found rfl h.transactions (fun y hy => ?_) fun _ _ _ => rfl
    have ht : w.platform.transactionOf? m.attempt.payment m.attempt.transaction = some y.2 :=
      (movable?_eq_some_iff.1 ⟨y.1, hy⟩).1
    rw [transactionOf?_eq_some.2 ⟨_, found.payment, found.transaction⟩] at ht
    rw [← Option.some.inj ht, status]
  | @moved s asks status =>
    obtain ⟨p', hu, hr, -⟩ := moved_writes found status
    have movable := movable?_matched
      (v := { w with platform := (w.platform.updateTransaction (matchedChange i m s)).2 }) found rfl
    refine h.of_moved found rfl ?_ (fun y hy => ?_) fun payment transaction ne => ?_
    · rw [hu]
      exact hr.distinct rfl h.transactions
    · rw [movable, if_pos ⟨rfl, rfl⟩] at hy
      obtain ⟨z, -, rfl⟩ := Option.map_eq_some_iff.1 hy
      rfl
    · rw [movable, if_neg ne]
  | created asks target carried fresh =>
    obtain ⟨p', hc, ha, -⟩ := created_writes found fresh
    refine h.of_movable rfl ?_ (movable?_created found fresh rfl)
    rw [hc]
    exact ha.distinct (chargebackTransaction_id_not_mem _ _) h.transactions
  | reversed asks picked status =>
    obtain ⟨p', hu, hr, -⟩ := reversed_writes found h.transactions (mem_of_reversed? picked).1 status
    refine h.of_movable rfl ?_ (movable?_reversed found h.transactions picked _)
    rw [hu]
    exact hr.distinct rfl h.transactions

/-- An item that can move attempts keeps them in agreement. -/
theorem item_agreement (h : Agreement w) (spares : conditions.Spares .updateAttempt) (r : Registry) (i : Item) :
    Agreement ((item r i).run conditions w).world := by
  obtain ⟨u, left, same⟩ := left_of_item r conditions w i
  refine Agreement.of_same ?_ same
  cases left with
  | nothing => exact h
  | halfway matched accepted halfway =>
    cases halfway with
    | untouched => exact h
    | moved asks status stopped =>
      -- the attempt would have been moved
      rcases stopped with hf | ha
      · exact absurd (hf.symm.trans (spares.fails rfl)) (by simp)
      · exact absurd (ha.symm.trans (spares.aborts rfl)) (by simp)
  | settled matched accepted settlement => exact settlement.agreement h accepted.toFound

/-- If every attempt has the status of its transaction on the platform, chargebacks apart, then so it is after any run
of deliveries, whatever calls fail or abort, as long as attempts can be moved. -/
theorem agreement_of_deliveries (r : Registry) (w : World) (attempts : w.journal.DistinctAttempts)
    (transactions : w.platform.DistinctInPayments) (agrees : w.Agrees Operation.isMovable) (ds : List Posting)
    (spared : ∀ d ∈ ds, d.conditions.Spares .updateAttempt) : (deliverAll r ds w).Agrees Operation.isMovable := by
  have preserved : Agreement w → Agreement (deliverAll r ds w) := by
    refine deliverAll_preserves (fun v u => Agreement v → Agreement u) ?_ ?_ ds ?_ w
    · exact fun huv hvw h => hvw (huv h)
    · exact fun hp ha h => h.of_same ⟨ha, hp⟩
    · exact fun d hd i v h => item_agreement h (spared d hd) r i
  exact (preserved ⟨attempts, transactions, agrees⟩).agrees

/-- An authorization that succeeds, and a correction of it that the platform refuses. -/
theorem agreement_of_authorization :
    let ds := [specimenPosting "true",
      { specimenPosting "false" with conditions := { Conditions.fair with failing := [.updateTransaction] } }]
    specimen.journal.DistinctAttempts ∧ specimen.platform.DistinctInPayments ∧
      specimen.Agrees Operation.isMovable ∧ (∀ d ∈ ds, d.conditions.Spares .updateAttempt) ∧
      (deliverAll .empty ds specimen).Agrees Operation.isMovable ∧
      (deliverAll .empty ds specimen).journal.attempts.map (·.status) = [.success, .pending] := by
  have attempts : specimen.journal.DistinctAttempts := by
    unfold Journal.DistinctAttempts
    decide
  have transactions : specimen.platform.DistinctInPayments := distinctInPayments_of_nodup (by decide)
  have agrees : specimen.Agrees Operation.isMovable := by decide
  have spared : ∀ d ∈ [specimenPosting "true",
      { specimenPosting "false" with conditions := { Conditions.fair with failing := [.updateTransaction] } }],
      d.conditions.Spares .updateAttempt := by
    unfold Conditions.Spares
    decide
  exact ⟨attempts, transactions, agrees, spared,
    agreement_of_deliveries .empty specimen attempts transactions agrees _ spared, by decide +kernel⟩

/-- A payment with a chargeback, for which there is an attempt as well. -/
def chargedBack : World where
  journal := ⟨[
    ⟨.given 10, .given 2, .given 3, .given 4, .authorize, none, none, some "A", .success, none, .live 1, .given 7⟩,
    ⟨.given 11, .given 2, .given 3, .given 8, .chargeback, none, none, none, .success, none, .live 3, .given 7⟩], []⟩
  platform := ⟨[⟨.given 3, .given 2, .given 6, [
    ⟨.given 4, "authorization", .authorize, .success, none, none, none, .live 1⟩,
    ⟨.given 8, "chargeback", .chargeback, .success, none, none, some "B", .live 3⟩]⟩], [], [], 0⟩

/-- A reversal fails the chargeback on the platform and leaves the attempt for it as it is. -/
theorem reversal_breaks_agreement :
    chargedBack.journal.DistinctAttempts ∧ chargedBack.platform.DistinctInPayments ∧
      chargedBack.Agrees (fun _ => true) ∧
      let after := deliverAll .empty [⟨specimenBody "CHARGEBACK_REVERSED" "B", .fair⟩] chargedBack
      after.platform.transitions = [(.given 8, .paymentFailure)] ∧
        after.journal.attempts = chargedBack.journal.attempts ∧ ¬ after.Agrees fun _ => true := by
  have attempts : chargedBack.journal.DistinctAttempts := by
    unfold Journal.DistinctAttempts
    decide
  exact ⟨attempts, distinctInPayments_of_nodup (by decide), by decide, by decide +kernel⟩

end Notification.Delivery
end Reconciliation
