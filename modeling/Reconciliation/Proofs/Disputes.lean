import Reconciliation.Proofs.Deliveries
import Reconciliation.Proofs.Exits

/-!
# Events about chargebacks

The gateway uses one reference for an authorization and for what follows on it, so an event about a chargeback may
find captures and refunds under its reference. It must leave them alone.

* `disputes` are the events in question and `isDownstream` tells the operations that they leave alone.
* `Disputed` lists what such an event can do to payments.
* `dispute_frame`: it does nothing else, and nothing to attempts but those of authorizations and purchases.
-/

namespace Reconciliation

/-- The operations that follow on an authorization or a purchase. -/
def Operation.isDownstream : Operation → Bool
  | .capture | .refund | .void | .credit => true
  | .authorize | .purchase | .chargeback => false

namespace Notification

/-- The events about chargebacks. -/
def disputes : List EventCode := [.chargeback, .chargebackReversed, .notificationOfChargeback, .requestForInformation]

namespace Delivery

open Platform

/-! ### What is matched and what is asked for -/

/-- Only authorizations and purchases are candidates. -/
theorem operation_of_dispute {event : EventCode} (h : event ∈ disputes) {o : Operation} {n : Nat}
    (hr : (Candidates.forEvent event).rank? o = some n) : o = .authorize ∨ o = .purchase := by
  simp only [disputes, List.mem_cons, List.not_mem_nil, or_false] at h
  rcases h with rfl | rfl | rfl | rfl <;> cases o <;> simp [Candidates.forEvent, Candidates.rank?] at hr ⊢

/-- The matched transaction can only be made to fail, and only if it is an authorization or a purchase for the
platform too. -/
theorem asks_matched_of_dispute {i : Item} {m : Match} {t : Tenant} {s : Status} (h : i.eventCode ∈ disputes)
    (asks : Asks i m t ⟨.matched, s⟩) :
    s = .paymentFailure ∧ (m.transaction.operation = .authorize ∨ m.transaction.operation = .purchase) := by
  unfold Asks at asks
  simp only [disputes, List.mem_cons, List.not_mem_nil, or_false] at h
  rcases h with h | h | h | h <;> rw [h] at asks <;> cases hf : Resolution.failing t m.family <;>
    simp [hf, Resolution.ofEvent, Resolution.ofTransition_eq_transition] at asks
  exact ⟨asks.1.symm, asks.2.1⟩

/-! ### What can happen to payments -/

/-- What an event about a chargeback can do to payments. The transaction is that of the payment `x` that is changed,
as it is afterwards. -/
inductive Disputed (payments payments' : List Payment) (x : Payment) : Transaction → Prop where
  /-- A chargeback is created. -/
  | charged (t : Transaction) (kind : t.operation = .chargeback) (status : t.status = .success)
      (new : ∀ y ∈ payments, ∀ z ∈ y.transactions, z.id ≠ t.id) (change : Appended x t payments payments') :
      Disputed payments payments' x t
  /-- A recorded chargeback is failed. -/
  | reversed (t : Transaction) (kind : t.operation = .chargeback)
      (change : Replaced x t { t with status := .paymentFailure } payments payments') :
      Disputed payments payments' x { t with status := .paymentFailure }
  /-- An authorization or a purchase is failed, and gets a gateway reference if it has none. -/
  | failed (t : Transaction) (kind : t.operation = .authorize ∨ t.operation = .purchase) (reference : Option String)
      (change : Replaced x t
        { t with status := .paymentFailure, gatewayReference := t.gatewayReference.or reference } payments payments') :
      Disputed payments payments' x
        { t with status := .paymentFailure, gatewayReference := t.gatewayReference.or reference }

/-- A payment without anything but the transactions that follow on an authorization or a purchase. -/
def downstream (x : Payment) : Payment := { x with transactions := x.transactions.filter (·.operation.isDownstream) }

theorem downstream_of_replaced {payments payments' : List Payment} {x : Payment} {t t' : Transaction}
    (h : Replaced x t t' payments payments') (ht : t.operation.isDownstream = false)
    (ht' : t'.operation.isDownstream = false) : payments'.map downstream = payments.map downstream := by
  obtain ⟨before, after, earlier, later, rfl, hx, rfl⟩ := h
  simp [downstream, hx, ht, ht']

theorem downstream_of_appended {payments payments' : List Payment} {x : Payment} {t : Transaction}
    (h : Appended x t payments payments') (ht : t.operation.isDownstream = false) :
    payments'.map downstream = payments.map downstream := by
  obtain ⟨before, after, rfl, rfl⟩ := h
  simp [downstream, ht]

namespace Disputed

variable {payments payments' : List Payment} {x : Payment} {t : Transaction}

theorem operation (h : Disputed payments payments' x t) : t.operation.isDownstream = false := by
  cases h with
  | charged _ kind => rw [kind]; rfl
  | reversed _ kind => rw [kind]; rfl
  | failed _ kind => rcases kind with kind | kind <;> rw [kind] <;> rfl

theorem downstream_eq (h : Disputed payments payments' x t) : payments'.map downstream = payments.map downstream := by
  have ht := h.operation
  cases h with
  | charged _ _ _ _ change => exact downstream_of_appended change ht
  | reversed _ _ change => exact downstream_of_replaced change ht ht
  | failed _ _ _ change => exact downstream_of_replaced change ht ht

/-- What is changed is not known under the identifier of anything downstream. -/
theorem not_downstream_of_id (h : Disputed payments payments' x t)
    (distinct : ∀ y ∈ payments, (y.transactions.map (·.id)).Nodup) :
    ∀ z ∈ x.transactions, z.id = t.id → z.operation.isDownstream = false := by
  have ht := h.operation
  -- identifiers are distinct, so that what has the identifier of the replaced transaction is that transaction
  have same : ∀ {u u' : Transaction}, Replaced x u u' payments payments' → u.operation.isDownstream = false →
      ∀ z ∈ x.transactions, z.id = u.id → z.operation.isDownstream = false := by
    rintro u u' ⟨before, after, earlier, later, rfl, hx, -⟩ hu z hz hid
    rwa [List.inj_on_of_nodup_map (distinct x (by simp)) hz (by simp [hx]) hid]
  cases h with
  | charged _ _ _ new change =>
    obtain ⟨before, after, rfl, -⟩ := change
    exact fun z hz hid => absurd hid (new x (by simp) z hz)
  | reversed _ _ change => exact fun z hz hid => same change ht z hz hid
  | failed _ _ _ change => exact fun z hz hid => same change ht z hz hid

end Disputed

/-! ### What can happen to attempts -/

/-- Attempts stay as they are, but that one for an authorization or a purchase may be marked as failed. -/
def AttemptFailed (attempts attempts' : List Attempt) : Prop :=
  ∃ before a after reference, attempts = before ++ a :: after ∧
    attempts' = before ++ Journal.moved reference .paymentFailure a :: after ∧
    (a.operation = .authorize ∨ a.operation = .purchase)

theorem AttemptFailed.downstream_eq {attempts attempts' : List Attempt} (h : AttemptFailed attempts attempts') :
    attempts'.filter (·.operation.isDownstream) = attempts.filter (·.operation.isDownstream) := by
  obtain ⟨before, a, after, reference, rfl, rfl, ha⟩ := h
  have : a.operation.isDownstream = false := by rcases ha with ha | ha <;> rw [ha] <;> rfl
  simp [Journal.moved, this]

/-! ### The statement -/

/-- An item about a chargeback changes nothing, or it changes one transaction in one of the three ways. -/
theorem dispute_effect (r : Registry) (i : Item) (event : i.eventCode ∈ disputes) (conditions : Conditions) (w : World)
    (distinct : w.platform.DistinctInPayments) (attempts : w.journal.DistinctAttempts) :
    let o := ((item r i).exec conditions w).1
    let w' := ((item r i).exec conditions w).2
    (w'.journal.attempts = w.journal.attempts ∨ AttemptFailed w.journal.attempts w'.journal.attempts) ∧
      w'.platform.methods = w.platform.methods ∧
      (w'.platform.payments = w.platform.payments ∧ (∀ t s, o ≠ some (.applied t s)) ∨
        ∃ x t, Disputed w.platform.payments w'.platform.payments x t ∧
          ∀ u s, o = some (.applied u s) → u = t.id ∧ s = t.status) := by
  dsimp only
  rcases item_effect r i conditions w with h | ⟨m, hacc, h⟩
  · exact ⟨.inl h.attempts, by rw [h.platform], .inl ⟨by rw [h.platform], h.outcome⟩⟩
  -- the attempt that is moved is a candidate for the event
  have failed : ∀ s, s = .paymentFailure → AttemptFailed w.journal.attempts (movedAttempts i m s w) := by
    rintro s rfl
    obtain ⟨n, hn⟩ := hacc.candidate
    obtain ⟨before, after, hl, hm⟩ := movedAttempts_split hacc.toFound attempts .paymentFailure
    exact ⟨before, m.attempt, after, _, hl, hm, operation_of_dispute event hn⟩
  cases h with
  | kept s asks status platform attempts outcome =>
    obtain ⟨hs, -⟩ := asks_matched_of_dispute event asks
    rw [attempts, platform]
    exact ⟨.inr (failed s hs), rfl, .inl ⟨rfl, outcome⟩⟩
  | moved s asks status platform attempts outcome =>
    obtain ⟨rfl, hop⟩ := asks_matched_of_dispute event asks
    obtain ⟨p', hu, hr, hm, -⟩ := moved_writes hacc.toFound status
    rw [platform, hu]
    refine ⟨attempts.imp id fun ha => ?_, hm, .inr ⟨m.payment, _, .failed m.transaction hop (reference i) hr, outcome⟩⟩
    rw [ha]
    exact failed .paymentFailure rfl
  | created x asks target reference carried fresh platform attempts outcome =>
    obtain ⟨p', hc, ha, hm, -⟩ := created_writes hacc.toFound fresh
    have new : ∀ y ∈ w.platform.payments, ∀ z ∈ y.transactions,
        z.id ≠ (w.platform.chargebackTransaction (newChargeback i m reference)).id := by
      intro y hy z hz he
      refine chargebackTransaction_id_not_mem w.platform (newChargeback i m reference) ?_
      rw [← he]
      exact List.mem_map_of_mem (List.mem_flatMap.2 ⟨y, hy, hz⟩)
    rw [platform, hc]
    exact ⟨.inl attempts, hm, .inr ⟨m.payment, _, .charged _ rfl rfl new ha, outcome⟩⟩
  | reversed s asks chargeback picked status platform attempts outcome =>
    obtain rfl : s = .paymentFailure := (Resolution.of_existingChargeback asks rfl).2
    obtain ⟨hmem, hop⟩ := mem_of_reversed? picked
    obtain ⟨p', hu, hr, hm, -⟩ := reversed_writes hacc.toFound distinct hmem status
    rw [platform, hu]
    exact ⟨.inl attempts, hm, .inr ⟨m.payment, _, .reversed chargeback hop hr, outcome⟩⟩

/-- Whatever references an event about a chargeback carries, and whatever calls fail or abort, it changes no capture,
refund, void or credit, neither the transaction nor the attempt, and it never claims to have done so. It can create one
chargeback, fail one, or fail one authorization or purchase, which then gets a gateway reference if it had none. -/
theorem dispute_frame (r : Registry) (w : World) (distinct : w.platform.DistinctInPayments)
    (attempts : w.journal.DistinctAttempts) (i : Item) (event : i.eventCode ∈ disputes) (conditions : Conditions) :
    let run := (item r i).run conditions w
    let payments := w.platform.payments
    let payments' := run.world.platform.payments
    payments'.map downstream = payments.map downstream ∧
      (payments' = payments ∨ ∃ x t, Disputed payments payments' x t) ∧
      run.world.platform.methods = w.platform.methods ∧
      run.world.journal.attempts.filter (·.operation.isDownstream) =
        w.journal.attempts.filter (·.operation.isDownstream) ∧
      (run.world.journal.attempts = w.journal.attempts ∨
        AttemptFailed w.journal.attempts run.world.journal.attempts) ∧
      ∀ u s, run.ending = .finished (.applied u s) →
        ∃ x t, Disputed payments payments' x t ∧ t.id = u ∧ t.status = s ∧ t.operation.isDownstream = false ∧
          ∀ z ∈ x.transactions, z.id = u → z.operation.isDownstream = false := by
  obtain ⟨hj, hm, hp⟩ := dispute_effect r i event conditions w distinct attempts
  have hj' : ((item r i).exec conditions w).2.journal.attempts.filter (·.operation.isDownstream) =
      w.journal.attempts.filter (·.operation.isDownstream) := by
    rcases hj with hj | hj
    · rw [hj]
    · exact hj.downstream_eq
  rcases hp with ⟨hp, ho⟩ | ⟨x, t, hd, ho⟩
  · refine ⟨congrArg _ hp, .inl hp, hm, hj', hj, fun u s he => absurd (congrArg Ending.result? he) (ho u s)⟩
  · refine ⟨hd.downstream_eq, .inr ⟨x, t, hd⟩, hm, hj', hj, fun u s he => ?_⟩
    obtain ⟨rfl, rfl⟩ := ho u s (congrArg Ending.result? he)
    exact ⟨x, t, hd, rfl, rfl, hd.operation, hd.not_downstream_of_id distinct⟩

/-- A capture under the reference that a chargeback comes with. -/
theorem dispute_frame_of_shared_reference :
    specimen.platform.DistinctInPayments ∧ specimen.journal.DistinctAttempts ∧
      let run := (item .empty (specimenItem .chargeback true "B" "A")).run .fair specimen
      run.world.platform.payments.map downstream = specimen.platform.payments.map downstream ∧
        run.world.journal.attempts.filter (·.operation.isDownstream) =
          specimen.journal.attempts.filter (·.operation.isDownstream) := by
  have distinct : specimen.platform.DistinctInPayments := distinctInPayments_of_nodup (by decide)
  have attempts : specimen.journal.DistinctAttempts := by unfold Journal.DistinctAttempts; decide
  have event : (specimenItem .chargeback true "B" "A").eventCode ∈ disputes := by decide
  obtain ⟨hp, -, -, hj, -, -⟩ := dispute_frame .empty specimen distinct attempts _ event .fair
  exact ⟨distinct, attempts, hp, hj⟩

end Delivery
end Notification
end Reconciliation
