import Reconciliation.Proofs.Unfailing

/-!
# Chargebacks are neither lost nor duplicated

Where no call fails, a payment gets one transaction for each reference that a chargeback event on it carries, however
often and in whatever order the events and their reversals come in.

* `Arrival` is an item with the world it comes into; `arrivals` and `received` list those of a run.
* `Charges` and `Reverses` say what an arrival is about, `Turn` how it changes the payment (`turn_of_item`).
* `Chronicle` relates the transactions of the payment to the arrivals so far; each arrival continues it
  (`Chronicle.arrive`).
* `chargebacks_of_deliveries` is the statement about a run of deliveries.
-/

namespace Reconciliation

/-- A transaction without what can be changed: its status and its gateway reference. -/
def Transaction.bare (t : Transaction) : Transaction := { t with status := .pending, gatewayReference := none }

namespace Notification

namespace Delivery

open Procedure Platform Matching

theorem chargebackKey_inj {payment : Ident} {reference reference' : String} :
    chargebackKey payment reference = chargebackKey payment reference' ↔ reference = reference' :=
  String.append_right_inj _

/-! ### Arrivals -/

/-- An item with the world that it comes into. -/
structure Arrival where
  item : Item
  world : World

/-- Items that are processed one after another, where no call fails. -/
def arrivals (r : Registry) : List Item → World → List Arrival
  | [], _ => []
  | i :: rest, w => ⟨i, w⟩ :: arrivals r rest ((item r i).fairly w).2

/-- The items of some bodies that are delivered one after another, where no call fails. -/
def received (r : Registry) : List Text.Utf8.Bytes → World → List Arrival
  | [], _ => []
  | body :: rest, w =>
    (match Batch.parse body with
      | .error _ => []
      | .ok b =>
        arrivals r b.items
          ((each (fun problem => conclude (unreadable body problem) .malformed) b.malformed).fairly w).2)
      ++ received r rest ((process r body).fairly w).2

/-- Deliveries of some bodies where no call fails. -/
def postings (bodies : List Text.Utf8.Bytes) : List Posting := bodies.map fun body => ⟨body, .fair⟩

section Runs

variable {r : Registry} (P : List Arrival → World → Prop)

theorem each_arrivals (step : ∀ h i w, P h w → P (h ++ [⟨i, w⟩]) ((item r i).fairly w).2) (items : List Item)
    {h : List Arrival} {w : World} (hw : P h w) :
    P (h ++ arrivals r items w) ((each (item r) items).fairly w).2 := by
  induction items generalizing h w with
  | nil =>
    rw [arrivals, List.append_nil]
    exact hw
  | cons i rest ih =>
    rw [each_fairly_cons]
    simpa [arrivals] using ih (step h i w hw)

theorem each_unread (same : ∀ h v w, v.platform = w.platform → v.journal.attempts = w.journal.attempts → P h w → P h v)
    (body : Text.Utf8.Bytes) (problems : List String) {h : List Arrival} {w : World} (hw : P h w) :
    P h ((each (fun problem => conclude (unreadable body problem) .malformed) problems).fairly w).2 := by
  induction problems generalizing w with
  | nil => exact hw
  | cons problem rest ih =>
    rw [each_fairly_cons]
    exact ih (same h _ w rfl rfl hw)

/-- What holds at first, does not depend on the audit and is continued by each arrival, holds after a run. -/
theorem deliverAll_received
    (same : ∀ h v w, v.platform = w.platform → v.journal.attempts = w.journal.attempts → P h w → P h v)
    (step : ∀ h i w, P h w → P (h ++ [⟨i, w⟩]) ((item r i).fairly w).2) (bodies : List Text.Utf8.Bytes)
    {h : List Arrival} {w : World} (hw : P h w) :
    P (h ++ received r bodies w) (deliverAll r (postings bodies) w) := by
  induction bodies generalizing h w with
  | nil => simpa [received, postings, deliverAll] using hw
  | cons body rest ih =>
    rw [received, postings, List.map_cons, deliverAll, world_fair, ← List.append_assoc]
    refine ih ?_
    unfold process
    cases Batch.parse body with
    | error f =>
      rw [List.append_nil]
      exact same h _ w rfl rfl hw
    | ok b =>
      have unread := each_unread P same body b.malformed hw
      simpa [batch] using each_arrivals P step b.items unread

end Runs

/-! ### What an arrival is about -/

variable {r : Registry} {payment id : Ident} {reference : String} {a : Arrival}

/-- The arrival is a chargeback with this reference that passed verification and was matched to an authorization or
purchase of the payment, on a family whose chargebacks do not fail the payment. -/
structure Charges (r : Registry) (payment : Ident) (reference : String) (a : Arrival) : Prop where
  event : a.item.eventCode = .chargeback
  carried : a.item.reference = some reference
  matched : ∃ m, accepted r a.item a.world.journal.attempts a.world.platform = .ok m ∧ m.payment.id = payment ∧
    (m.transaction.operation = .authorize ∨ m.transaction.operation = .purchase) ∧
    Resolution.failing (tenantFor r a.item m) m.family = false

/-- The arrival is a reversal that passed verification, was matched to an authorization or purchase of the payment and
is about this chargeback of it. -/
structure Reverses (r : Registry) (payment id : Ident) (a : Arrival) : Prop where
  event : a.item.eventCode = .chargebackReversed
  matched : ∃ m t, accepted r a.item a.world.journal.attempts a.world.platform = .ok m ∧ m.payment.id = payment ∧
    (m.transaction.operation = .authorize ∨ m.transaction.operation = .purchase) ∧
    Resolution.failing (tenantFor r a.item m) m.family = false ∧ reversed? a.item m.payment = some t ∧ t.id = id

theorem Charges.asks (h : Charges r payment reference a) :
    ∃ m, accepted r a.item a.world.journal.attempts a.world.platform = .ok m ∧ m.payment.id = payment ∧
      Asks a.item m (tenantFor r a.item m) ⟨.newChargeback, .success⟩ := by
  obtain ⟨m, hm, hp, ho, hf⟩ := h.matched
  exact ⟨m, hm, hp, Resolution.ofEvent_eq_newChargeback.2 ⟨h.event, hf, rfl, ho⟩⟩

theorem Reverses.asks (h : Reverses r payment id a) :
    ∃ m t, accepted r a.item a.world.journal.attempts a.world.platform = .ok m ∧ m.payment.id = payment ∧
      Asks a.item m (tenantFor r a.item m) ⟨.existingChargeback, .paymentFailure⟩ ∧
      reversed? a.item m.payment = some t ∧ t.id = id := by
  obtain ⟨m, t, hm, hp, ho, hf, ht, hid⟩ := h.matched
  exact ⟨m, t, hm, hp, Resolution.ofEvent_eq_existingChargeback.2 ⟨h.event, hf, rfl, ho⟩, ht, hid⟩

/-- An arrival reverses one chargeback at most. -/
theorem Reverses.unique {id' : Ident} (h : Reverses r payment id a) (h' : Reverses r payment id' a) : id' = id := by
  obtain ⟨m, t, hm, -, -, -, ht, rfl⟩ := h.matched
  obtain ⟨m', t', hm', -, -, -, ht', rfl⟩ := h'.matched
  rw [hm] at hm'
  cases hm'
  rw [ht] at ht'
  cases ht'
  rfl

theorem Asks.unique {i : Item} {m : Match} {t : Tenant} {x y : Transition} (hx : Asks i m t x) (hy : Asks i m t y) :
    x = y := by
  unfold Asks at hx hy
  rw [hx] at hy
  cases hy
  rfl

/-! ### What an arrival does to a payment -/

/-- The ways in which an arrival changes a payment. -/
inductive Turn (r : Registry) (a : Arrival) (payment : Ident) (x : Payment) : Payment → Prop where
  /-- Nothing is changed: what the arrival is about is there already. -/
  | kept (known : ∀ reference, Charges r payment reference a →
        ∃ t ∈ x.transactions, t.externalKey = chargebackKey payment reference)
      (failed : ∀ id, Reverses r payment id a → ∃ t ∈ x.transactions, t.id = id ∧ t.status = .paymentFailure) :
      Turn r a payment x x
  /-- A transaction other than a chargeback is moved. -/
  | moved (c : StatusChange) (t : Transaction) (found : x.transaction? c.transaction = some t)
      (operation : t.operation ≠ .chargeback) (uncharged : ∀ reference, ¬ Charges r payment reference a)
      (unreversed : ∀ id, ¬ Reverses r payment id a) : Turn r a payment x (edited c x)
  /-- A chargeback is created. -/
  | charged (reference : String) (charges : Charges r payment reference a)
      (fresh : ∀ t ∈ x.transactions, t.externalKey ≠ chargebackKey payment reference) (t : Transaction)
      (id : t.id ∉ x.transactions.map (·.id)) (operation : t.operation = .chargeback)
      (key : t.externalKey = chargebackKey payment reference) (carried : t.gatewayReference = some reference)
      (amount : t.amount = a.item.decimal?) (currency : t.currency = a.item.currency?) (status : t.status = .success)
      (unreversed : ∀ id, ¬ Reverses r payment id a) : Turn r a payment x (extended t x)
  /-- A chargeback is failed. -/
  | reversed (c : StatusChange) (status : c.status = .paymentFailure)
      (reverses : Reverses r payment c.transaction a) (uncharged : ∀ reference, ¬ Charges r payment reference a) :
      Turn r a payment x (edited c x)

section TurnOfItem

variable {x : Payment} {m : Match} {s : Status}
  (h : accepted r a.item a.world.journal.attempts a.world.platform = .ok m)

include h

theorem not_charges_of_asks {y : Transition} (asks : Asks a.item m (tenantFor r a.item m) y)
    (hy : y.target ≠ .newChargeback) (reference : String) : ¬ Charges r payment reference a := by
  intro hc
  obtain ⟨m', hm', -, asks'⟩ := hc.asks
  rw [h] at hm'
  cases hm'
  exact hy (by rw [asks.unique asks'])

theorem not_reverses_of_asks {y : Transition} (asks : Asks a.item m (tenantFor r a.item m) y)
    (hy : y.target ≠ .existingChargeback) (id : Ident) : ¬ Reverses r payment id a := by
  intro hc
  obtain ⟨m', t, hm', -, asks', -⟩ := hc.asks
  rw [h] at hm'
  cases hm'
  exact hy (by rw [asks.unique asks'])

theorem payment_of_charges (hc : Charges r payment reference a) : m.payment.id = payment := by
  obtain ⟨m', hm', hp, -⟩ := hc.matched
  rw [h] at hm'
  cases hm'
  exact hp

theorem payment_of_reverses (hc : Reverses r payment id a) :
    m.payment.id = payment ∧ ∃ t, reversed? a.item m.payment = some t ∧ t.id = id := by
  obtain ⟨m', t, hm', hp, -, -, ht⟩ := hc.matched
  rw [h] at hm'
  cases hm'
  exact ⟨hp, t, ht⟩

theorem turn_of_elsewhere (hp : m.payment.id ≠ payment) : Turn r a payment x x :=
  .kept (fun _ hc => absurd (payment_of_charges h hc) hp) fun _ hc => absurd (payment_of_reverses h hc).1 hp

/-- A payment is found again after its arrival turned it, and any other is found as before. -/
theorem turn_of_update {c : StatusChange} {t : Transaction}
    (hx : a.world.platform.payments.find? (·.id == payment) = some x) (hc : c.payment = m.payment.id)
    (hm : a.world.platform.payments.find? (·.id == m.payment.id) = some m.payment)
    (ht : m.payment.transaction? c.transaction = some t)
    (turn : m.payment.id = payment → Turn r a payment m.payment (edited c m.payment)) :
    ∃ x', (a.world.platform.updateTransaction c).2.payments.find? (·.id == payment) = some x' ∧
      Turn r a payment x x' := by
  rw [find?_updateTransaction (hc ▸ hm) ht, hc]
  split
  · next hp =>
    subst hp
    rw [hm] at hx
    cases hx
    exact ⟨_, rfl, turn rfl⟩
  · next hp => exact ⟨x, hx, turn_of_elsewhere h (Ne.symm hp)⟩

theorem turn_of_matched (hx : a.world.platform.payments.find? (·.id == payment) = some x)
    (asks : Asks a.item m (tenantFor r a.item m) ⟨.matched, s⟩) :
    ∃ x', ((item r a.item).fairly a.world).2.platform.payments.find? (·.id == payment) = some x' ∧
      Turn r a payment x x' := by
  have found := found_of_sight (accepted_eq_ok.1 h).2.1
  have uncharged : ∀ reference, ¬ Charges r payment reference a := not_charges_of_asks h asks (by simp)
  have unreversed : ∀ id, ¬ Reverses r payment id a := not_reverses_of_asks h asks (by simp)
  by_cases hs : m.transaction.status = s
  · rw [platform_of_ok h (settle_kept asks hs a.world)]
    exact ⟨x, hx, .kept (fun _ hc => absurd hc (uncharged _)) fun _ hc => absurd hc (unreversed _)⟩
  · rw [platform_of_ok h (settle_moved found asks hs)]
    have operation : m.transaction.operation ≠ .chargeback := by
      intro ho
      unfold Asks at asks
      rw [ho] at asks
      exact Resolution.not_transition_of_chargeback asks
    exact turn_of_update h hx rfl found.payment_found found.transaction_found fun _ =>
      .moved _ m.transaction found.transaction_found operation uncharged unreversed

theorem turn_of_newChargeback (hx : a.world.platform.payments.find? (·.id == payment) = some x)
    (asks : Asks a.item m (tenantFor r a.item m) ⟨.newChargeback, s⟩) :
    ∃ x', ((item r a.item).fairly a.world).2.platform.payments.find? (·.id == payment) = some x' ∧
      Turn r a payment x x' := by
  have found := found_of_sight (accepted_eq_ok.1 h).2.1
  have unreversed : ∀ id, ¬ Reverses r payment id a := not_reverses_of_asks h asks (by simp)
  cases hr : a.item.reference with
  | none =>
    rw [platform_of_ok h (settle_fairly_of_eq_pure (settle_uncarried asks rfl hr) a.world)]
    refine ⟨x, hx, .kept (fun reference hc => ?_) fun _ hc => absurd hc (unreversed _)⟩
    rw [hc.carried] at hr
    cases hr
  | some reference =>
    cases hk : m.payment.transactionByKey? (chargebackKey m.payment.id reference) with
    | some known =>
      rw [platform_of_ok h (settle_fairly_of_eq_pure (settle_known asks rfl hr hk) a.world)]
      refine ⟨x, hx, .kept (fun reference' hc => ?_) fun _ hc => absurd hc (unreversed _)⟩
      rw [hc.carried] at hr
      cases hr
      have hp := payment_of_charges h hc
      subst hp
      rw [found.payment_found] at hx
      cases hx
      exact ⟨known, List.mem_of_find?_eq_some hk, by simpa using List.find?_some hk⟩
    | none =>
      rw [platform_of_ok h (settle_created found asks rfl hr hk), find?_createChargeback found.payment_found hk]
      split
      · next hp =>
        subst hp
        rw [found.payment_found] at hx
        cases hx
        obtain ⟨event, failing, -, operation⟩ := Resolution.ofEvent_eq_newChargeback.1 asks
        have fresh : ∀ t ∈ m.payment.transactions, t.externalKey ≠ chargebackKey m.payment.id reference := by
          simpa [Payment.transactionByKey?] using hk
        have id : (a.world.platform.chargebackTransaction (newChargeback a.item m reference)).id ∉
            m.payment.transactions.map (·.id) := by
          intro hid
          obtain ⟨t, ht, hti⟩ := List.mem_map.1 hid
          exact chargebackTransaction_id_not_mem _ _
            (List.mem_map.2 ⟨t, List.mem_flatMap.2 ⟨m.payment, found.payment_mem, ht⟩, hti⟩)
        exact ⟨_, rfl, .charged reference ⟨event, hr, m, h, rfl, operation, failing⟩ fresh _ id rfl rfl rfl rfl rfl rfl
          unreversed⟩
      · next hp => exact ⟨x, hx, turn_of_elsewhere h (Ne.symm hp)⟩

theorem turn_of_existingChargeback (hx : a.world.platform.payments.find? (·.id == payment) = some x)
    (asks : Asks a.item m (tenantFor r a.item m) ⟨.existingChargeback, s⟩) :
    ∃ x', ((item r a.item).fairly a.world).2.platform.payments.find? (·.id == payment) = some x' ∧
      Turn r a payment x x' := by
  have found := found_of_sight (accepted_eq_ok.1 h).2.1
  have uncharged : ∀ reference, ¬ Charges r payment reference a := not_charges_of_asks h asks (by simp)
  obtain ⟨event, failing, hs, operation⟩ := Resolution.ofEvent_eq_existingChargeback.1 asks
  subst hs
  cases hp : reversed? a.item m.payment with
  | none =>
    obtain ⟨reason, hpure⟩ := settle_unpicked asks hp
    rw [platform_of_ok h (settle_fairly_of_eq_pure hpure a.world)]
    refine ⟨x, hx, .kept (fun _ hc => absurd hc (uncharged _)) fun id hc => ?_⟩
    obtain ⟨-, t, ht, -⟩ := payment_of_reverses h hc
    rw [hp] at ht
    cases ht
  | some chargeback =>
    obtain ⟨mem, -⟩ := mem_of_reversed? hp
    by_cases hs : chargeback.status = .paymentFailure
    · rw [platform_of_ok h (settle_fairly_of_eq_pure (settle_failed asks hp hs) a.world)]
      refine ⟨x, hx, .kept (fun _ hc => absurd hc (uncharged _)) fun id hc => ?_⟩
      obtain ⟨hpay, t, ht, hid⟩ := payment_of_reverses h hc
      rw [hp] at ht
      cases ht
      subst hpay
      rw [found.payment_found] at hx
      cases hx
      exact ⟨chargeback, mem, hid, hs⟩
    · rw [platform_of_ok h (settle_reversed found asks hp hs)]
      obtain ⟨t, ht⟩ : ∃ t, m.payment.transaction? chargeback.id = some t := exists_find? mem (by simp)
      exact turn_of_update h hx rfl found.payment_found ht fun hpay =>
        .reversed _ rfl ⟨event, m, chargeback, h, hpay, operation, failing, hp, rfl⟩ (hpay ▸ uncharged)

end TurnOfItem

/-- What an arrival does to a payment is one of these. -/
theorem turn_of_item {x : Payment} (hx : a.world.platform.payments.find? (·.id == payment) = some x) :
    ∃ x', ((item r a.item).fairly a.world).2.platform.payments.find? (·.id == payment) = some x' ∧
      Turn r a payment x x' := by
  cases h : accepted r a.item a.world.journal.attempts a.world.platform with
  | error o =>
    obtain ⟨e, he⟩ := item_of_error h
    rw [he]
    refine ⟨x, hx, .kept (fun reference hc => ?_) fun id hc => ?_⟩
    · obtain ⟨m, hm, -⟩ := hc.matched
      rw [h] at hm
      cases hm
    · obtain ⟨m, t, hm, -⟩ := hc.matched
      rw [h] at hm
      cases hm
  | ok m =>
    by_cases hasks : ∃ y, Asks a.item m (tenantFor r a.item m) y
    · obtain ⟨⟨target, s⟩, asks⟩ := hasks
      cases target with
      | matched => exact turn_of_matched h hx asks
      | newChargeback => exact turn_of_newChargeback h hx asks
      | existingChargeback => exact turn_of_existingChargeback h hx asks
    · obtain ⟨o, hpure, -⟩ := settle_of_not_asks fun y asks => hasks ⟨y, asks⟩
      rw [platform_of_ok h (settle_fairly_of_eq_pure hpure a.world)]
      refine ⟨x, hx, .kept (fun reference hc => ?_) fun id hc => ?_⟩
      · obtain ⟨m', hm, -, asks⟩ := hc.asks
        rw [h] at hm
        cases hm
        exact absurd ⟨_, asks⟩ hasks
      · obtain ⟨m', t, hm, -, asks, -⟩ := hc.asks
        rw [h] at hm
        cases hm
        exact absurd ⟨_, asks⟩ hasks

/-! ### The chronicle of a payment -/

/-- The transaction is the chargeback of the first arrival with its reference, and has failed if it was reversed. -/
structure Recorded (r : Registry) (payment : Ident) (history : List Arrival) (t : Transaction) (reference : String) :
    Prop where
  operation : t.operation = .chargeback
  key : t.externalKey = chargebackKey payment reference
  carried : t.gatewayReference = some reference
  origin : ∃ before first after, history = before ++ first :: after ∧ Charges r payment reference first ∧
    (∀ a ∈ before, ¬ Charges r payment reference a) ∧
    t.amount = first.item.decimal? ∧ t.currency = first.item.currency? ∧
    (t.status = .success ∧ (∀ a ∈ after, ¬ Reverses r payment t.id a) ∨
      t.status = .paymentFailure ∧ ∃ a ∈ after, Reverses r payment t.id a)

/-- The transactions of a payment after some arrivals: those that it had at the start, which may have been moved, and
one chargeback for each reference. -/
structure Chronicle (r : Registry) (payment : Ident) (start : Payment) (history : List Arrival)
    (kept added : List Transaction) : Prop where
  same : kept.map Transaction.bare = start.transactions.map Transaction.bare
  ids : (added.map (·.id)).Nodup
  apart : ∀ t ∈ added, t.id ∉ start.transactions.map (·.id)
  references : (added.map (·.gatewayReference)).Nodup
  recorded : ∀ t ∈ added, ∃ reference, Recorded r payment history t reference
  complete : ∀ a ∈ history, ∀ reference, Charges r payment reference a →
    some reference ∈ added.map (·.gatewayReference)

variable {history : List Arrival} {t : Transaction}

theorem Recorded.later (h : Recorded r payment history t reference)
    (ha : Reverses r payment t.id a → t.status = .paymentFailure) :
    Recorded r payment (history ++ [a]) t reference := by
  obtain ⟨before, first, after, rfl, hf, hb, hamount, hcurrency, hs⟩ := h.origin
  refine ⟨h.operation, h.key, h.carried, before, first, after ++ [a], by simp, hf, hb, hamount, hcurrency, ?_⟩
  rcases hs with ⟨hs, hr⟩ | ⟨hs, b, hb, hr⟩
  · refine .inl ⟨hs, fun b hb => ?_⟩
    rcases List.mem_append.1 hb with hb | hb
    · exact hr b hb
    · rw [List.mem_singleton] at hb
      subst hb
      intro hrev
      rw [hs] at ha
      cases ha hrev
  · exact .inr ⟨hs, b, List.mem_append_left _ hb, hr⟩

theorem Recorded.fail (h : Recorded r payment history t reference) (ha : Reverses r payment t.id a) :
    Recorded r payment (history ++ [a]) { t with status := .paymentFailure } reference := by
  obtain ⟨before, first, after, rfl, hf, hb, hamount, hcurrency, -⟩ := h.origin
  exact ⟨h.operation, h.key, h.carried, before, first, after ++ [a], by simp, hf, hb, hamount, hcurrency,
    .inr ⟨rfl, a, by simp, ha⟩⟩

namespace Chronicle

variable {start : Payment} {kept added : List Transaction}

theorem ids_kept (h : Chronicle r payment start history kept added) :
    kept.map (·.id) = start.transactions.map (·.id) := by
  have := congrArg (List.map (·.id)) h.same
  simpa [Function.comp_def, Transaction.bare] using this

theorem keys_kept (h : Chronicle r payment start history kept added) :
    kept.map (·.externalKey) = start.transactions.map (·.externalKey) := by
  have := congrArg (List.map (·.externalKey)) h.same
  simpa [Function.comp_def, Transaction.bare] using this

/-- A transaction that was added is told by its identifier. -/
theorem eq_of_id (h : Chronicle r payment start history kept added) {u : Transaction} (ht : t ∈ added)
    (hu : u ∈ kept ++ added) (hid : u.id = t.id) : u = t := by
  rcases List.mem_append.1 hu with hu | hu
  · refine absurd ?_ (h.apart t ht)
    rw [← h.ids_kept, ← hid]
    exact List.mem_map_of_mem hu
  · exact List.inj_on_of_nodup_map h.ids hu ht hid

/-- An arrival that adds nothing, and fails nothing that was added. -/
theorem pass (h : Chronicle r payment start history kept added) {kept' : List Transaction}
    (same : kept'.map Transaction.bare = kept.map Transaction.bare)
    (known : ∀ reference, Charges r payment reference a → some reference ∈ added.map (·.gatewayReference))
    (failed : ∀ t ∈ added, Reverses r payment t.id a → t.status = .paymentFailure) :
    Chronicle r payment start (history ++ [a]) kept' added where
  same := same.trans h.same
  ids := h.ids
  apart := h.apart
  references := h.references
  recorded t ht := by
    obtain ⟨reference, hr⟩ := h.recorded t ht
    exact ⟨reference, hr.later (failed t ht)⟩
  complete b hb reference hc := by
    rcases List.mem_append.1 hb with hb | hb
    · exact h.complete b hb reference hc
    · rw [List.mem_singleton] at hb
      subst hb
      exact known reference hc

/-- A chargeback under a key that no transaction of the payment has. -/
theorem charge (h : Chronicle r payment start history kept added) (charges : Charges r payment reference a)
    (fresh : ∀ u ∈ kept ++ added, u.externalKey ≠ chargebackKey payment reference)
    (id : t.id ∉ (kept ++ added).map (·.id)) (operation : t.operation = .chargeback)
    (key : t.externalKey = chargebackKey payment reference) (carried : t.gatewayReference = some reference)
    (amount : t.amount = a.item.decimal?) (currency : t.currency = a.item.currency?) (status : t.status = .success)
    (unreversed : ∀ id, ¬ Reverses r payment id a) :
    Chronicle r payment start (history ++ [a]) kept (added ++ [t]) := by
  rw [List.map_append, List.mem_append, not_or] at id
  -- a transaction that was added with this reference would have its key
  have new : some reference ∉ added.map (·.gatewayReference) := by
    intro hmem
    obtain ⟨u, hu, hur⟩ := List.mem_map.1 hmem
    obtain ⟨reference', hr⟩ := h.recorded u hu
    rw [hr.carried] at hur
    cases hur
    exact fresh u (List.mem_append_right _ hu) hr.key
  have first : ∀ b ∈ history, ¬ Charges r payment reference b := fun b hb hc => new (h.complete b hb reference hc)
  refine ⟨h.same, ?_, ?_, ?_, ?_, ?_⟩
  · rw [List.map_append, List.map_singleton, ← List.concat_eq_append]
    exact h.ids.concat id.2
  · intro u hu
    rcases List.mem_append.1 hu with hu | hu
    · exact h.apart u hu
    · rw [List.mem_singleton] at hu
      subst hu
      rw [← h.ids_kept]
      exact id.1
  · rw [List.map_append, List.map_singleton, carried, ← List.concat_eq_append]
    exact h.references.concat new
  · intro u hu
    rcases List.mem_append.1 hu with hu | hu
    · obtain ⟨reference', hr⟩ := h.recorded u hu
      exact ⟨reference', hr.later fun hrev => absurd hrev (unreversed _)⟩
    · rw [List.mem_singleton] at hu
      subst hu
      exact ⟨reference, operation, key, carried, history, a, [], rfl, charges, first, amount, currency,
        .inl ⟨status, by simp⟩⟩
  · intro b hb reference' hc
    rw [List.map_append, List.mem_append]
    rcases List.mem_append.1 hb with hb | hb
    · exact .inl (h.complete b hb reference' hc)
    · rw [List.mem_singleton] at hb
      subst hb
      have hcarried := hc.carried
      rw [charges.carried] at hcarried
      cases hcarried
      exact .inr (by simp [carried])

/-- A reversal of a chargeback that was added. -/
theorem reverse (h : Chronicle r payment start history kept added)
    (reverses : Reverses r payment id a) (uncharged : ∀ reference, ¬ Charges r payment reference a)
    {f : Transaction → Transaction}
    (hf : ∀ u ∈ added, f u = if u.id = id then { u with status := .paymentFailure } else u) :
    Chronicle r payment start (history ++ [a]) kept (added.map f) := by
  have ids : (added.map f).map (·.id) = added.map (·.id) := by
    rw [List.map_map]
    refine List.map_congr_left fun u hu => ?_
    rw [Function.comp_apply, hf u hu]
    split <;> rfl
  have references : (added.map f).map (·.gatewayReference) = added.map (·.gatewayReference) := by
    rw [List.map_map]
    refine List.map_congr_left fun u hu => ?_
    rw [Function.comp_apply, hf u hu]
    split <;> rfl
  refine ⟨h.same, ids ▸ h.ids, ?_, references ▸ h.references, ?_, ?_⟩
  · intro u hu
    have hmem : u.id ∈ added.map (·.id) := ids ▸ List.mem_map_of_mem hu
    obtain ⟨v, hv, hvu⟩ := List.mem_map.1 hmem
    exact hvu ▸ h.apart v hv
  · intro u hu
    obtain ⟨v, hv, rfl⟩ := List.mem_map.1 hu
    obtain ⟨reference, hr⟩ := h.recorded v hv
    rw [hf v hv]
    split
    · next hid => exact ⟨reference, hr.fail (hid ▸ reverses)⟩
    · next hid => exact ⟨reference, hr.later fun hrev => absurd (reverses.unique hrev) hid⟩
  · intro b hb reference hc
    rw [references]
    rcases List.mem_append.1 hb with hb | hb
    · exact h.complete b hb reference hc
    · rw [List.mem_singleton] at hb
      subst hb
      exact absurd hc (uncharged reference)

/-- Each arrival continues the chronicle of a payment that had no key of a chargeback at the start. -/
theorem arrive (fresh : ∀ t ∈ start.transactions, ∀ text, t.externalKey ≠ chargebackKey payment text)
    (h : Chronicle r payment start history kept added) {x x' : Payment} (hx : x.transactions = kept ++ added)
    (turn : Turn r a payment x x') :
    ∃ kept' added', x'.transactions = kept' ++ added' ∧ Chronicle r payment start (history ++ [a]) kept' added' := by
  have keys : ∀ t ∈ kept, ∀ text, t.externalKey ≠ chargebackKey payment text := by
    intro t ht text
    have hmem : t.externalKey ∈ start.transactions.map (·.externalKey) := h.keys_kept ▸ List.mem_map_of_mem ht
    obtain ⟨u, hu, hut⟩ := List.mem_map.1 hmem
    exact hut ▸ fresh u hu text
  cases turn with
  | kept known failed =>
    refine ⟨kept, added, hx, h.pass rfl (fun reference hc => ?_) fun t ht hrev => ?_⟩
    · -- the transaction with the key was added
      obtain ⟨t, ht, hkey⟩ := known reference hc
      rw [hx] at ht
      rcases List.mem_append.1 ht with ht | ht
      · exact absurd hkey (keys t ht reference)
      · obtain ⟨reference', hr⟩ := h.recorded t ht
        rw [hr.key, chargebackKey_inj] at hkey
        subst hkey
        exact List.mem_map.2 ⟨t, ht, hr.carried⟩
    · obtain ⟨u, hu, hid, hs⟩ := failed _ hrev
      rw [hx] at hu
      exact h.eq_of_id ht hu hid ▸ hs
  | moved c t found operation uncharged unreversed =>
    have ht : t ∈ kept := by
      have hmem := List.mem_of_find?_eq_some found
      rw [hx] at hmem
      rcases List.mem_append.1 hmem with hmem | hmem
      · exact hmem
      · obtain ⟨reference, hr⟩ := h.recorded t hmem
        exact absurd hr.operation operation
    have hid := List.find?_some found
    refine ⟨changeFirst (·.id == c.transaction) (changed c) kept, added, ?_, h.pass (map_changeFirst fun _ _ => rfl)
      (fun _ hc => absurd hc (uncharged _)) fun _ _ hrev => absurd hrev (unreversed _)⟩
    rw [edited, change_eq, hx]
    exact changeFirst_append_of_mem _ ht hid
  | charged reference charges unknown t id operation key carried amount currency status unreversed =>
    refine ⟨kept, added ++ [t], by rw [extended, hx, List.append_assoc], ?_⟩
    rw [hx] at unknown id
    exact h.charge charges unknown id operation key carried amount currency status unreversed
  | reversed c status reverses uncharged =>
    by_cases hkept : ∃ u ∈ kept, u.id = c.transaction
    · obtain ⟨u, hu, hid⟩ := hkept
      refine ⟨changeFirst (·.id == c.transaction) (changed c) kept, added, ?_, h.pass (map_changeFirst fun _ _ => rfl)
        (fun _ hc => absurd hc (uncharged _)) fun t ht hrev => ?_⟩
      · rw [edited, change_eq, hx]
        exact changeFirst_append_of_mem _ hu (by simp [hid])
      · -- what was added has other identifiers
        have hne := h.apart t ht
        rw [reverses.unique hrev, ← h.ids_kept, ← hid] at hne
        exact absurd (List.mem_map_of_mem hu) hne
    · refine ⟨kept, added.map fun u => if u.id = c.transaction then changed c u else u, ?_, ?_⟩
      · rw [edited, change_eq, hx, changeFirst_append_of_forall, changeFirst_eq_map _ h.ids]
        intro u hu
        simpa using fun he => hkept ⟨u, hu, he⟩
      · refine h.reverse reverses uncharged fun u hu => ?_
        obtain ⟨reference, hr⟩ := h.recorded u hu
        simp [changed, hr.carried, status]

end Chronicle

/-- Where no payment has a key of a chargeback at the start, a run of deliveries without failing calls adds to a payment
one chargeback for each reference that a chargeback of the run charges it with, and nothing else. -/
theorem chargebacks_of_deliveries (r : Registry) (w : World)
    (fresh : ∀ x ∈ w.platform.payments, ∀ t ∈ x.transactions, ∀ text, t.externalKey ≠ chargebackKey x.id text)
    (bodies : List Text.Utf8.Bytes) (payment : Ident) (x : Payment)
    (hx : w.platform.payments.find? (·.id == payment) = some x) :
    ∃ x' kept added, (deliverAll r (postings bodies) w).platform.payments.find? (·.id == payment) = some x' ∧
      x'.transactions = kept ++ added ∧ kept.map Transaction.bare = x.transactions.map Transaction.bare ∧
      (added.map (·.gatewayReference)).Nodup ∧
      (∀ reference, some reference ∈ added.map (·.gatewayReference) ↔
        ∃ a ∈ received r bodies w, Charges r payment reference a) ∧
      ∀ t ∈ added, ∃ reference, Recorded r payment (received r bodies w) t reference := by
  let P (history : List Arrival) (v : World) : Prop :=
    ∃ x' kept added, v.platform.payments.find? (·.id == payment) = some x' ∧ x'.transactions = kept ++ added ∧
      Chronicle r payment x history kept added
  have hid : x.id = payment := by simpa using List.find?_some hx
  have freshKeys : ∀ t ∈ x.transactions, ∀ text, t.externalKey ≠ chargebackKey payment text :=
    hid ▸ fresh x (List.mem_of_find?_eq_some hx)
  have start : P [] w := ⟨x, x.transactions, [], hx, by simp, ⟨rfl, by simp, by simp, by simp, by simp, by simp⟩⟩
  have same : ∀ h v w, v.platform = w.platform → v.journal.attempts = w.journal.attempts → P h w → P h v := by
    rintro h v w hp - ⟨x', kept, added, hx', hkept, chronicle⟩
    exact ⟨x', kept, added, hp ▸ hx', hkept, chronicle⟩
  have step : ∀ h i v, P h v → P (h ++ [⟨i, v⟩]) ((item r i).fairly v).2 := by
    rintro h i v ⟨x', kept, added, hx', hkept, chronicle⟩
    obtain ⟨x'', hx'', turn⟩ := turn_of_item (r := r) (a := ⟨i, v⟩) hx'
    obtain ⟨kept', added', hkept', chronicle'⟩ := chronicle.arrive freshKeys hkept turn
    exact ⟨x'', kept', added', hx'', hkept', chronicle'⟩
  obtain ⟨x', kept, added, hx', hkept, chronicle⟩ := deliverAll_received P same step bodies start
  rw [List.nil_append] at chronicle
  refine ⟨x', kept, added, hx', hkept, chronicle.same, chronicle.references, fun reference => ⟨fun h => ?_, ?_⟩,
    chronicle.recorded⟩
  · obtain ⟨t, ht, hcarried⟩ := List.mem_map.1 h
    obtain ⟨reference', hr⟩ := chronicle.recorded t ht
    rw [hr.carried] at hcarried
    cases hcarried
    obtain ⟨before, first, after, hhistory, charges, -⟩ := hr.origin
    exact ⟨first, by simp [hhistory], charges⟩
  · rintro ⟨a, ha, charges⟩
    exact chronicle.complete a ha reference charges

/-- The body of an item that names the authorization of the small world. -/
def specimenBody (code reference : String) : Text.Utf8.Bytes :=
  ["\x7b\"notificationItems\":[\x7b\"merchantReference\":\"00000000000000000000000000000004\",",
    "\"merchantAccountCode\":\"M\",\"success\":true,\"eventCode\":\"", code, "\",\"pspReference\":\"", reference,
    "\"\x7d]\x7d"].flatMap Text.Utf8.encode

/-- Two chargebacks, one of them delivered twice and reversed in between. -/
theorem chargebacks_of_two_references :
    (∀ x ∈ specimen.platform.payments, ∀ t ∈ x.transactions, ∀ text, t.externalKey ≠ chargebackKey x.id text) ∧
      ∃ x' kept added,
        (deliverAll .empty (postings [specimenBody "CHARGEBACK" "B", specimenBody "CHARGEBACK_REVERSED" "B",
          specimenBody "CHARGEBACK" "B", specimenBody "CHARGEBACK" "C"]) specimen).platform.payments.find?
            (·.id == .given 3) = some x' ∧
        x'.transactions = kept ++ added ∧ (added.map (·.gatewayReference)).Nodup ∧
        added.map (fun t => (t.gatewayReference, t.status)) = [(some "B", .paymentFailure), (some "C", .success)] := by
  have fresh : ∀ x ∈ specimen.platform.payments, ∀ t ∈ x.transactions, ∀ text,
      t.externalKey ≠ chargebackKey x.id text := by
    -- the keys begin with a letter, and the identifier of the payment with a digit
    intro x hx t ht text hkey
    have hhead : ∀ x ∈ specimen.platform.payments, ∀ t ∈ x.transactions,
        t.externalKey.toList.head? ≠ x.id.text.toList.head? ∧ x.id.text.toList ≠ [] := by decide
    obtain ⟨hne, hnil⟩ := hhead x hx t ht
    refine hne ?_
    rw [hkey, chargebackKey, String.toList_append, String.toList_append, List.append_assoc, List.head?_append]
    cases htext : x.id.text.toList with
    | nil => exact absurd htext hnil
    | cons c rest => rfl
  obtain ⟨x', kept, added, hx', hkept, same, references, -⟩ := chargebacks_of_deliveries .empty specimen fresh
    [specimenBody "CHARGEBACK" "B", specimenBody "CHARGEBACK_REVERSED" "B", specimenBody "CHARGEBACK" "B",
      specimenBody "CHARGEBACK" "C"] (.given 3) _ rfl
  refine ⟨fresh, x', kept, added, hx', hkept, references, ?_⟩
  have hlen : kept.length = 2 := by simpa [specimen] using congrArg List.length same
  have hdrop : added = x'.transactions.drop 2 := by rw [hkept, ← hlen, List.drop_left]
  have hsome : (((deliverAll .empty (postings [specimenBody "CHARGEBACK" "B", specimenBody "CHARGEBACK_REVERSED" "B",
      specimenBody "CHARGEBACK" "B", specimenBody "CHARGEBACK" "C"]) specimen).platform.payments.find?
        (·.id == .given 3)).map fun x => (x.transactions.drop 2).map fun t => (t.gatewayReference, t.status)) =
      some [(some "B", .paymentFailure), (some "C", .success)] := by decide +kernel
  rw [hx', Option.map_some] at hsome
  rw [hdrop]
  exact Option.some.inj hsome

end Delivery
end Notification
end Reconciliation
