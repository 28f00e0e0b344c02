import Reconciliation.Proofs.ChargebackPolicy

/-!
# Which chargeback a reversal fails

A payment may have any number of chargebacks, some of them reversed before. The reference of a reversal need not be that
of any of them. It then fails a chargeback only if there is no doubt which one is meant.

* `Concerns` is the chargeback that a reversal is about, or that there is none.
* `concerns_iff`: this is the one that is searched for.
* `ChargebackFailed` is what a reversal leaves behind.
* `reversal_of_match` is the statement about an item that is matched to a payment.
-/

namespace Reconciliation.Notification.Delivery

open Procedure Platform Matching

/-! ### What a reversal is about -/

/-- The transaction is a chargeback, and it has the reference that the item carries. -/
def Carries (i : Item) (t : Transaction) : Prop :=
  t.operation = .chargeback ∧ i.reference ≠ none ∧ t.gatewayReference = i.reference

instance (i : Item) (t : Transaction) : Decidable (Carries i t) :=
  inferInstanceAs (Decidable (t.operation = .chargeback ∧ i.reference ≠ none ∧ t.gatewayReference = i.reference))

/-- The chargeback of a payment that a reversal is about: the latest of those with its reference, of the same time the
later in the list; without any, the only chargeback that the payment has. -/
inductive Concerns (i : Item) (x : Payment) : Option Transaction → Prop where
  | latest {t : Transaction} (before after : List Transaction) (split : x.transactions = before ++ t :: after)
      (carries : Carries i t) (notEarlier : ∀ u ∈ before, Carries i u → u.created.notAfter t.created = true)
      (later : ∀ u ∈ after, Carries i u → t.created.notAfter u.created = false) : Concerns i x (some t)
  | only {t : Transaction} (unknown : ∀ u ∈ x.transactions, ¬ Carries i u) (alone : x.chargebacks = [t]) :
      Concerns i x (some t)
  | nothing (unknown : ∀ u ∈ x.transactions, ¬ Carries i u) (unclear : x.chargebacks.length ≠ 1) : Concerns i x none

variable {i : Item} {x : Payment}

/-- The latest of the chargebacks with the reference of an item. -/
def latest? (i : Item) (x : Payment) : Option Transaction :=
  lastMax (fun t u => t.created.notAfter u.created) (x.transactions.filter (Carries i ·))

/-- The only chargeback of a payment. -/
def only? (x : Payment) : Option Transaction :=
  match x.chargebacks with
  | [t] => some t
  | _ => none

theorem only?_eq_some_iff {t : Transaction} : only? x = some t ↔ x.chargebacks = [t] := by
  unfold only?
  rcases x.chargebacks with _ | ⟨a, _ | ⟨b, rest⟩⟩ <;> simp

theorem only?_eq_none_iff : only? x = none ↔ x.chargebacks.length ≠ 1 := by
  unfold only?
  rcases x.chargebacks with _ | ⟨a, _ | ⟨b, rest⟩⟩ <;> simp

theorem reversed?_eq (i : Item) (x : Payment) : reversed? i x = (latest? i x).or (only? x) := by
  have byReference : (i.reference.bind fun s => (x.chargebacks.filter (·.gatewayReference == some s)).foldl later none) =
      latest? i x := by
    unfold latest?
    cases hr : i.reference with
    | none =>
      have none : x.transactions.filter (Carries i ·) = [] := by simp [Carries, hr]
      rw [none]
      rfl
    | some s =>
      rw [Option.bind_some, foldl_later, Payment.chargebacks, List.filter_filter]
      congr 2
      funext t
      rw [Bool.eq_iff_iff]
      simp [Carries, hr, and_comm]
  rw [← byReference]
  rfl

theorem latest?_eq_none_iff : latest? i x = none ↔ ∀ u ∈ x.transactions, ¬ Carries i u := by
  rw [latest?, lastMax_eq_none_iff created_preorder, List.filter_eq_nil_iff]
  simp

/-- The chargeback that is searched for is the one that the reversal is about. -/
theorem concerns_iff {target : Option Transaction} : Concerns i x target ↔ reversed? i x = target := by
  rw [reversed?_eq]
  constructor
  · rintro (⟨before, after, split, carries, notEarlier, later⟩ | ⟨unknown, alone⟩ | ⟨unknown, unclear⟩)
    · have found : latest? i x = some _ := (lastMax_filter_eq_some_iff created_preorder _).2
        ⟨before, after, split, by simpa using carries, by simpa using notEarlier, by simpa using later⟩
      rw [found]
      rfl
    · rw [latest?_eq_none_iff.2 unknown, only?_eq_some_iff.2 alone]
      rfl
    · rw [latest?_eq_none_iff.2 unknown, only?_eq_none_iff.2 unclear]
      rfl
  · rintro rfl
    cases hlatest : latest? i x with
    | some t =>
      obtain ⟨before, after, split, carries, notEarlier, later⟩ :=
        (lastMax_filter_eq_some_iff created_preorder _).1 hlatest
      exact .latest before after split (by simpa using carries) (by simpa using notEarlier) (by simpa using later)
    | none =>
      have unknown := latest?_eq_none_iff.1 hlatest
      cases honly : only? x with
      | some t => exact .only unknown (only?_eq_some_iff.1 honly)
      | none => exact .nothing unknown (only?_eq_none_iff.1 honly)

/-! ### What a reversal leaves behind -/

variable {r : Registry} {w v : World} {m : Match} {t : Tenant} {chargeback : Transaction}

/-- The chargeback has failed and is otherwise the same, with its gateway reference, and so are all other transactions,
the matched one among them, and all attempts. -/
structure ChargebackFailed (m : Match) (chargeback : Transaction) (w v : World) : Prop where
  chargeback : Replaced m.payment chargeback { chargeback with status := .paymentFailure } w.platform.payments
    v.platform.payments
  methods : v.platform.methods = w.platform.methods
  matched : ∃ x, Stands v.platform m x m.transaction
  attempts : v.journal.attempts = w.journal.attempts

/-- Where chargebacks do not fail payments, a reversal asks to fail a chargeback. -/
theorem asks_of_reversal (event : i.eventCode = .chargebackReversed)
    (operation : m.transaction.operation = .authorize ∨ m.transaction.operation = .purchase)
    (unlisted : ∀ family, m.family = some family → family ∉ t.failingFamilies) :
    Asks i m t ⟨.existingChargeback, .paymentFailure⟩ := by
  refine Resolution.ofEvent_eq_existingChargeback.2 ⟨event, ?_, rfl, operation⟩
  cases hf : m.family with
  | none => rfl
  | some family => simpa [Resolution.failing, Tenant.failsOnChargeback] using unlisted family hf

section Matched

variable (h : accepted r i w.journal.attempts w.platform = .ok m)
  (asks : Asks i m (tenantFor r i m) ⟨.existingChargeback, .paymentFailure⟩)

include h asks

theorem item_of_unclear (picked : reversed? i m.payment = none) :
    ∃ reason e, (item r i).fairly w = (.ignored reason, w.noted e) := by
  obtain ⟨reason, settled⟩ := settle_unpicked asks picked
  obtain ⟨e, he⟩ := item_of_ok h (settle_fairly_of_eq_pure settled w)
  exact ⟨reason, e, he⟩

/-- A chargeback that was reversed before stays as it is. -/
theorem item_of_failed (picked : reversed? i m.payment = some chargeback) (status : chargeback.status = .paymentFailure) :
    ((item r i).fairly w).1 = .alreadyApplied chargeback.id .paymentFailure ∧
      ChargebackFailed m chargeback w ((item r i).fairly w).2 := by
  have found := found_of_sight (accepted_eq_ok.1 h).2.1
  obtain ⟨e, he⟩ := item_of_ok h (settle_fairly_of_eq_pure (settle_failed asks picked status) w)
  have same : { chargeback with status := .paymentFailure } = chargeback := by rw [← status]
  rw [he]
  refine ⟨rfl, ⟨?_, rfl, ⟨m.payment, found.stands⟩, rfl⟩⟩
  rw [same]
  exact .refl found.payment_mem (mem_of_reversed? picked).1

theorem item_of_standing (distinct : w.platform.DistinctInPayments)
    (picked : reversed? i m.payment = some chargeback) (status : chargeback.status ≠ .paymentFailure) :
    ((item r i).fairly w).1 = .applied chargeback.id .paymentFailure ∧
      ChargebackFailed m chargeback w ((item r i).fairly w).2 := by
  have found := found_of_sight (accepted_eq_ok.1 h).2.1
  have ids := distinct _ found.payment_mem
  obtain ⟨e, he⟩ := item_of_ok h (settle_reversed found asks picked status)
  obtain ⟨p', hu, replaced, methods, -⟩ :=
    reversed_writes (i := i) found distinct (mem_of_reversed? picked).1 status
  have stands := stands_reversed found ids asks picked
  rw [he]
  rw [hu] at stands ⊢
  exact ⟨rfl, ⟨replaced, methods, ⟨_, stands⟩, rfl⟩⟩

end Matched

/-- A reversal that passes verification and is matched to an authorization or a purchase of a family whose chargebacks do
not fail the payment, where no call fails, fails the chargeback that it is about and nothing else. Where it is about none
it is ignored, and nothing changes. -/
theorem reversal_of_match (r : Registry) (w : World) (distinct : w.platform.DistinctInPayments) (i : Item)
    (event : i.eventCode = .chargebackReversed) (m : Match) (matched : MatchedTo r .fair w i m)
    (verified : verified i (tenantFor r i m) = true)
    (operation : m.transaction.operation = .authorize ∨ m.transaction.operation = .purchase)
    (unlisted : ∀ family, m.family = some family → family ∉ (tenantFor r i m).failingFamilies) :
    let run := (item r i).run .fair w
    ∃ target, (∀ x, Concerns i m.payment x ↔ x = target) ∧
      match target with
      | none => (∃ reason, run.ending = .finished (.ignored reason)) ∧ run.world.platform = w.platform ∧
          run.world.journal.attempts = w.journal.attempts
      | some t => ChargebackFailed m t w run.world ∧
          run.ending = .finished (if t.status = .paymentFailure then .alreadyApplied t.id .paymentFailure
            else .applied t.id .paymentFailure) := by
  have h := accepted_of_verified matched verified
  have asks := asks_of_reversal event operation unlisted
  dsimp only
  rw [ending_fair, world_fair]
  refine ⟨reversed? i m.payment, fun x => concerns_iff.trans eq_comm, ?_⟩
  cases picked : reversed? i m.payment with
  | none =>
    obtain ⟨reason, e, he⟩ := item_of_unclear h asks picked
    rw [he]
    exact ⟨⟨reason, rfl⟩, rfl, rfl⟩
  | some chargeback =>
    by_cases status : chargeback.status = .paymentFailure
    · obtain ⟨outcome, failed⟩ := item_of_failed h asks picked status
      exact ⟨failed, by rw [outcome, if_pos status]⟩
    · obtain ⟨outcome, failed⟩ := item_of_standing h asks distinct picked status
      exact ⟨failed, by rw [outcome, if_neg status]⟩

/-- A payment with three chargebacks; two came under one reference at the same time. -/
def contested : Payment := ⟨.given 3, .given 2, .given 6, [
  ⟨.given 4, "authorization", .authorize, .success, none, none, none, .live 1⟩,
  ⟨.given 21, "first", .chargeback, .success, none, none, some "B", .live 3⟩,
  ⟨.given 22, "second", .chargeback, .success, none, none, some "B", .live 3⟩,
  ⟨.given 23, "third", .chargeback, .success, none, none, some "C", .live 9⟩]⟩

/-- The small world with that payment. -/
def contestedWorld : World := { specimen with platform := { specimen.platform with payments := [contested] } }

/-- The second of the two is failed by a reversal under their reference. -/
theorem reversal_of_match_of_equal_times :
    let i := specimenItem .chargebackReversed true (some "B") (some "A")
    let m := { specimenMatch .parentReference with
      payment := contested
      transaction := ⟨.given 4, "authorization", .authorize, .success, none, none, none, .live 1⟩ }
    let run := (item .empty i).run .fair contestedWorld
    MatchedTo .empty .fair contestedWorld i m ∧ contestedWorld.platform.DistinctInPayments ∧
      ChargebackFailed m ⟨.given 22, "second", .chargeback, .success, none, none, some "B", .live 3⟩ contestedWorld
        run.world ∧
      run.ending = .finished (.applied (.given 22) .paymentFailure) := by
  intro i m run
  have distinct : contestedWorld.platform.DistinctInPayments := distinctInPayments_of_nodup (by decide)
  have matched : MatchedTo .empty .fair contestedWorld i m := matchedTo_fair_iff.2 (by decide +kernel)
  obtain ⟨target, about, failed⟩ := reversal_of_match .empty contestedWorld distinct i rfl m matched (by decide +kernel)
    (.inl rfl) (by intro _ h; cases h)
  have second : some ⟨.given 22, "second", .chargeback, .success, none, none, some "B", .live 3⟩ = target :=
    (about _).1 (.latest (contested.transactions.take 2) (contested.transactions.drop 3) rfl (by decide) (by decide)
      (by decide))
  subst second
  exact ⟨matched, distinct, failed⟩

end Reconciliation.Notification.Delivery
