import Reconciliation.Proofs.Calls
import Reconciliation.Proofs.Redelivery
import Reconciliation.Proofs.Registries

/-!
# What a chargeback does to a payment

A tenant lists families of payment methods whose chargebacks fail the payment. On other families, a chargeback becomes a
transaction of its own. An item never does both.

* `HasFamily` says which family a chargeback is on, `Lists` that a tenant lists it.
* `PaymentFailed` and `ChargebackRecorded` are what the two leave behind.
* `chargeback_policy`: which of them it is depends on whether the tenant lists the family.
-/

namespace Reconciliation.Notification.Delivery

open Procedure Platform Matching

variable {r : Registry} {w v : World} {i : Item} {m : Match}

/-! ### Families -/

/-- The family of the payment's method or, where the platform does not know the method, the one that the item names. -/
inductive HasFamily (p : Platform) (i : Item) (x : Payment) : Family → Prop where
  | stored (method : PaymentMethod) (found : p.methods.find? (·.id == x.method) = some method) :
      HasFamily p i x method.family
  | hinted (unknown : p.methods.find? (·.id == x.method) = none) (text : String) (hint : i.paymentMethod = some text) :
      HasFamily p i x (.ofText text)

theorem HasFamily.family_eq {p : Platform} {x : Payment} {f : Family} (h : HasFamily p i x f) :
    family i (p.method? x.method) = some f := by
  unfold method?
  cases h with
  | stored method found =>
    rw [found]
    rfl
  | hinted unknown text hint =>
    rw [unknown]
    simp [family, hint]

/-- The tenant lists the family, blanks around their names and the case of letters aside. -/
def Lists (t : Tenant) (f : Family) : Prop :=
  ∃ listed ∈ t.failingFamilies, Text.lower (Text.trim listed.name) = Text.lower (Text.trim f.name)

theorem lists_iff_mem {t : Tenant} {f : Family} : Lists t f ↔ f ∈ t.failingFamilies := by
  simp only [Lists, Family.normal, ← Family.eq_iff, exists_eq_right]

theorem failing_eq_true (t : Tenant) (f : Family) : Resolution.failing t (some f) = true ↔ Lists t f :=
  List.contains_iff_mem.trans lists_iff_mem.symm

/-! ### What is left -/

/-- The matched transaction has failed, and no transaction is added or changed otherwise. It keeps its gateway
reference; without one it may get that of the operation that the chargeback is about, and so may its attempt, but
neither gets that of the chargeback. -/
structure PaymentFailed (i : Item) (m : Match) (w v : World) : Prop where
  transaction : ∃ x reference,
    (reference = m.transaction.gatewayReference ∨
      m.transaction.gatewayReference = none ∧ reference = i.parentReference) ∧
    Stands v.platform m x { m.transaction with status := .paymentFailure, gatewayReference := reference } ∧
    Replaced m.payment m.transaction
      { m.transaction with status := .paymentFailure, gatewayReference := reference }
      w.platform.payments v.platform.payments
  attempt : ∃ before a after, Journal.Key.of a = .of m.attempt ∧ w.journal.attempts = before ++ a :: after ∧
    v.journal.attempts = before ++ Journal.moved i.parentReference .paymentFailure a :: after

/-- The payment has a chargeback with this reference, the matched transaction and all attempts are as they were. -/
structure ChargebackRecorded (m : Match) (reference : String) (w v : World) : Prop where
  attempts : v.journal.attempts = w.journal.attempts
  transaction : ∃ x, Stands v.platform m x m.transaction ∧
    ∃ t ∈ x.transactions, t.externalKey = chargebackKey m.payment.id reference
  /-- Only a chargeback that is not there is created. -/
  recorded :
    if ∃ t ∈ m.payment.transactions, t.externalKey = chargebackKey m.payment.id reference then
      v.platform.payments = w.platform.payments
    else ∃ t, t.externalKey = chargebackKey m.payment.id reference ∧ t.operation = .chargeback ∧ t.status = .success ∧
      Appended m.payment t w.platform.payments v.platform.payments

section Matched

variable (h : accepted r i w.journal.attempts w.platform = .ok m)

include h

theorem paymentFailed_of_asks (event : i.eventCode = .chargeback)
    (asks : Asks i m (tenantFor r i m) ⟨.matched, .paymentFailure⟩) :
    PaymentFailed i m w ((item r i).fairly w).2 := by
  have found := found_of_sight (accepted_eq_ok.1 h).2.1
  have own : reference i = i.parentReference := by rw [reference, event]
  have attempt : ∃ before a after, Journal.Key.of a = .of m.attempt ∧ w.journal.attempts = before ++ a :: after ∧
      movedAttempts i m .paymentFailure w =
        before ++ Journal.moved i.parentReference .paymentFailure a :: after := by
    obtain ⟨a, ha⟩ := exists_find? (p := (Journal.Key.of · == .of m.attempt)) found.recorded (by simp)
    obtain ⟨before, after, hl, hc, -⟩ := changeFirst_split (Journal.moved (reference i) .paymentFailure) ha
    exact ⟨before, a, after, by simpa using List.find?_some ha, hl, own ▸ hc⟩
  by_cases hs : m.transaction.status = .paymentFailure
  · obtain ⟨e, he⟩ := item_of_ok h (settle_kept asks hs w)
    rw [he]
    refine ⟨⟨m.payment, m.transaction.gatewayReference, .inl rfl, ?_, ?_⟩, attempt⟩
    · rw [← hs]
      exact found.stands
    · rw [← hs]
      exact .refl found.payment_mem found.transaction_mem
  · obtain ⟨e, he⟩ := item_of_ok h (settle_moved found asks hs)
    obtain ⟨p', hu, replaced, -⟩ := moved_writes (i := i) found hs
    have stands := stands_changed (i := i) found .paymentFailure
    rw [he]
    rw [hu] at stands ⊢
    refine ⟨⟨edited (matchedChange i m .paymentFailure) m.payment,
      m.transaction.gatewayReference.or i.parentReference, ?_, ?_, ?_⟩, attempt⟩
    · cases m.transaction.gatewayReference with
      | none => exact .inr ⟨rfl, rfl⟩
      | some g => exact .inl rfl
    · rw [← own]
      exact stands
    · rw [← own]
      exact replaced

theorem chargebackRecorded_of_asks (asks : Asks i m (tenantFor r i m) ⟨.newChargeback, .success⟩)
    {reference : String} (carried : i.reference = some reference) :
    ChargebackRecorded m reference w ((item r i).fairly w).2 := by
  have found := found_of_sight (accepted_eq_ok.1 h).2.1
  cases hk : m.payment.transactionByKey? (chargebackKey m.payment.id reference) with
  | some known =>
    obtain ⟨e, he⟩ := item_of_ok h (settle_fairly_of_eq_pure (settle_known asks rfl carried hk) w)
    have there : ∃ t ∈ m.payment.transactions, t.externalKey = chargebackKey m.payment.id reference :=
      ⟨known, List.mem_of_find?_eq_some hk, by simpa using List.find?_some hk⟩
    rw [he]
    exact ⟨rfl, ⟨m.payment, found.stands, there⟩, by rw [if_pos there]; rfl⟩
  | none =>
    obtain ⟨e, he⟩ := item_of_ok h (settle_created found asks rfl carried hk)
    obtain ⟨p', hc, appended, -⟩ := created_writes (i := i) found hk
    have stands := stands_created (i := i) found hk
    have absent : ¬ ∃ t ∈ m.payment.transactions, t.externalKey = chargebackKey m.payment.id reference := by
      simpa [Payment.transactionByKey?] using hk
    rw [he]
    rw [hc] at stands ⊢
    refine ⟨rfl, ⟨_, stands, _, List.mem_append_right _ (List.mem_singleton_self _), rfl⟩, ?_⟩
    rw [if_neg absent]
    exact ⟨_, rfl, rfl, rfl, appended⟩

end Matched

/-! ### The policy -/

theorem accepted_of_verified (matched : MatchedTo r .fair w i m) (verified : verified i (tenantFor r i m) = true) :
    accepted r i w.journal.attempts w.platform = .ok m := by
  refine accepted_eq_ok.2 ⟨?_, matchedTo_fair_iff.1 matched, verified⟩
  -- the owner of the merchant account is the tenant whose configuration applies
  cases ho : r.forAccount? i.merchantAccount with
  | none => rfl
  | some owner =>
    rw [tenantFor, ho] at verified
    exact verified

/-- A chargeback on an authorization or a purchase that passes verification, where no call fails, fails the transaction
if the tenant whose configuration applies lists the family, blanks around it and the case of its letters aside.
Otherwise, if it carries a reference, it is recorded as a transaction of its own. -/
theorem chargeback_policy (r : Registry) (w : World) (i : Item) (event : i.eventCode = .chargeback) (m : Match)
    (matched : MatchedTo r .fair w i m) (verified : verified i (tenantFor r i m) = true)
    (operation : m.transaction.operation = .authorize ∨ m.transaction.operation = .purchase)
    (f : Family) (known : HasFamily w.platform i m.payment f) :
    let v := ((item r i).run .fair w).world
    (Lists (tenantFor r i m) f → PaymentFailed i m w v) ∧
      (¬ Lists (tenantFor r i m) f →
        ∀ reference, i.reference = some reference → ChargebackRecorded m reference w v) := by
  have h := accepted_of_verified matched verified
  have family : m.family = some f := (sight_eq_some.1 (accepted_eq_ok.1 h).2.1).2.2.2.trans known.family_eq
  have failing := failing_eq_true (tenantFor r i m) f
  rw [← family] at failing
  dsimp only
  rw [world_fair]
  constructor
  · intro lists
    refine paymentFailed_of_asks h event ?_
    rw [Asks, event, failing.2 lists]
    simp [Resolution.ofEvent, Resolution.ofTransition_eq_transition, operation]
  · intro unlisted reference carried
    have recorded : Resolution.failing (tenantFor r i m) m.family = false := by simpa using mt failing.1 unlisted
    exact chargebackRecorded_of_asks h
      (Resolution.ofEvent_eq_newChargeback.2 ⟨event, recorded, rfl, operation⟩) carried

/-- A tenant of the small world that lists one family. -/
def listingTenant : Tenant := ⟨.given 7, ["M"], none, .hmacSha256, [.ofText "Visa"]⟩

/-- A chargeback of the small world on a family. -/
def hintedItem (text : String) : Item :=
  { specimenItem .chargeback true (some "B") (some "A") with paymentMethod := some text }

/-- The authorization of the small world as this item is matched to it. -/
def hintedMatch (text : String) : Match := { specimenMatch .parentReference with family := some (.ofText text) }

/-- The same chargeback fails the payment or is recorded, as the tenant lists the family or does not. -/
theorem chargeback_policy_of_hints :
    PaymentFailed (hintedItem " VISA ") (hintedMatch " VISA ") specimen
        ((item (.single listingTenant) (hintedItem " VISA ")).run .fair specimen).world ∧
      ChargebackRecorded (hintedMatch "mc") "B" specimen
        ((item (.single listingTenant) (hintedItem "mc")).run .fair specimen).world := by
  have owner : (Registry.single listingTenant).forAccount? "M" = some listingTenant :=
    Registry.forAccount?_single (List.mem_singleton_self _)
  have sighted (text : String) (h : sight specimen.journal.attempts specimen.platform (hintedItem text)
      (some (.given 7)) = some (hintedMatch text)) :
      MatchedTo (.single listingTenant) .fair specimen (hintedItem text) (hintedMatch text) := by
    rw [MatchedTo, ending_fair, resolve_fairly, show (hintedItem text).merchantAccount = "M" from rfl, owner]
    exact congrArg (fun x => Ending.finished (Except.ok x)) h
  have failed := chargeback_policy (.single listingTenant) specimen (hintedItem " VISA ") rfl (hintedMatch " VISA ")
    (sighted " VISA " (by decide +kernel)) (by decide +kernel) (.inl rfl) (.ofText " VISA ") (.hinted rfl _ rfl)
  have recorded := chargeback_policy (.single listingTenant) specimen (hintedItem "mc") rfl (hintedMatch "mc")
    (sighted "mc" (by decide +kernel)) (by decide +kernel) (.inl rfl) (.ofText "mc") (.hinted rfl _ rfl)
  have tenant (text : String) :
      tenantFor (.single listingTenant) (hintedItem text) (hintedMatch text) = listingTenant := by
    rw [tenantFor, show (hintedItem text).merchantAccount = "M" from rfl, owner]
    rfl
  rw [tenant, lists_iff_mem] at failed recorded
  exact ⟨failed.1 (by decide +kernel), recorded.2 (by decide +kernel) "B" rfl⟩

end Reconciliation.Notification.Delivery
