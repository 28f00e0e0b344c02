import Reconciliation.Proofs.Abreast
import Reconciliation.Proofs.Exits
import Reconciliation.Proofs.Registries

/-!
# Tenants do not affect each other

An item for the merchant account of a tenant is matched to attempts of this tenant only. It changes nothing that belongs
to others, and what others have makes no difference to it: their attempts are left out before the best candidate is
chosen, and cannot hide one that is looked up by its transaction, as long as tenants do not share transactions.

* `World.attemptsOf` are the attempts of one tenant, `World.Apart` says that no transaction has attempts of two.
* `Call.Within` says that a call is answered from what one tenant sees, which `Call.within_steady` makes precise.
* `resolve_abreast`, `item_abreast`: an item has the same run in worlds that are the same for its tenant.
* `tenant_isolation` is the statement about a run, or two.
-/

namespace Reconciliation

variable {t : Ident} {w v w' v' : World}

namespace World

/-- The attempts of one tenant, in order. -/
def attemptsOf (w : World) (t : Ident) : List Attempt := w.journal.attempts.filter (·.tenant == t)

/-- No transaction has attempts of two tenants. -/
def Apart (w : World) : Prop :=
  ∀ a ∈ w.journal.attempts, ∀ b ∈ w.journal.attempts, a.transaction = b.transaction → a.tenant = b.tenant

/-- The worlds are the same for one tenant, and the same was added to the audits that `w` and `v` had. -/
structure Beside (t : Ident) (w v w' v' : World) : Prop where
  attempts : v'.attemptsOf t = w'.attemptsOf t
  platform : v'.platform = w'.platform
  audit : ∃ entries, w'.journal.audit = w.journal.audit ++ entries ∧ v'.journal.audit = v.journal.audit ++ entries

theorem Beside.refl (attempts : v.attemptsOf t = w.attemptsOf t) (platform : v.platform = w.platform) :
    Beside t w v w v :=
  ⟨attempts, platform, [], (List.append_nil _).symm, (List.append_nil _).symm⟩

end World

/-! ### Calls within a tenant -/

/-- The call looks up no attempt and changes none but those of one tenant. -/
def Call.Within (t : Ident) : Call → Prop
  | .findByReference _ | .findByTransaction _ | .recordAttempt _ => False
  | .updateAttempt key _ _ => key.tenant = t
  | _ => True

namespace Journal

variable {j : Journal} {key : Key} {reference : Option String} {status : Status}

theorem tenant_of_key (h : key.tenant = t) (a : Attempt) (ha : (Key.of a == key) = true) : (a.tenant == t) = true := by
  have hkey : Key.of a = key := by simpa using ha
  have : a.tenant = key.tenant := by rw [← hkey]; rfl
  simp [this, h]

/-- Whether an attempt of a tenant is changed depends on the attempts of this tenant. -/
theorem updateStatus_fst_of_filter {j' : Journal} (h : key.tenant = t)
    (attempts : j'.attempts.filter (·.tenant == t) = j.attempts.filter (·.tenant == t)) :
    (j'.updateStatus key reference status).1 = (j.updateStatus key reference status).1 := by
  have found : j'.attempts.find? (Key.of · == key) = j.attempts.find? (Key.of · == key) := by
    rw [← find?_filter_of_imp (tenant_of_key h) j'.attempts, attempts, find?_filter_of_imp (tenant_of_key h)]
  unfold updateStatus
  rw [found]
  cases j.attempts.find? (Key.of · == key) with
  | none => rfl
  | some a =>
    dsimp only
    split <;> rfl

theorem updateStatus_filter (h : key.tenant = t) :
    (j.updateStatus key reference status).2.attempts.filter (·.tenant == t) =
      changeFirst (Key.of · == key) (moved reference status) (j.attempts.filter (·.tenant == t)) := by
  rw [updateStatus_attempts, filter_changeFirst (f := moved reference status) (tenant_of_key h) fun _ => rfl]

end Journal

theorem Call.within_steady {k : Call} (h : k.Within t) (c : Conditions) : k.Steady c (World.Beside t w v) := by
  refine Call.steady_of_perform fun w' v' beside => ?_
  obtain ⟨attempts, platform, entries, hw, hv⟩ := beside
  cases k with
  | findByReference | findByTransaction | recordAttempt => cases h
  | updateAttempt key reference status =>
    refine ⟨?_, ?_, platform, entries, ?_, ?_⟩
    · exact congrArg Except.ok (Journal.updateStatus_fst_of_filter h attempts)
    · change List.filter _ (v'.journal.updateStatus key reference status).2.attempts =
        List.filter _ (w'.journal.updateStatus key reference status).2.attempts
      rw [Journal.updateStatus_filter h, Journal.updateStatus_filter h]
      exact congrArg _ attempts
    · exact (Journal.updateStatus_audit ..).trans hw
    · exact (Journal.updateStatus_audit ..).trans hv
  | recordAudit e =>
    refine ⟨rfl, attempts, platform, entries ++ [e], ?_, ?_⟩
    · rw [← List.append_assoc, ← hw]
      rfl
    · rw [← List.append_assoc, ← hv]
      rfl
  | getPayment payment tenant => exact ⟨congrArg (·.payment? payment) platform, attempts, platform, entries, hw, hv⟩
  | getMethod method tenant => exact ⟨congrArg (·.method? method) platform, attempts, platform, entries, hw, hv⟩
  | updateTransaction change tenant =>
    exact ⟨congrArg (fun p => (p.updateTransaction change).1) platform, attempts,
      congrArg (fun p => (p.updateTransaction change).2) platform, entries, hw, hv⟩
  | createChargeback payment chargeback tenant =>
    exact ⟨congrArg (fun p => (p.createChargeback payment chargeback).1) platform, attempts,
      congrArg (fun p => (p.createChargeback payment chargeback).2) platform, entries, hw, hv⟩
  | gateway => exact ⟨rfl, attempts, platform, entries, hw, hv⟩

namespace Procedure

/-- All calls of the procedure are within one tenant. -/
def StaysWithin {α : Type} (t : Ident) (p : Procedure α) : Prop :=
  ∀ trace, p.Behaves (fun _ k => k.Within t) (fun _ _ => True) trace

theorem StaysWithin.abreast {α : Type} {c : Conditions} {p : Procedure α} (h : p.StaysWithin t)
    (beside : World.Beside t w v w' v') : Abreast c (World.Beside t w v) Eq p p w' v' :=
  Behaves.abreast ((h []).mono (fun _ _ hk => Call.within_steady hk c) fun _ _ => id) beside

end Procedure

namespace Notification

open Procedure

/-! ### Candidates of a tenant -/

namespace Candidates

variable (c : Candidates)

/-- The best attempt of a tenant depends on the attempts of this tenant. -/
theorem select_filter (t : Ident) (attempts : List Attempt) :
    c.select (some t) (attempts.filter (·.tenant == t)) = c.select (some t) attempts := by
  rw [select, select, List.filterMap_filter]
  congr 3
  funext a
  unfold ranked?
  by_cases h : a.tenant = t <;> simp [h]

/-- Where no transaction has attempts of two tenants, those of others do not hide an attempt. -/
theorem select_find?_filter (apart : w.Apart) (transaction : Ident) :
    c.select (some t) (w.journal.attempts.find? (·.transaction == transaction)).toList =
      c.select (some t) ((w.attemptsOf t).find? (·.transaction == transaction)).toList := by
  cases hf : w.journal.attempts.find? (·.transaction == transaction) with
  | none =>
    have none : (w.attemptsOf t).find? (·.transaction == transaction) = none := by
      rw [List.find?_eq_none] at hf ⊢
      exact fun a ha => hf a (List.mem_of_mem_filter ha)
    rw [none]
  | some a =>
    have ha := List.mem_of_find?_eq_some hf
    have hat : a.transaction = transaction := by simpa using List.find?_some hf
    by_cases owned : a.tenant = t
    · -- the first of all attempts for the transaction is the first of those of the tenant
      obtain ⟨-, before, after, hl, hn⟩ := List.find?_eq_some_iff_append.1 hf
      have same : (w.attemptsOf t).find? (·.transaction == transaction) = some a := by
        refine List.find?_eq_some_iff_append.2 ⟨by simp [hat], before.filter (·.tenant == t),
          after.filter (·.tenant == t), ?_, fun b hb => hn b (List.mem_of_mem_filter hb)⟩
        simp [World.attemptsOf, hl, owned]
      rw [same]
    · have none : (w.attemptsOf t).find? (·.transaction == transaction) = none := by
        rw [List.find?_eq_none]
        intro b hb hbt
        obtain ⟨hb, howned⟩ := List.mem_filter.1 hb
        have hbt : b.transaction = transaction := by simpa using hbt
        have : b.tenant = t := by simpa using howned
        exact owned ((apart a ha b hb (hat.trans hbt.symm)).trans this)
      rw [none]
      cases hs : c.select (some t) (some a).toList with
      | none => rfl
      | some b =>
        obtain ⟨hb, hbt, -⟩ := c.mem_of_select (some t) hs
        obtain rfl : b = a := by simpa using hb
        exact absurd (by simpa using hbt) owned

end Candidates

/-! ### Matching -/

namespace Matching

variable {conditions : Conditions} {c : Candidates}

/-- A search by a single call. -/
theorem search_abreast {k : Call} {x y : k.Answer} {f : k.Answer → Option (Attempt × Source)}
    (hw : w.perform conditions.gateway k = (.ok x, w)) (hv : v.perform conditions.gateway k = (.ok y, v))
    (hf : f x = f y) :
    Abreast conditions (World.Still w v) Eq (Attempted.ask k >>= fun a => pure (f a)).run
      (Attempted.ask k >>= fun a => pure (f a)).run w v := by
  rw [ExceptT.run_bind]
  refine Abreast.bind (S := World.Still w v) (R := fun a b => a.map f = b.map f)
    (abreast_ask rfl ⟨rfl, rfl⟩ ?_) (fun _ _ => id) ?_
  · unfold World.answer
    split
    · exact ⟨rfl, rfl, rfl⟩
    · rw [hw, hv]
      exact ⟨congrArg Except.ok hf, rfl, rfl⟩
  · rintro a b w v hab still
    cases a <;> cases b <;> simp [Except.map] at hab <;> exact .done (congrArg _ hab) still

theorem orElse_abreast {α : Type} {p q : Attempted (Option α)}
    (hp : Abreast conditions (World.Still w v) Eq p.run p.run w v)
    (hq : Abreast conditions (World.Still w v) Eq q.run q.run w v) :
    Abreast conditions (World.Still w v) Eq (orElse p q).run (orElse p q).run w v := by
  unfold orElse
  rw [ExceptT.run_bind]
  refine hp.bind (fun _ _ => id) ?_
  rintro x _ w v rfl ⟨rfl, rfl⟩
  match x with
  | .ok (some a) => exact .done rfl ⟨rfl, rfl⟩
  | .ok none => exact hq
  | .error f => exact .done rfl ⟨rfl, rfl⟩

theorem byReference_abreast (attempts : v.attemptsOf t = w.attemptsOf t) (source : Source)
    (reference : Option String) :
    Abreast conditions (World.Still w v) Eq (byReference c (some t) source reference).run
      (byReference c (some t) source reference).run w v := by
  cases reference with
  | none => exact .done rfl ⟨rfl, rfl⟩
  | some reference =>
    refine search_abreast rfl rfl (congrArg (Option.map (·, source)) ?_)
    -- whether an attempt is of the tenant may be asked before its reference
    have chosen (w : World) : c.select (some t) (w.journal.withReference reference) =
        c.select (some t) ((w.attemptsOf t).filter (·.reference == some reference)) := by
      rw [Journal.withReference, c.select_mergeSort, ← c.select_filter, List.filter_filter, World.attemptsOf,
        List.filter_filter]
      simp only [Bool.and_comm]
    rw [chosen, chosen, attempts]

theorem byTransaction_abreast (attempts : v.attemptsOf t = w.attemptsOf t) (hw : w.Apart) (hv : v.Apart)
    (transaction : Option Ident) :
    Abreast conditions (World.Still w v) Eq (byTransaction c (some t) transaction).run
      (byTransaction c (some t) transaction).run w v := by
  cases transaction with
  | none => exact .done rfl ⟨rfl, rfl⟩
  | some transaction =>
    refine search_abreast rfl rfl (congrArg (Option.map (·, Source.merchantReference)) ?_)
    rw [Journal.withTransaction?, Journal.withTransaction?, c.select_find?_filter hw, c.select_find?_filter hv,
      attempts]

theorem find_abreast (attempts : v.attemptsOf t = w.attemptsOf t) (hw : w.Apart) (hv : v.Apart) (i : Item) :
    Abreast conditions (World.Still w v) Eq (find i c (some t)).run (find i c (some t)).run w v :=
  orElse_abreast (byReference_abreast attempts _ _)
    (orElse_abreast (byReference_abreast attempts _ _) (byTransaction_abreast attempts hw hv _))

theorem load_staysWithin (i : Item) (a : Attempt) (source : Source) : (load i a source).StaysWithin t := by
  intro trace
  unfold load
  rw [bind_eq, behaves_bind, behaves_ask]
  refine ⟨trivial, fun x => ?_⟩
  cases x with
  | error f => trivial
  | ok payment =>
    dsimp only
    cases payment.transaction? a.transaction with
    | none => trivial
    | some transaction => exact ⟨trivial, fun _ => trivial⟩

/-- What an item of a tenant is matched to depends on what this tenant sees. -/
theorem resolve_abreast (beside : World.Beside t w v w v) (hw : w.Apart) (hv : v.Apart) (i : Item) :
    Abreast conditions (World.Beside t w v) Eq (resolve i (some t)).run (resolve i (some t)).run w v := by
  have still : ∀ w' v', World.Still w v w' v' → World.Beside t w v w' v' := by
    rintro _ _ ⟨rfl, rfl⟩
    exact beside
  unfold resolve
  dsimp only
  split
  · exact .done rfl beside
  · rw [ExceptT.run_bind]
    refine (find_abreast beside.attempts hw hv i).bind still ?_
    rintro x _ w' v' rfl hs
    match x with
    | .error f => exact .done rfl (still _ _ hs)
    | .ok none => exact .done rfl (still _ _ hs)
    | .ok (some (a, source)) =>
      refine ((load_staysWithin i a source).abreast (still _ _ hs)).bind (fun _ _ => id) ?_
      rintro m _ w' v' rfl beside
      exact .done rfl beside

end Matching

/-! ### Items -/

namespace Delivery

open Matching Platform

variable {r : Registry} {conditions : Conditions} {i : Item} {m : Match} {owner : Tenant}

theorem Write.within {k : Call} (h : Write i m owner k) (owned : m.attempt.tenant = t) : k.Within t := by
  cases h with
  | attempt => exact owned
  | matched | created | reversed => trivial

theorem settle_staysWithin (owned : m.attempt.tenant = t) : (settle i m owner).run.StaysWithin t :=
  fun _ => (settle_behaves i m owner).mono (fun _ _ h => h.within owned) fun _ _ => id

theorem conclude_staysWithin (e : AuditEntry) (o : Outcome) : (conclude e o).StaysWithin t :=
  fun _ => ⟨trivial, fun _ => trivial⟩

theorem finish_staysWithin (e : AuditEntry) (m : Match) (x : Except Obstacle Outcome) :
    (finish e m x).StaysWithin t := by
  match x with
  | .ok o => exact conclude_staysWithin _ _
  | .error (.refused f) => exact conclude_staysWithin _ _
  | .error (.unrecorded f) => exact conclude_staysWithin _ _

/-- An item for the merchant account of a tenant has the same run in worlds that are the same for this tenant. -/
theorem item_abreast (ho : r.forAccount? i.merchantAccount = some owner) (hw : w.Apart) (hv : v.Apart)
    (beside : World.Beside owner.id w v w v) :
    Abreast conditions (World.Beside owner.id w v) Eq (item r i) (item r i) w v := by
  unfold item
  simp only [ho, Option.map_some]
  split
  case isFalse => exact (conclude_staysWithin _ _).abreast beside
  case isTrue =>
  refine (resolve_abreast beside hw hv i).ended.bind (fun _ _ => id) ?_
  rintro x _ w' v' ⟨rfl, matched, -⟩ beside
  match x with
  | .error f => exact (conclude_staysWithin _ _).abreast beside
  | .ok none => exact (conclude_staysWithin _ _).abreast beside
  | .ok (some m) =>
    have owned : m.attempt.tenant = owner.id := by
      have reads : Reads conditions w (resolve i (some owner.id)).run _ := resolve_reads i _
      simpa using (found_of_glimpsed (reads.result matched m rfl)).owned
    dsimp only
    split
    case isFalse => exact (conclude_staysWithin _ _).abreast beside
    case isTrue =>
    refine ((settle_staysWithin owned).abreast beside).bind (fun _ _ => id) ?_
    rintro y _ w' v' rfl beside
    exact (finish_staysWithin _ _ _).abreast beside

/-! ### What belongs to others -/

/-- The payments are the same but for those with this identifier. -/
def PaymentsBut (payment : Ident) : List Payment → List Payment → Prop :=
  List.Forall₂ fun x x' => x'.id = x.id ∧ (x.id ≠ payment → x' = x)

theorem paymentsBut_refl (payment : Ident) (payments : List Payment) : PaymentsBut payment payments payments :=
  List.forall₂_same.2 fun _ _ => ⟨rfl, fun _ => rfl⟩

theorem paymentsBut_change {f : Payment → Payment} (hf : ∀ x, (f x).id = x.id) (payment : Ident)
    (payments : List Payment) : PaymentsBut payment payments (change Payment.id payment f payments) := by
  rw [change_eq]
  refine forall₂_changeFirst (fun _ => ⟨rfl, fun _ => rfl⟩) (fun x hx => ⟨hf x, fun hne => ?_⟩) payments
  exact absurd (by simpa using hx) hne

theorem paymentsBut_updateTransaction (p : Platform) (c : StatusChange) :
    PaymentsBut c.payment p.payments (p.updateTransaction c).2.payments := by
  unfold updateTransaction
  dsimp only
  split
  · exact paymentsBut_refl _ _
  · exact paymentsBut_change (f := edited c) (fun _ => rfl) _ _

theorem paymentsBut_createChargeback (p : Platform) (payment : Ident) (c : NewChargeback) :
    PaymentsBut payment p.payments (p.createChargeback payment c).2.payments := by
  unfold Platform.createChargeback
  split
  · exact paymentsBut_refl _ _
  · split
    · exact paymentsBut_refl _ _
    · exact paymentsBut_change (f := extended (p.chargebackTransaction c)) (fun _ => rfl) _ _

/-- The attempts of other tenants and the payments that no attempt of the tenant refers to are as they were. -/
structure Spared (t : Ident) (w v : World) : Prop where
  attempts : List.Forall₂ (fun a a' => a'.tenant = a.tenant ∧ (a.tenant ≠ t → a' = a)) w.journal.attempts
    v.journal.attempts
  payments : List.Forall₂ (fun x x' => x'.id = x.id ∧
      ((∀ a ∈ w.journal.attempts, a.tenant = t → a.payment ≠ x.id) → x' = x)) w.platform.payments v.platform.payments

/-- Only the payment of a match of the tenant may be changed, and its attempt be moved. -/
theorem spared_of_match (found : Found w i (some t) m)
    (attempts : v.journal.attempts = w.journal.attempts ∨ ∃ s, v.journal.attempts = movedAttempts i m s w)
    (payments : PaymentsBut m.payment.id w.platform.payments v.platform.payments) : Spared t w v where
  attempts := by
    have owned : m.attempt.tenant = t := by simpa using found.owned
    rcases attempts with h | ⟨s, h⟩ <;> rw [h]
    · exact List.forall₂_same.2 fun _ _ => ⟨rfl, fun _ => rfl⟩
    · refine forall₂_changeFirst (fun _ => ⟨rfl, fun _ => rfl⟩) (fun a ha => ⟨rfl, fun hne => ?_⟩) _
      have hkey : Journal.Key.of a = .of m.attempt := by simpa using ha
      exact absurd ((congrArg Journal.Key.tenant hkey).trans owned) hne
  payments := by
    have owned : m.attempt.tenant = t := by simpa using found.owned
    refine payments.imp fun x x' h => ⟨h.1, fun unreferred => h.2 fun hid => ?_⟩
    exact unreferred m.attempt found.recorded owned (found.payment_id.symm.trans hid.symm)

theorem spared_of_item (ho : r.forAccount? i.merchantAccount = some owner) (conditions : Conditions) (w : World) :
    Spared owner.id w ((item r i).run conditions w).world := by
  have effect := item_effect r i conditions w
  rw [exec] at effect
  rcases effect with quiet | ⟨m, accepted, effect⟩
  · refine ⟨?_, ?_⟩
    · rw [quiet.attempts]
      exact List.forall₂_same.2 fun _ _ => ⟨rfl, fun _ => rfl⟩
    · rw [quiet.platform]
      exact List.forall₂_same.2 fun _ _ => ⟨rfl, fun _ => rfl⟩
  · have found : Found w i (some owner.id) m := by
      have found := accepted.toFound
      rwa [ho] at found
    cases effect with
    | kept s asks status platform attempts =>
      exact spared_of_match found (.inr ⟨s, attempts⟩) (platform ▸ paymentsBut_refl _ _)
    | moved s asks status platform attempts =>
      exact spared_of_match found (attempts.imp id fun h => ⟨s, h⟩)
        (platform ▸ paymentsBut_updateTransaction _ (matchedChange i m s))
    | created x asks target reference carried fresh platform attempts =>
      exact spared_of_match found (.inl attempts) (platform ▸ paymentsBut_createChargeback _ _ _)
    | reversed s asks chargeback picked status platform attempts =>
      exact spared_of_match found (.inl attempts)
        (platform ▸ paymentsBut_updateTransaction _ (reversal i m chargeback s))

/-! ### Isolation -/

/-- Whatever calls fail or abort, an item for the merchant account of a tenant changes no attempt of another tenant and
no payment that no attempt of the tenant refers to. Where no transaction has attempts of two tenants, the attempts of
others make no difference to it either: its result is the same, and so is what it makes of the attempts of the tenant,
of the platform and of the audit. -/
theorem tenant_isolation (r : Registry) (i : Item) (t : Tenant) (owner : r.forAccount? i.merchantAccount = some t)
    (conditions : Conditions) (w : World) (hw : w.Apart) :
    let run := (item r i).run conditions w
    Spared t.id w run.world ∧
      ∀ v : World, v.Apart → v.attemptsOf t.id = w.attemptsOf t.id → v.platform = w.platform →
        let run' := (item r i).run conditions v
        run'.ending.result? = run.ending.result? ∧ World.Beside t.id w v run.world run'.world := by
  refine ⟨spared_of_item owner conditions w, fun v hv attempts platform => ?_⟩
  have abreast : Abreast conditions _ Eq (item r i) (item r i) w v := item_abreast owner hw hv (.refl attempts platform)
  exact ⟨abreast.result?_eq, abreast.world⟩

/-- The owner of the merchant account of the small world. -/
def smallOwner : Tenant := ⟨.given 7, ["M"], none, .hmacSha256, []⟩

/-- The small world with a later attempt of another tenant under the same reference. -/
def crowded : World := specimen.withAttempts (specimen.journal.attempts ++
  [⟨.given 12, .given 2, .given 9, .given 8, .authorize, none, none, some "A", .pending, none, .live 3, .given 9⟩])

/-- An item that finds the authorization of the small world by its reference. -/
def referringItem : Item := specimenItem .authorisation true (some "A") none

/-- It is found as if the other attempt were not there, which is left alone. -/
theorem tenant_isolation_of_authorization :
    (Registry.single smallOwner).forAccount? "M" = some smallOwner ∧ specimen.Apart ∧ crowded.Apart ∧
      crowded.attemptsOf (.given 7) = specimen.attemptsOf (.given 7) ∧ crowded.platform = specimen.platform ∧
      let run := (item (.single smallOwner) referringItem).run .fair crowded
      run.ending.result? = some (.applied (.given 4) .success) ∧ Spared (.given 7) crowded run.world := by
  have owner : (Registry.single smallOwner).forAccount? "M" = some smallOwner :=
    Registry.forAccount?_single (List.mem_singleton_self _)
  have alone : specimen.Apart := by unfold World.Apart; decide
  have apart : crowded.Apart := by unfold World.Apart; decide
  have attempts : crowded.attemptsOf (.given 7) = specimen.attemptsOf (.given 7) := by decide
  have same := (tenant_isolation (.single smallOwner) referringItem smallOwner owner .fair specimen alone).2 crowded
    apart attempts rfl
  have spared := (tenant_isolation (.single smallOwner) referringItem smallOwner owner .fair crowded apart).1
  refine ⟨owner, alone, apart, attempts, rfl, ?_, spared⟩
  -- without the other attempt, the item moves the authorization
  have matched : accepted (.single smallOwner) referringItem specimen.journal.attempts specimen.platform =
      .ok (specimenMatch .ownReference) := rfl
  have asks : Asks referringItem (specimenMatch .ownReference) smallOwner ⟨.matched, .success⟩ := rfl
  obtain ⟨e, he⟩ := item_of_ok matched
    (settle_moved (found_of_sight (accepted_eq_ok.1 matched).2.1) asks (by decide))
  rw [same.1, ending_fair, he]
  rfl

end Delivery
end Notification
end Reconciliation
