import Reconciliation.Proofs.Abreast
import Reconciliation.Proofs.Unread
import Reconciliation.Proofs.Verification

/-!
# Only what is signed has effects

Of an item, eight fields are signed. The others are passed on and recorded, and one of them may stand in for the family
of a payment method that can not be asked for. Where the method is answered, two items with the same signed fields that
both pass verification have the same effect.

* `SignedAlike` says that two items agree on these fields, `Authentic` that an item passes verification and `Answered`
  that the payment method of a match is known.
* `resolve_alike`, `settle_alike`: matching and settling two such items goes the same way, call by call.
* `effect_of_signed_fields` is the statement about two runs.
-/

namespace Reconciliation.Notification

open Procedure

variable {conditions : Conditions} {w v : World}

/-- The items agree on the fields that are signed. -/
structure SignedAlike (i j : Item) : Prop where
  reference : j.reference = i.reference
  parentReference : j.parentReference = i.parentReference
  merchantAccount : j.merchantAccount = i.merchantAccount
  merchantReference : j.merchantReference = i.merchantReference
  units : j.amount.map (·.units) = i.amount.map (·.units)
  currency : j.amount.map (·.currency) = i.amount.map (·.currency)
  eventCode : j.eventCode = i.eventCode
  success : j.success = i.success

theorem SignedAlike.amount {i j : Item} (h : SignedAlike i j) : j.amount = i.amount := by
  have units := h.units
  have currency := h.currency
  cases hi : i.amount with
  | none => simpa [hi] using units
  | some a =>
    cases hj : j.amount with
    | none => simp [hi, hj] at units
    | some b =>
      obtain ⟨n, s⟩ := a
      obtain ⟨n', s'⟩ := b
      simp only [hi, hj, Option.map_some, Option.some.injEq] at units currency
      rw [units, currency]

/-! ### Matching -/

namespace Matching

variable {i j : Item}

theorem find_of_signedAlike (h : SignedAlike i j) (c : Candidates) (tenant : Option Ident) :
    find j c tenant = find i c tenant := by
  simp only [find, ownReference?, transactionId?, h.reference, h.parentReference, h.merchantReference]

/-- The platform answers what the payment method of a match is. -/
def Answered (conditions : Conditions) (w : World) (m : Match) : Prop :=
  ∃ method, (w.answer conditions (.getMethod m.payment.method m.attempt.tenant)).1 = .ok method

/-- A call that only reads, made by both runs. -/
theorem read_abreast {k : Call} (h : k.reads = true) :
    Abreast conditions (World.Still w w) (fun x y => y = x ∧ x = (w.answer conditions k).1) (ask k) (ask k) w w := by
  obtain ⟨-, still⟩ := Call.steady_of_reads h conditions w w ⟨rfl, rfl⟩
  exact abreast_ask rfl ⟨rfl, rfl⟩ ⟨⟨rfl, rfl⟩, still⟩

/-- What is loaded is the same for any two items, unless the payment method is not answered. -/
theorem load_alike (i j : Item) (a : Attempt) (source : Source) :
    Abreast conditions (World.Still w w) (fun x y => y = x ∨ ∃ m, x = some m ∧ ¬ Answered conditions w m)
      (load i a source) (load j a source) w w := by
  unfold load
  refine (read_abreast rfl).bind (fun _ _ => id) ?_
  rintro _ x _ _ ⟨rfl, -⟩ ⟨rfl, rfl⟩
  cases x with
  | error f => exact .done (.inl rfl) ⟨rfl, rfl⟩
  | ok payment =>
    dsimp only
    cases payment.transaction? a.transaction with
    | none => exact .done (.inl rfl) ⟨rfl, rfl⟩
    | some t =>
      refine (read_abreast rfl).bind (fun _ _ => id) ?_
      rintro _ x _ _ ⟨rfl, hx⟩ ⟨rfl, rfl⟩
      refine .done ?_ ⟨rfl, rfl⟩
      -- the family of a method that is answered has nothing to do with the item
      cases x with
      | ok method => exact .inl rfl
      | error f =>
        refine .inr ⟨_, rfl, fun ⟨method, hm⟩ => ?_⟩
        rw [← hx] at hm
        cases hm

/-- Items that agree on what is signed have the same match, unless its payment method is not answered. -/
theorem resolve_alike (h : SignedAlike i j) (tenant : Option Ident) :
    Abreast conditions (World.Still w w)
      (fun x y => y = x ∨ ∃ m, x = .ok (some m) ∧ ¬ Answered conditions w m)
      (resolve i tenant).run (resolve j tenant).run w w := by
  unfold resolve
  dsimp only
  rw [h.eventCode]
  split
  · exact .done (.inl rfl) ⟨rfl, rfl⟩
  · rw [ExceptT.run_bind, ExceptT.run_bind, find_of_signedAlike h]
    have found : Abreast conditions (World.Still w w) Eq (find i (.forEvent i.eventCode) tenant).run
        (find i (.forEvent i.eventCode) tenant).run w w :=
      Behaves.abreast ((find_onlyReads i []).mono (fun _ _ hk => Call.steady_of_reads hk conditions) fun _ _ => id)
        ⟨rfl, rfl⟩
    refine found.bind (fun _ _ => id) ?_
    rintro x _ _ _ rfl ⟨rfl, rfl⟩
    match x with
    | .error f => exact .done (.inl rfl) ⟨rfl, rfl⟩
    | .ok none => exact .done (.inl rfl) ⟨rfl, rfl⟩
    | .ok (some (a, source)) =>
      refine (load_alike i j a source).bind (fun _ _ => id) ?_
      rintro x y _ _ hxy ⟨rfl, rfl⟩
      refine .done ?_ ⟨rfl, rfl⟩
      rcases hxy with rfl | ⟨m, rfl, hm⟩
      · exact .inl rfl
      · exact .inr ⟨m, rfl, hm⟩

end Matching

/-! ### Settling -/

namespace Delivery

open Matching

variable {r : Registry} {i j : Item} {m : Match} {t : Tenant}

theorem exec_ask_bind (obstacle : Failure → Obstacle) (k : Call) (f : k.Answer → Applying Outcome) (w : World) :
    (ask obstacle k >>= f).run.exec conditions w =
      if conditions.aborts k then (none, w)
      else
        match w.answer conditions k with
        | (.ok a, w') => (f a).run.exec conditions w'
        | (.error e, w') => (some (.error (obstacle e)), w') := by
  rw [ExceptT.run_bind, ask_run, bind_eq, bind_assoc, exec_bind, exec_ask]
  by_cases ha : conditions.aborts k = true
  · rw [if_pos ha, if_pos ha]
  · rw [if_neg ha, if_neg ha]
    rcases w.answer conditions k with ⟨x, w'⟩
    cases x <;> rfl

/-- The platform does not keep the additional data of a change. -/
theorem exec_updateTransaction {payment transaction : Ident} {s : Status} {reference : Option String}
    (data data' : Option Json.Value) {f : Unit → Applying Outcome} :
    (ask .refused (.updateTransaction ⟨payment, transaction, s, reference, data'⟩ t.id) >>= f).run.exec conditions w =
      (ask .refused (.updateTransaction ⟨payment, transaction, s, reference, data⟩ t.id) >>= f).run.exec
        conditions w := by
  have aborts : conditions.aborts (.updateTransaction ⟨payment, transaction, s, reference, data'⟩ t.id) =
      conditions.aborts (.updateTransaction ⟨payment, transaction, s, reference, data⟩ t.id) := rfl
  have answer : w.answer conditions (.updateTransaction ⟨payment, transaction, s, reference, data'⟩ t.id) =
      w.answer conditions (.updateTransaction ⟨payment, transaction, s, reference, data⟩ t.id) := rfl
  rw [exec_ask_bind, exec_ask_bind, aborts, answer]
  rcases w.answer conditions (.updateTransaction ⟨payment, transaction, s, reference, data⟩ t.id) with ⟨x, w'⟩
  cases x <;> rfl

/-- Nor does it keep that of a chargeback. -/
theorem exec_createChargeback {payment : Ident} {key : String} {amount : Option Number.Decimal}
    {currency reference : Option String} (data data' : Option Json.Value) {f : Transaction → Applying Outcome} :
    (ask .refused (.createChargeback payment ⟨key, amount, currency, reference, data'⟩ t.id) >>= f).run.exec
        conditions w =
      (ask .refused (.createChargeback payment ⟨key, amount, currency, reference, data⟩ t.id) >>= f).run.exec
        conditions w := by
  have aborts : conditions.aborts (.createChargeback payment ⟨key, amount, currency, reference, data'⟩ t.id) =
      conditions.aborts (.createChargeback payment ⟨key, amount, currency, reference, data⟩ t.id) := rfl
  have answer : w.answer conditions (.createChargeback payment ⟨key, amount, currency, reference, data'⟩ t.id) =
      w.answer conditions (.createChargeback payment ⟨key, amount, currency, reference, data⟩ t.id) := rfl
  rw [exec_ask_bind, exec_ask_bind, aborts, answer]
  rcases w.answer conditions (.createChargeback payment ⟨key, amount, currency, reference, data⟩ t.id) with ⟨x, w'⟩
  cases x <;> rfl

theorem reference_of_signedAlike (h : SignedAlike i j) : reference j = reference i := by
  rw [reference, reference, h.eventCode, h.parentReference, h.reference]

theorem reversed?_of_signedAlike (h : SignedAlike i j) (x : Payment) : reversed? j x = reversed? i x := by
  rw [reversed?, reversed?, h.reference]

/-- Settling a match comes to the same for items that agree on what is signed. -/
theorem settle_alike (h : SignedAlike i j) (m : Match) (t : Tenant) :
    (settle j m t).run.exec conditions w = (settle i m t).run.exec conditions w := by
  by_cases hx : ∃ x, Asks i m t x
  case neg =>
    unfold settle
    rw [h.eventCode, h.success]
    cases hr : Resolution.ofEvent m.transaction.operation m.transaction.status i.eventCode i.success
        (Resolution.failing t m.family) with
    | transition x => exact absurd ⟨x, hr⟩ hx
    | _ => rfl
  obtain ⟨⟨target, s⟩, asks⟩ := hx
  have asks' : Asks j m t ⟨target, s⟩ := by
    rw [Asks, h.eventCode, h.success]
    exact asks
  rw [settle_of_asks asks, settle_of_asks asks']
  cases target with
  | matched =>
    simp only [apply, applyToMatched]
    rw [reference_of_signedAlike h]
    by_cases hs : m.transaction.status = s
    · simp only [hs, not_true_eq_false, if_false]
    · simp only [hs, not_false_eq_true, if_true]
      exact exec_updateTransaction _ _
  | newChargeback =>
    simp only [apply, createChargeback, h.reference]
    cases i.reference with
    | none => rfl
    | some reference =>
      dsimp only
      cases m.payment.transactionByKey? (chargebackKey m.payment.id reference) with
      | some known => rfl
      | none =>
        rw [Item.decimal?, Item.decimal?, Item.currency?, Item.currency?, h.amount]
        exact exec_createChargeback _ _
  | existingChargeback =>
    simp only [apply, reverseChargeback, reversed?_of_signedAlike h]
    cases reversed? i m.payment with
    | none => rfl
    | some chargeback =>
      dsimp only
      split
      · rfl
      · exact exec_updateTransaction _ _

/-! ### Items -/

/-- The item passes verification, by the owner of the merchant account and by the tenant of any match. -/
structure Authentic (r : Registry) (conditions : Conditions) (w : World) (i : Item) : Prop where
  owner : (r.forAccount? i.merchantAccount).all (verified i) = true
  tenant : ∀ m, MatchedTo r conditions w i m → verified i (tenantFor r i m) = true

/-- Whatever is recorded, the outcome is taken over. -/
theorem conclude_alike (e e' : AuditEntry) (o : Outcome) (same : w.Same v) :
    Abreast conditions World.Same Eq (conclude e o) (conclude e' o) w v := by
  have kept (e : AuditEntry) (w : World) : w.Same (w.answer conditions (.recordAudit e)).2 := .of_answer rfl _ w
  rw [conclude_eq, conclude_eq]
  refine Abreast.bind (S := World.Same) (R := fun _ _ => True) (p := Procedure.ask (.recordAudit e))
    (q := Procedure.ask (.recordAudit e')) ?_ (fun _ _ => id) fun _ _ w v _ same => .done rfl same
  exact abreast_ask rfl same ⟨trivial, ((kept e w).symm.trans same).trans (kept e' v)⟩

theorem finish_alike (e e' : AuditEntry) (m : Match) (x : Except Obstacle Outcome) (same : w.Same v) :
    Abreast conditions World.Same Eq (finish e m x) (finish e' m x) w v := by
  match x with
  | .ok o => exact conclude_alike _ _ _ same
  | .error (.refused f) => exact conclude_alike _ _ _ same
  | .error (.unrecorded f) => exact conclude_alike _ _ _ same

theorem item_alike (h : SignedAlike i j) (hi : Authentic r conditions w i) (hj : Authentic r conditions w j)
    (methods : ∀ m, MatchedTo r conditions w i m → Answered conditions w m) :
    Abreast conditions World.Same Eq (item r i) (item r j) w w := by
  unfold item
  dsimp only
  rw [if_pos hi.owner, if_pos hj.owner, h.merchantAccount]
  refine (resolve_alike h _).ended.bind (fun _ _ ⟨hw, hv⟩ => hw ▸ hv ▸ .refl w) ?_
  rintro x y _ _ ⟨hxy, hx, hy⟩ ⟨rfl, rfl⟩
  -- the payment method of a match is answered
  obtain rfl : y = x := by
    rcases hxy with rfl | ⟨m, rfl, hm⟩
    · rfl
    · exact absurd (methods m hx) hm
  match y with
  | .error f => exact conclude_alike _ _ _ (.refl _)
  | .ok none => exact conclude_alike _ _ _ (.refl _)
  | .ok (some m) =>
    have other : verified j (tenantFor r j m) = true := hj.tenant m (by rwa [MatchedTo, h.merchantAccount])
    have tenant : tenantFor r j m = tenantFor r i m := by rw [tenantFor, tenantFor, h.merchantAccount]
    dsimp only
    rw [← tenantFor, if_pos (hi.tenant m hx), if_pos (tenant ▸ other)]
    refine (abreast_of_exec (settle_alike h m _)).bind ?_ ?_
    · rintro w _ rfl
      exact .refl w
    · rintro x _ w _ rfl rfl
      exact finish_alike _ _ m x (.refl w)

/-- Of two items that agree on what is signed and pass verification, either may be delivered, whatever calls fail or
abort, if the payment method of their match is answered: the result is the same, and so are the attempts and the
platform afterwards. -/
theorem effect_of_signed_fields (r : Registry) (w : World) (conditions : Conditions) (i j : Item)
    (h : SignedAlike i j) (hi : Authentic r conditions w i) (hj : Authentic r conditions w j)
    (methods : ∀ m, MatchedTo r conditions w i m → Answered conditions w m) :
    ((item r j).run conditions w).ending.result? = ((item r i).run conditions w).ending.result? ∧
      ((item r i).run conditions w).world.Same ((item r j).run conditions w).world :=
  have abreast : Abreast conditions World.Same Eq (item r i) (item r j) w w := item_alike h hi hj methods
  ⟨abreast.result?_eq, abreast.world⟩

/-- The small world with a payment method. -/
def specimenWithMethod : World :=
  { specimen with platform := { specimen.platform with methods := [⟨.given 6, .ofText "visa", none, false⟩] } }

/-- The tenant with a key, which lists another family. -/
def listingKeyedTenant : Tenant := { keyedTenant with failingFamilies := [.ofText "mc"] }

/-- A chargeback with its signature. -/
def signedChargeback : Item :=
  { specimenItem .chargeback true (some "B") none with
    additionalData := some [(Item.signatureKey, .string "bD0aWu2Ov5+AI85sznFZR1SdhMImXGFA4AIuZI1423U=")] }

/-- The same with other data that are not signed; it claims to be of the listed family. -/
def alteredChargeback : Item :=
  { signedChargeback with
    reason := some "altered"
    paymentMethod := some "mc"
    eventDate := some "2020-01-01"
    additionalData := signedChargeback.additionalData.map (("altered", .null) :: ·) }

/-- The altered item records a chargeback as the signed one does. -/
theorem effect_of_signed_fields_of_altered :
    SignedAlike signedChargeback alteredChargeback ∧
      let run := (item (.single listingKeyedTenant) signedChargeback).run .fair specimenWithMethod
      let altered := (item (.single listingKeyedTenant) alteredChargeback).run .fair specimenWithMethod
      altered.ending.result? = some (.applied (.drawn 1) .success) ∧ run.world.Same altered.world := by
  have alike : SignedAlike signedChargeback alteredChargeback := ⟨rfl, rfl, rfl, rfl, rfl, rfl, rfl, rfl⟩
  have owner : (Registry.single listingKeyedTenant).forAccount? "M" = some listingKeyedTenant :=
    Registry.forAccount?_single (List.mem_singleton_self _)
  have authentic (i : Item) (account : i.merchantAccount = "M") (h : verified i listingKeyedTenant = true) :
      Authentic (.single listingKeyedTenant) .fair specimenWithMethod i := by
    refine ⟨?_, fun m _ => ?_⟩
    · rw [account, owner]
      exact h
    · rw [tenantFor, account, owner]
      exact h
  have effect := effect_of_signed_fields (.single listingKeyedTenant) specimenWithMethod .fair signedChargeback
    alteredChargeback alike (authentic _ rfl (by decide +kernel)) (authentic _ rfl (by decide +kernel)) ?_
  · refine ⟨alike, ?_, effect.2⟩
    rw [effect.1, ending_fair]
    decide +kernel
  · intro m matched
    have payment : ∀ x ∈ specimenWithMethod.platform.payments, x.method = .given 6 := by decide
    rw [Answered, payment _ (found_of_matchedTo matched).payment_mem]
    exact ⟨_, rfl⟩

end Delivery
end Reconciliation.Notification
