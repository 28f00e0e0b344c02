import Reconciliation.Proofs.Calls
import Reconciliation.Proofs.Registries
import Reconciliation.Proofs.Unfailing

/-!
# No effect without a valid signature

The signature of an item is checked before matching with the key of the owner of the merchant account, and after it,
where no tenant owns that account, with the key of the tenant of the attempt. In both cases it is the key of the tenant
whose attempt and payment are changed.

* `OnlyEnters` says that a run adds an audit entry and does nothing else.
* `Vouched` says that an item needs no signature or has a valid one, `RejectedAtOnce` that nothing was looked up for it.
* `effect_requires_signature` is the statement about an item.
-/

namespace Reconciliation.Notification

/-- The tenant has no key but a blank one, or the signature of the item verifies under its key. -/
def Vouched (t : Tenant) (i : Item) : Prop :=
  (∀ secret, t.secret = some secret → Text.allBlank secret = true) ∨
    ∃ secret signature, t.secret = some secret ∧ i.signature? = some signature ∧
      Signature.verify secret i.signingPayload signature = true

namespace Delivery

open Procedure Matching

theorem vouched_of_verified {i : Item} {t : Tenant} (h : verified i t = true) : Vouched t i := by
  unfold verified at h
  split at h
  · next hk =>
    left
    intro secret hs
    simpa [Tenant.signatureKey?, hs] using hk
  · next secret hk =>
    obtain ⟨signature, hs, hv⟩ := (Option.any_eq_true _ _).1 h
    exact .inr ⟨secret, signature, (Option.filter_eq_some_iff.1 hk).1, hs, hv⟩

variable {r : Registry} {conditions : Conditions} {w : World} {i : Item} {m : Match} {t : Tenant}

/-- The only call of the run is the one for an audit entry. Unless this call fails or aborts, the entry is added; unless it
aborts, the run ends with the outcome. -/
structure OnlyEnters (conditions : Conditions) (w : World) (e : AuditEntry) (o : Outcome) (run : Run Outcome) :
    Prop where
  calls : run.trace.map (·.call) = [.recordAudit e]
  ending : run.ending = if conditions.aborts (.recordAudit e) then .aborted (.recordAudit e) else .finished o
  world : run.world =
    if conditions.aborts (.recordAudit e) || conditions.fails (.recordAudit e) then w else w.noted e

theorem conclude_onlyEnters (conditions : Conditions) (w : World) (e : AuditEntry) (o : Outcome) :
    OnlyEnters conditions w e o ((conclude e o).run conditions w) := by
  rw [conclude_eq, run]
  by_cases ha : conditions.aborts (.recordAudit e) = true
  · rw [if_pos ha]
    exact ⟨rfl, by rw [if_pos ha], by rw [ha]; rfl⟩
  · rw [if_neg ha]
    refine ⟨rfl, by rw [if_neg ha]; rfl, ?_⟩
    by_cases hf : conditions.fails (.recordAudit e) = true <;>
      simp [ha, World.answer, hf, World.perform, World.noted]

/-- A run with no call but the one for an audit entry, which ends with a rejection and changes nothing else. -/
structure RejectedAtOnce (conditions : Conditions) (w : World) (e : AuditEntry) (run : Run Outcome) : Prop where
  calls : run.trace.map (·.call) = [.recordAudit e]
  ending : conditions.aborts (.recordAudit e) = false → run.ending = .finished .rejected
  recorded : conditions.aborts (.recordAudit e) = false → conditions.fails (.recordAudit e) = false →
    run.world = w.noted e
  unrecorded : conditions.aborts (.recordAudit e) = true ∨ conditions.fails (.recordAudit e) = true → run.world = w

theorem conclude_rejectedAtOnce (conditions : Conditions) (w : World) (e : AuditEntry) :
    RejectedAtOnce conditions w e ((conclude e .rejected).run conditions w) := by
  obtain ⟨calls, ending, world⟩ := conclude_onlyEnters conditions w e .rejected
  refine ⟨calls, fun ha => ?_, fun ha hf => ?_, fun h => ?_⟩
  · rw [ending, ha, if_neg Bool.false_ne_true]
  · rw [world, ha, hf, Bool.or_false, if_neg Bool.false_ne_true]
  · rw [world, if_pos (by simpa using h)]

theorem conclude_idle (e : AuditEntry) (o : Outcome) (w : World) : Idle conditions w (conclude e o) :=
  have behaves : (conclude e o).Behaves (fun _ k => k.writes = false) (fun _ _ => True) [] := ⟨rfl, fun _ => trivial⟩
  behaves.idle w

/-- The tenant whose attempt is matched is the one whose key was used, if it is configured. -/
theorem tenantFor_eq (owned : ((r.forAccount? i.merchantAccount).map (·.id)).all (m.attempt.tenant == ·) = true)
    (ht : r.forTenant? m.attempt.tenant = some t) : tenantFor r i m = t := by
  unfold tenantFor tenantOf
  cases ho : r.forAccount? i.merchantAccount with
  | none => rw [Option.getD_none, ht, Option.getD_some]
  | some owner =>
    -- only attempts of the owner are matched
    have hid : m.attempt.tenant = owner.id := by simpa [ho] using owned
    have howner := Registry.forTenant?_of_forAccount? ho
    rw [← hid, ht] at howner
    cases howner
    rfl

/-- An item changes nothing unless it is matched and verified. -/
theorem item_idle_or_verified (r : Registry) (conditions : Conditions) (w : World) (i : Item) :
    Idle conditions w (item r i) ∨
      ∃ m, MatchedTo r conditions w i m ∧ Found w i ((r.forAccount? i.merchantAccount).map (·.id)) m ∧
        verified i (tenantFor r i m) = true := by
  unfold item
  dsimp only
  split
  case isFalse => exact .inl (conclude_idle _ _ w)
  case isTrue =>
  have idle : Idle conditions w (resolve i ((r.forAccount? i.merchantAccount).map (·.id))).run := resolve_idle i _ w
  by_cases h : ∃ m, MatchedTo r conditions w i m ∧ verified i (tenantFor r i m) = true
  · obtain ⟨m, hm, hv⟩ := h
    exact .inr ⟨m, hm, found_of_matchedTo hm, hv⟩
  · left
    refine idle.bind fun x hx => ?_
    match x with
    | .error f => exact conclude_idle _ _ _
    | .ok none => exact conclude_idle _ _ _
    | .ok (some m) =>
      dsimp only
      rw [← tenantFor, if_neg fun hv => h ⟨m, hx, hv⟩]
      exact conclude_idle _ _ _

/-- Where an item changes an attempt or a payment, or asks the platform for a change, whatever other calls fail, it was
matched, and the tenant of the attempt is not configured, has no key but a blank one, or vouches for the item. If the
owner of the merchant account does not, the item is rejected without any call but the one for its audit entry. -/
theorem effect_requires_signature (r : Registry) (w : World) (conditions : Conditions) (i : Item) :
    let run := (item r i).run conditions w
    ((run.world.journal.attempts ≠ w.journal.attempts ∨ run.world.platform.payments ≠ w.platform.payments ∨
        ∃ e ∈ run.trace, e.call.writesPlatform = true) →
      ∃ m, MatchedTo r conditions w i m ∧ m.attempt ∈ w.journal.attempts ∧
        ∀ t, r.forTenant? m.attempt.tenant = some t → Vouched t i) ∧
    ∀ owner, r.forAccount? i.merchantAccount = some owner → ¬ Vouched owner i →
      RejectedAtOnce conditions w { i.audit with tenant := some owner.id } run := by
  dsimp only
  constructor
  · intro heffect
    rcases item_idle_or_verified r conditions w i with idle | ⟨m, hm, found, hv⟩
    · exfalso
      rcases heffect with h | h | ⟨e, he, hw⟩
      · exact h idle.attempts
      · exact h (congrArg Platform.payments idle.platform)
      · rw [Call.writesPlatform_of_not_writes (idle.calls e he)] at hw
        cases hw
    · refine ⟨m, hm, found.recorded, fun t ht => ?_⟩
      rw [tenantFor_eq found.owned ht] at hv
      exact vouched_of_verified hv
  · intro owner howner hnot
    have hv : ¬ verified i owner = true := fun h => hnot (vouched_of_verified h)
    have hitem : item r i = conclude { i.audit with tenant := some owner.id } .rejected := by
      unfold item
      simp only [howner, Option.all_some, Option.map_some]
      exact if_neg hv
    rw [hitem]
    exact conclude_rejectedAtOnce _ _ _

/-! ### A tenant with a key -/

/-- The tenant of the small world, with a key. -/
def keyedTenant : Tenant := ⟨.given 7, ["M"], some "c0ffee", .hmacSha256, []⟩

/-- An item for the small world with its signature under this key. -/
def signedItem : Item :=
  { specimenItem .authorisation true none none with
    additionalData := some [(Item.signatureKey, .string "tpBlov+tgHlZ4g1jQ5xdcpmTWpSiIPZjR+CJqjlmeJo=")] }

theorem not_vouched_of_unsigned : ¬ Vouched keyedTenant (specimenItem .authorisation true none none) := by
  rintro (h | ⟨secret, signature, -, h, -⟩)
  · exact absurd (h "c0ffee" rfl) (by decide)
  · cases h

/-- With its signature the item moves the payment, and without it is rejected. -/
theorem effect_requires_signature_of_authorization :
    Registry.ofList [keyedTenant] = .ok (.single keyedTenant) ∧
      ((item (.single keyedTenant) signedItem).run .fair specimen).world.platform.payments ≠
        specimen.platform.payments ∧
      Vouched keyedTenant signedItem ∧
      RejectedAtOnce .fair specimen
        { (specimenItem .authorisation true none none).audit with tenant := some keyedTenant.id }
        ((item (.single keyedTenant) (specimenItem .authorisation true none none)).run .fair specimen) := by
  have effect : ((item (.single keyedTenant) signedItem).run .fair specimen).world.platform.payments ≠
      specimen.platform.payments := by decide +kernel
  obtain ⟨m, -, hmem, hvouched⟩ :=
    (effect_requires_signature (.single keyedTenant) specimen .fair signedItem).1 (.inr (.inl effect))
  have tenant : m.attempt.tenant = keyedTenant.id := by
    have all : ∀ a ∈ specimen.journal.attempts, a.tenant = keyedTenant.id := by decide
    exact all _ hmem
  refine ⟨Registry.ofList_single _, effect, hvouched keyedTenant (by rw [tenant]; rfl), ?_⟩
  exact (effect_requires_signature (.single keyedTenant) specimen .fair _).2 keyedTenant rfl not_vouched_of_unsigned

/-- Where the audit can not be written, an item is rejected without an entry. -/
theorem rejection_unrecorded :
    Registry.ofList [keyedTenant] = .ok (.single keyedTenant) ∧
      (Registry.single keyedTenant).forAccount? "M" = some keyedTenant ∧
      ¬ Vouched keyedTenant (specimenItem .authorisation true none none) ∧
      let run := (item (.single keyedTenant) (specimenItem .authorisation true none none)).run
        { Conditions.fair with failing := [.recordAudit] } specimen
      run.ending = .finished .rejected ∧ run.world.journal.audit = [] :=
  ⟨Registry.ofList_single _, Registry.forAccount?_single (List.mem_singleton_self _), not_vouched_of_unsigned, rfl,
    by decide⟩

end Delivery
end Reconciliation.Notification
