import Reconciliation.Proofs.Interleaving
import Reconciliation.Proofs.Redelivery

/-!
# Matching while the stores change

While an item is matched, another delivery of the same item may change the stores: the attempt may have been moved
between two look-ups, and the payment is loaded as it was or as it has become.

* `Toward` says that the stores are changed to those of another world, if at all.
* `spot_mixed`: an attempt with the same key is spotted, whichever look-ups find the attempt moved.
* `Seen` says what a match becomes for a delivery that sees the stores change, and `resolve_amid` that this is what a
  delivery is matched to.
-/

namespace Reconciliation

/-! ### The stores between calls -/

/-- Each of the stores is as it was or as it is in `u`. -/
structure Toward (u v v' : World) : Prop where
  platform : v'.platform.uncounted = v.platform.uncounted ∨ v'.platform.uncounted = u.platform.uncounted
  attempts : v'.journal.attempts = v.journal.attempts ∨ v'.journal.attempts = u.journal.attempts

/-- The stores are the same but for the audit and the number of calls. -/
structure Alike (u v : World) : Prop where
  platform : v.platform.uncounted = u.platform.uncounted
  attempts : v.journal.attempts = u.journal.attempts

variable {u v v' w : World}

theorem Toward.refl (u v : World) : Toward u v v := ⟨.inl rfl, .inl rfl⟩

theorem Toward.trans {v'' : World} (h : Toward u v v') (h' : Toward u v' v'') : Toward u v v'' where
  platform := h'.platform.elim (fun he => he ▸ h.platform) .inr
  attempts := h'.attempts.elim (fun he => he ▸ h.attempts) .inr

/-- What is as in `u` stays so. -/
theorem Toward.platform_eq (h : Toward u v v') (hp : v.platform.uncounted = u.platform.uncounted) :
    v'.platform.uncounted = u.platform.uncounted := h.platform.elim (·.trans hp) id

theorem Toward.attempts_eq (h : Toward u v v') (ha : v.journal.attempts = u.journal.attempts) :
    v'.journal.attempts = u.journal.attempts := h.attempts.elim (·.trans ha) id

theorem Alike.toward (h : Alike u v) (hv : Toward u v v') : Alike u v' :=
  ⟨hv.platform_eq h.platform, hv.attempts_eq h.attempts⟩

namespace Notification

open Procedure

/-! ### Matching between calls -/

namespace Matching

variable {c : Candidates} {tenant : Option Ident} {i : Item} {attempts attempts' : List Attempt}

theorem Near.of_either {f : Attempt} (look : List Attempt → Option Attempt)
    (near : Near f (look attempts') (look attempts)) {l : List Attempt} (h : l = attempts ∨ l = attempts') :
    Near f (look l) (look attempts) := by
  rcases h with rfl | rfl
  · exact .inr rfl
  · exact near

/-- Where each look-up finds the attempts as they were, or with the attempt moved that is spotted in them, an attempt
with the same key is spotted. -/
theorem spot_mixed (h : attempts' = attempts ∨ ∃ a source q s, spot attempts i c tenant = some (a, source) ∧
      attempts' = changeFirst (Journal.Key.of · == .of a) (Journal.moved q s) attempts)
    {l₁ l₂ l₃ : List Attempt} (h₁ : l₁ = attempts ∨ l₁ = attempts') (h₂ : l₂ = attempts ∨ l₂ = attempts')
    (h₃ : l₃ = attempts ∨ l₃ = attempts') :
    ((spotReference l₁ c tenant i.parentReference).or ((spotReference l₂ c tenant (ownReference? i)).or
        (spotTransaction l₃ c tenant (transactionId? i)))).map Journal.Key.of =
      ((spot attempts i c tenant).map (·.1)).map Journal.Key.of := by
  rcases h with rfl | ⟨a, source, q, s, hs, hmoved⟩
  · rw [or_self] at h₁ h₂ h₃
    rw [h₁, h₂, h₃, spot_fst]
  · obtain ⟨f, hf⟩ := exists_find? (p := (Journal.Key.of · == .of a)) ((spotted_of_spot hs).1) (by simp)
    have hk : Journal.Key.of f = .of a := by simpa using List.find?_some hf
    obtain ⟨before, after, hl, hc, -⟩ := changeFirst_split (Journal.moved q s) hf
    have hl' : attempts' = before ++ Journal.moved q s f :: after := hmoved.trans hc
    have href : ∀ reference, Near (Journal.moved q s f) (spotReference attempts' c tenant reference)
        (spotReference attempts c tenant reference) := by
      intro reference
      rw [hl', hl]
      exact spotReference_near reference
    have htrans : ∀ transaction, Near (Journal.moved q s f) (spotTransaction attempts' c tenant transaction)
        (spotTransaction attempts c tenant transaction) := by
      intro transaction
      rw [hl', hl]
      exact spotTransaction_near transaction
    have near := (Near.of_either (spotReference · c tenant i.parentReference) (href _) h₁).or
      ((Near.of_either (spotReference · c tenant (ownReference? i)) (href _) h₂).or
        (Near.of_either (spotTransaction · c tenant (transactionId? i)) (htrans _) h₃))
    rw [← spot_fst, hs] at near
    rcases near with near | near
    · rw [near, hs]
      simp [hk]
    · rw [near, hs]

section Amid

variable {u w v : World}

/-- While the stores may change to those of `u`, a search finds an attempt of which `A` holds, or none. -/
def Finds (u w : World) (p : Attempted (Option (Attempt × Source))) (A : Option Attempt → Prop) : Prop :=
  ∀ v, Toward u w v → p.run.Amid (Toward u) (fun x v => Toward u w v ∧ ∃ o, x = .ok o ∧ A (o.map (·.1))) v

/-- A look-up finds the attempts as they were or as they will be. -/
def Either (u w : World) (look : List Attempt → Option Attempt) (o : Option Attempt) : Prop :=
  ∃ l, (l = w.journal.attempts ∨ l = u.journal.attempts) ∧ o = look l

theorem either_before (u w : World) (look : List Attempt → Option Attempt) :
    Either u w look (look w.journal.attempts) := ⟨_, .inl rfl, rfl⟩

theorem Finds.orElse {p q : Attempted (Option (Attempt × Source))} {A B : Option Attempt → Prop} (hp : Finds u w p A)
    (hq : Finds u w q B) (hB : ∃ o, B o) :
    Finds u w (orElse p q) fun o => ∃ x y, A x ∧ B y ∧ o = x.or y := by
  intro v hv
  unfold Matching.orElse
  rw [ExceptT.run_bind]
  refine (hp v hv).bind (Toward.refl u) ?_
  rintro x v' ⟨hv', o, rfl, hA⟩
  cases o with
  | some a =>
    obtain ⟨y, hy⟩ := hB
    exact fun v'' hv'' => ⟨hv'.trans hv'', some a, rfl, _, y, hA, hy, rfl⟩
  | none =>
    refine (hq v' hv').mono ?_
    rintro y v'' ⟨hv'', o', rfl, hB'⟩
    exact ⟨hv'', o', rfl, _, _, hA, hB', rfl⟩

theorem byReference_finds (source : Source) (reference : Option String) :
    Finds u w (byReference c tenant source reference) (Either u w (spotReference · c tenant reference)) := by
  intro v hv
  cases reference with
  | none => exact fun v' hv' => ⟨hv.trans hv', none, rfl, _, .inl rfl, rfl⟩
  | some reference =>
    intro v' hv'
    refine ⟨.refl u v', fun v'' hv'' => ?_⟩
    have hv₁ := hv.trans hv'
    refine ⟨hv₁.trans hv'', (c.select tenant (v'.journal.withReference reference)).map (·, source), rfl,
      v'.journal.attempts, hv₁.attempts, ?_⟩
    rw [Journal.withReference, c.select_mergeSort, Option.map_map]
    exact Option.map_id'

theorem byTransaction_finds (transaction : Option Ident) :
    Finds u w (byTransaction c tenant transaction) (Either u w (spotTransaction · c tenant transaction)) := by
  intro v hv
  cases transaction with
  | none => exact fun v' hv' => ⟨hv.trans hv', none, rfl, _, .inl rfl, rfl⟩
  | some transaction =>
    intro v' hv'
    refine ⟨.refl u v', fun v'' hv'' => ?_⟩
    have hv₁ := hv.trans hv'
    refine ⟨hv₁.trans hv'', (c.select tenant (v'.journal.withTransaction? transaction).toList).map
      (·, .merchantReference), rfl, v'.journal.attempts, hv₁.attempts, ?_⟩
    rw [Option.map_map]
    exact Option.map_id'

theorem find_finds (h : u.journal.attempts = w.journal.attempts ∨ ∃ a source q s,
      spot w.journal.attempts i c tenant = some (a, source) ∧
        u.journal.attempts = changeFirst (Journal.Key.of · == .of a) (Journal.moved q s) w.journal.attempts) :
    Finds u w (find i c tenant) fun o =>
      o.map Journal.Key.of = ((spot w.journal.attempts i c tenant).map (·.1)).map Journal.Key.of := by
  have parent : Finds u w (byReference c tenant .parentReference i.parentReference) _ := byReference_finds _ _
  have own : Finds u w (byReference c tenant .ownReference (ownReference? i)) _ := byReference_finds _ _
  have merchant : Finds u w (byTransaction c tenant (transactionId? i)) _ := byTransaction_finds _
  have all := parent.orElse (own.orElse merchant ⟨_, either_before u w _⟩)
    ⟨_, _, _, either_before u w _, either_before u w _, rfl⟩
  refine fun v hv => (all v hv).mono ?_
  rintro x v' ⟨hv', o, rfl, _, _, ⟨l₁, h₁, rfl⟩, ⟨_, _, ⟨l₂, h₂, rfl⟩, ⟨l₃, h₃, rfl⟩, rfl⟩, ho⟩
  exact ⟨hv', o, rfl, ho ▸ spot_mixed h h₁ h₂ h₃⟩

/-- What a match `m` in `w` becomes for a delivery that sees the stores change to those of `u`: it is for an attempt
with the same key, and its payment is from either; if from `u`, the platform has changed by now. -/
structure Seen (u w : World) (m m' : Match) (v : World) : Prop where
  key : Journal.Key.of m'.attempt = .of m.attempt
  family : m'.family = m.family
  stands : Stands w.platform m m'.payment m'.transaction ∨
    Stands u.platform m m'.payment m'.transaction ∧ v.platform.uncounted = u.platform.uncounted

theorem Seen.later {m m' : Match} {v' : World} (h : Seen u w m m' v) (hv : Toward u v v') : Seen u w m m' v' where
  key := h.key
  family := h.family
  stands := h.stands.imp_right fun ⟨hs, hu⟩ => ⟨hs, hv.platform_eq hu⟩

/-- The payment of a match and its transaction are still there, with the same payment method. -/
structure Remains (u w : World) (m : Match) : Prop where
  methods : u.platform.methods = w.platform.methods
  payment : ∃ x t, Stands u.platform m x t ∧ x.method = m.payment.method

theorem getPayment_amid (k tenant : Ident) (hv : Toward u w v) :
    (ask (.getPayment k tenant)).Amid (Toward u)
      (fun x v => Toward u w v ∧ ∃ p : Platform, x = p.payment? k ∧
        (p = w.platform ∨ p = u.platform ∧ v.platform.uncounted = u.platform.uncounted)) v := by
  refine .ask fun v₁ hv₁ => ⟨.refl u v₁, fun v₂ hv₂ => ?_⟩
  have hw₁ := hv.trans hv₁
  refine ⟨hw₁.trans hv₂, ?_⟩
  simp only [World.perform, Platform.payment?]
  rcases hw₁.platform with hp | hp
  · exact ⟨w.platform, by rw [Platform.payments_of_uncounted hp], .inl rfl⟩
  · refine ⟨u.platform, by rw [Platform.payments_of_uncounted hp], .inr ⟨rfl, ?_⟩⟩
    exact hv₂.platform_eq hp

theorem getMethod_amid (k tenant : Ident) (hv : Toward u w v) (methods : u.platform.methods = w.platform.methods) :
    (ask (.getMethod k tenant)).Amid (Toward u) (fun x v' => Toward u v v' ∧ x = w.platform.method? k) v := by
  refine .ask fun v₁ hv₁ => ⟨.refl u v₁, fun v₂ hv₂ => ⟨hv₁.trans hv₂, ?_⟩⟩
  have hmethods : v₁.platform.methods = w.platform.methods :=
    (hv.trans hv₁).platform.elim Platform.methods_of_uncounted fun h =>
      (Platform.methods_of_uncounted h).trans methods
  simp only [World.perform, Platform.method?, hmethods]

/-- The payment and the transaction of a match `m` in `w` are found on either platform, and those of no match on
neither. -/
theorem load_amid {a a' : Attempt} {source : Source} (source' : Source) (key : Journal.Key.of a' = .of a)
    (missing : behold w.platform i a source = none → u.platform.uncounted = w.platform.uncounted)
    (present : ∀ m, behold w.platform i a source = some m → Remains u w m) (hv : Toward u w v) :
    (load i a' source').Amid (Toward u)
      (fun y v => Toward u w v ∧ (behold w.platform i a source = none → y = none) ∧
        ∀ m, behold w.platform i a source = some m → ∃ m', y = some m' ∧ Seen u w m m' v) v := by
  have hpayment : a'.payment = a.payment := congrArg Journal.Key.payment key
  have htransaction : a'.transaction = a.transaction := congrArg Journal.Key.transaction key
  unfold load
  refine (getPayment_amid _ _ hv).bind (Toward.refl u) ?_
  rintro x v₁ ⟨hv₁, p, rfl, hp⟩
  rw [hpayment, Platform.payment?]
  cases hb : behold w.platform i a source with
  | none =>
    have nothing : (p.payments.find? (·.id == a.payment)).bind (·.transaction? a.transaction) = none := by
      have hpw : p.payments = w.platform.payments := by
        rcases hp with rfl | ⟨rfl, -⟩
        · rfl
        · exact Platform.payments_of_uncounted (missing hb)
      rw [hpw]
      cases hx : w.platform.payments.find? (·.id == a.payment) with
      | none => rfl
      | some x => simpa [behold, hx] using hb
    cases hx : p.payments.find? (·.id == a.payment) with
    | none => exact fun v₂ hv₂ => ⟨hv₁.trans hv₂, fun _ => rfl, by simp⟩
    | some x =>
      rw [hx, Option.bind_some] at nothing
      dsimp only
      rw [htransaction, nothing]
      exact fun v₂ hv₂ => ⟨hv₁.trans hv₂, fun _ => rfl, by simp⟩
  | some m =>
    obtain ⟨methods, x₁, t₁, ⟨hx₁, ht₁⟩, hmethod₁⟩ := present m hb
    have hm := hb
    simp only [behold, Option.bind_eq_some_iff, Option.map_eq_some_iff] at hm
    obtain ⟨x₀, hx₀, t₀, ht₀, rfl⟩ := hm
    obtain ⟨x, t, hx, ht, hmethod⟩ : ∃ x t, p.payments.find? (·.id == a.payment) = some x ∧
        x.transaction? a.transaction = some t ∧ x.method = x₀.method := by
      rcases hp with rfl | ⟨rfl, -⟩
      · exact ⟨x₀, t₀, hx₀, ht₀, rfl⟩
      · exact ⟨x₁, t₁, hx₁, ht₁, hmethod₁⟩
    rw [hx]
    dsimp only
    rw [htransaction, ht]
    refine (getMethod_amid _ _ hv₁ methods).bind (Toward.refl u) ?_
    rintro y v₂ ⟨hv₂, rfl⟩ v₃ hv₃
    have hv₁₃ := hv₂.trans hv₃
    refine ⟨hv₁.trans hv₁₃, by simp, ?_⟩
    rintro m ⟨⟩
    refine ⟨_, rfl, key, by rw [hmethod], ?_⟩
    rcases hp with rfl | ⟨rfl, hu⟩
    · exact .inl ⟨hx, ht⟩
    · exact .inr ⟨⟨hx, ht⟩, hv₁₃.platform_eq hu⟩

/-- What a single delivery leaves in `u`, as far as matching is concerned. -/
structure Single (i : Item) (tenant : Option Ident) (u w : World) : Prop where
  attempts : u.journal.attempts = w.journal.attempts ∨ ∃ a source q s,
    spot w.journal.attempts i (.forEvent i.eventCode) tenant = some (a, source) ∧
      u.journal.attempts = changeFirst (Journal.Key.of · == .of a) (Journal.moved q s) w.journal.attempts
  missing : sight w.journal.attempts w.platform i tenant = none → u.platform.uncounted = w.platform.uncounted
  present : ∀ m, sight w.journal.attempts w.platform i tenant = some m → Remains u w m

/-- While the stores change to what a single delivery leaves, the same match is found, or none if there is none. -/
theorem resolve_amid (single : Single i tenant u w) :
    (resolve i tenant).run.Amid (Toward u)
      (fun x v => Toward u w v ∧ ∃ y, x = .ok y ∧
        (sight w.journal.attempts w.platform i tenant = none → y = none) ∧
        ∀ m, sight w.journal.attempts w.platform i tenant = some m → ∃ m', y = some m' ∧ Seen u w m m' v) w := by
  unfold resolve
  dsimp only
  split
  · next hc =>
    -- without candidates, nothing is spotted either
    have blind : sight w.journal.attempts w.platform i tenant = none := by rw [sight, spot_of_isEmpty hc]; rfl
    exact fun v hv => ⟨hv, none, rfl, fun _ => rfl, by simp [blind]⟩
  · rw [ExceptT.run_bind]
    refine (find_finds single.attempts w (.refl u w)).bind (Toward.refl u) ?_
    rintro x v ⟨hv, o, rfl, hkey⟩
    cases hs : spot w.journal.attempts i (.forEvent i.eventCode) tenant with
    | none =>
      have blind : sight w.journal.attempts w.platform i tenant = none := by rw [sight, hs]; rfl
      obtain rfl : o = none := by simpa [hs] using hkey
      exact fun v' hv' => ⟨hv.trans hv', none, rfl, fun _ => rfl, by simp [blind]⟩
    | some x =>
      obtain ⟨a, source⟩ := x
      have hsight : sight w.journal.attempts w.platform i tenant = behold w.platform i a source := by
        rw [sight, hs]; rfl
      obtain ⟨⟨a', source'⟩, rfl, key⟩ : ∃ x, o = some x ∧ Journal.Key.of x.1 = .of a := by simpa [hs] using hkey
      rw [hsight]
      have loaded := load_amid source' key (fun h => single.missing (hsight.trans h))
        (fun m h => single.present m (hsight.trans h)) hv
      refine loaded.bind (Toward.refl u) ?_
      rintro y v₁ ⟨hv₁, hnone, hsome⟩ v₂ hv₂
      refine ⟨hv₁.trans hv₂, y, rfl, hnone, fun m hm => ?_⟩
      obtain ⟨m', hm', seen⟩ := hsome m hm
      exact ⟨m', hm', seen.later hv₂⟩

end Amid

end Matching

end Notification
end Reconciliation
