import Mathlib.Data.List.Basic
import Reconciliation.Notification.Candidates

/-!
# Picking the greatest

The best candidate is found by going through a list and keeping the greatest element so far, the later one where two
are equal. `pick` is the choice between two and `lastMax` that from a list, for any total preorder.

* `lastMax_append` makes the choice from a list that between its parts, since `pick` is associative.
* `lastMax_insert`: one more element is either chosen or makes no difference.
* `lastMax_eq_some_iff`, `lastMax_filterMap_eq_some_iff` and `Candidates.select_eq_some_iff` say what is chosen without
  saying how.
* `lastMax_mergeSort`: sorting by a coarser order first makes no difference.
* `Candidates.select_mergeSort`, `Candidates.select_insert` and `Candidates.select_map` carry this over to the
  selection among attempts.
-/

namespace Reconciliation

/-! ### Total preorders -/

/-- Any two elements can be compared, and comparisons compose. -/
structure TotalPreorder {α : Type} (le : α → α → Bool) : Prop where
  trans : ∀ a b c, le a b → le b c → le a c
  total : ∀ a b, le a b || le b a

section LastMax

variable {α : Type} {le : α → α → Bool}

/-- The greater of two, the second where they are equal. -/
def pick (le : α → α → Bool) : Option α → Option α → Option α
  | none, b => b
  | some a, none => some a
  | some a, some b => if le a b then some b else some a

/-- The greatest element of a list, the last of equals. -/
def lastMax (le : α → α → Bool) (l : List α) : Option α := l.foldl (fun best a => pick le best (some a)) none

@[simp] theorem pick_none (a : Option α) : pick le a none = a := by cases a <;> rfl

@[simp] theorem none_pick (a : Option α) : pick le none a = a := rfl

theorem pick_some (a b : α) : pick le (some a) (some b) = if le a b then some b else some a := rfl

theorem pick_eq_or (a b : Option α) : pick le a b = a ∨ pick le a b = b := by
  cases a with
  | none => exact .inr rfl
  | some a =>
    cases b with
    | none => exact .inl rfl
    | some b => rw [pick_some]; split <;> simp

theorem pick_assoc (h : TotalPreorder le) (a b c : Option α) :
    pick le (pick le a b) c = pick le a (pick le b c) := by
  cases a with
  | none => rfl
  | some a =>
    cases b with
    | none => rfl
    | some b =>
      cases c with
      | none => simp
      | some c =>
        have h₁ := h.trans a b c
        have h₂ := h.trans a c b
        have h₃ := h.total b c
        by_cases hab : le a b <;> by_cases hbc : le b c <;> by_cases hac : le a c <;>
          simp_all [pick]

/-- An element between two others is either chosen or makes no difference. -/
theorem pick_between (h : TotalPreorder le) (a b c : Option α) :
    pick le a (pick le b c) = b ∨ pick le a (pick le b c) = pick le a c := by
  rcases pick_eq_or b c with hb | hc
  · rw [hb]
    rcases pick_eq_or a b with ha | ha
    · -- `a` beats `b` and `b` beats `c`, so that `a` beats `c`
      refine .inr ?_
      calc pick le a b = pick le a (pick le b c) := by rw [hb]
        _ = pick le (pick le a b) c := (pick_assoc h _ _ _).symm
        _ = pick le a c := by rw [ha]
    · exact .inl ha
  · exact .inr (by rw [hc])

theorem foldl_pick (h : TotalPreorder le) (best : Option α) (l : List α) :
    l.foldl (fun best a => pick le best (some a)) best = pick le best (lastMax le l) := by
  induction l generalizing best with
  | nil => simp [lastMax]
  | cons a rest ih =>
    unfold lastMax
    rw [List.foldl_cons, List.foldl_cons, ih, ih, none_pick, pick_assoc h]

theorem lastMax_cons (h : TotalPreorder le) (a : α) (l : List α) :
    lastMax le (a :: l) = pick le (some a) (lastMax le l) := by
  unfold lastMax
  rw [List.foldl_cons, foldl_pick h]
  rfl

theorem lastMax_append (h : TotalPreorder le) (l₁ l₂ : List α) :
    lastMax le (l₁ ++ l₂) = pick le (lastMax le l₁) (lastMax le l₂) := by
  unfold lastMax
  rw [List.foldl_append, foldl_pick h]
  rfl

theorem lastMax_insert (h : TotalPreorder le) (l₁ l₂ : List α) (a : α) :
    lastMax le (l₁ ++ a :: l₂) = some a ∨ lastMax le (l₁ ++ a :: l₂) = lastMax le (l₁ ++ l₂) := by
  rw [lastMax_append h, lastMax_append h, lastMax_cons h]
  exact pick_between h _ _ _

theorem mem_of_lastMax (h : TotalPreorder le) {l : List α} {a : α} (ha : lastMax le l = some a) : a ∈ l := by
  induction l with
  | nil => cases ha
  | cons b rest ih =>
    rw [lastMax_cons h] at ha
    rcases pick_eq_or (some b) (lastMax le rest) with hb | hb
    · rw [hb] at ha
      cases ha
      exact List.mem_cons_self
    · exact List.mem_cons_of_mem _ (ih (hb ▸ ha))

theorem lastMax_eq_none_iff (h : TotalPreorder le) {l : List α} : lastMax le l = none ↔ l = [] := by
  cases l with
  | nil => simp [lastMax]
  | cons a rest =>
    rw [lastMax_cons h]
    cases lastMax le rest with
    | none => simp
    | some b => rw [pick_some]; split <;> simp

/-- What is chosen is at least as great as all before it, and greater than all behind it. -/
theorem lastMax_eq_some_iff (h : TotalPreorder le) {l : List α} {a : α} :
    lastMax le l = some a ↔ ∃ before after, l = before ++ a :: after ∧ (∀ b ∈ before, le b a = true) ∧
      ∀ b ∈ after, le a b = false := by
  constructor
  · intro ha
    induction l generalizing a with
    | nil => cases ha
    | cons b rest ih =>
      rw [lastMax_cons h] at ha
      cases hr : lastMax le rest with
      | none =>
        rw [hr, pick_none] at ha
        cases ha
        exact ⟨[], rest, rfl, by simp, by simp [(lastMax_eq_none_iff h).1 hr]⟩
      | some c =>
        rw [hr, pick_some] at ha
        split at ha
        · next hbc =>
          cases ha
          obtain ⟨before, after, rfl, hbefore, hafter⟩ := ih hr
          exact ⟨b :: before, after, rfl, List.forall_mem_cons.2 ⟨hbc, hbefore⟩, hafter⟩
        · next hbc =>
          obtain rfl : b = a := Option.some.inj ha
          refine ⟨[], rest, rfl, by simp, fun d hd => ?_⟩
          -- all of the rest is at most `c`, which `b` is greater than
          obtain ⟨before, after, rfl, hbefore, hafter⟩ := ih hr
          have hdc : le d c = true := by
            rcases List.mem_append.1 hd with hd | hd
            · exact hbefore d hd
            · rcases List.mem_cons.1 hd with rfl | hd
              · simpa using h.total d d
              · simpa [hafter d hd] using h.total c d
          by_contra hbd
          exact hbc (h.trans b d c (by simpa using hbd) hdc)
  · rintro ⟨before, after, rfl, hbefore, hafter⟩
    have behind : pick le (some a) (lastMax le after) = some a := by
      cases ha : lastMax le after with
      | none => rfl
      | some b => rw [pick_some, hafter b (mem_of_lastMax h ha), if_neg Bool.false_ne_true]
    rw [lastMax_append h, lastMax_cons h, behind]
    cases hb : lastMax le before with
    | none => rfl
    | some b => rw [pick_some, if_pos (hbefore b (mem_of_lastMax h hb))]

/-- What is chosen among the images of the elements that have one. -/
theorem lastMax_filterMap_eq_some_iff {β : Type} (h : TotalPreorder le) (g : β → Option α) {l : List β} {x : α} :
    lastMax le (l.filterMap g) = some x ↔ ∃ before b after, l = before ++ b :: after ∧ g b = some x ∧
      (∀ c ∈ before, ∀ y ∈ g c, le y x = true) ∧ ∀ c ∈ after, ∀ y ∈ g c, le x y = false := by
  have mem (l : List β) (P : α → Prop) : (∀ y ∈ l.filterMap g, P y) ↔ ∀ c ∈ l, ∀ y ∈ g c, P y := by
    simp only [List.mem_filterMap, Option.mem_def]
    exact ⟨fun h c hc y hy => h y ⟨c, hc, hy⟩, fun h y ⟨c, hc, hy⟩ => h c hc y hy⟩
  rw [lastMax_eq_some_iff h]
  constructor
  · rintro ⟨front, back, hl, hfront, hback⟩
    obtain ⟨before, rest, rfl, rfl, hrest⟩ := List.filterMap_eq_append_iff.1 hl
    obtain ⟨skipped, b, after, rfl, hskipped, hb, rfl⟩ := List.filterMap_eq_cons_iff.1 hrest
    refine ⟨before ++ skipped, b, after, by simp, hb, ?_, (mem _ _).1 hback⟩
    rw [List.forall_mem_append]
    exact ⟨(mem _ _).1 hfront, fun c hc y hy => by simp [hskipped c hc] at hy⟩
  · rintro ⟨before, b, after, rfl, hb, hbefore, hafter⟩
    refine ⟨before.filterMap g, after.filterMap g, ?_, (mem _ _).2 hbefore, (mem _ _).2 hafter⟩
    rw [List.filterMap_append, List.filterMap_cons_some hb]

/-- What is chosen among the elements that fit. -/
theorem lastMax_filter_eq_some_iff (h : TotalPreorder le) (p : α → Bool) {l : List α} {a : α} :
    lastMax le (l.filter p) = some a ↔ ∃ before after, l = before ++ a :: after ∧ p a = true ∧
      (∀ b ∈ before, p b = true → le b a = true) ∧ ∀ b ∈ after, p b = true → le a b = false := by
  rw [← List.filterMap_eq_filter, lastMax_filterMap_eq_some_iff h]
  constructor
  · rintro ⟨before, b, after, rfl, hb, hbefore, hafter⟩
    obtain ⟨hp, rfl⟩ : p b = true ∧ b = a := by simpa [Option.guard, and_comm] using hb
    exact ⟨before, after, rfl, hp, fun c hc hpc => hbefore c hc c (by simp [hpc]),
      fun c hc hpc => hafter c hc c (by simp [hpc])⟩
  · rintro ⟨before, after, rfl, hp, hbefore, hafter⟩
    refine ⟨before, a, after, rfl, by simp [hp], ?_, ?_⟩
    · intro c hc y hy
      obtain ⟨hpc, rfl⟩ : p c = true ∧ c = y := by simpa [Option.guard] using hy
      exact hbefore c hc hpc
    · intro c hc y hy
      obtain ⟨hpc, rfl⟩ : p c = true ∧ c = y := by simpa [Option.guard] using hy
      exact hafter c hc hpc

theorem lastMax_map {β : Type} {le' : β → β → Bool} (f : α → β) (hf : ∀ a b, le' (f a) (f b) = le a b)
    (h : TotalPreorder le) (h' : TotalPreorder le') (l : List α) :
    lastMax le' (l.map f) = (lastMax le l).map f := by
  induction l with
  | nil => rfl
  | cons a rest ih =>
    rw [List.map_cons, lastMax_cons h', lastMax_cons h, ih]
    cases lastMax le rest with
    | none => rfl
    | some b => simp only [pick_some, Option.map_some, hf]; split <;> rfl

/-- Sorting first makes no difference where elements that are equal for the choice are equal for the sorting. -/
theorem lastMax_mergeSort {β : Type} {le' : β → β → Bool} (h : TotalPreorder le) (h' : TotalPreorder le')
    (g : β → Option α) (hg : ∀ b c x y, g b = some x → g c = some y → le x y → le y x → le' c b) (l : List β) :
    lastMax le ((l.mergeSort le').filterMap g) = lastMax le (l.filterMap g) := by
  induction l with
  | nil => simp
  | cons b rest ih =>
    obtain ⟨l₁, l₂, hs, hr, hb⟩ := List.mergeSort_cons h'.trans h'.total b rest
    -- all that was put before `b` is smaller than `b` for the sorting, so that `b` may be chosen from first
    have comm : pick le (lastMax le (l₁.filterMap g)) (g b) = pick le (g b) (lastMax le (l₁.filterMap g)) := by
      cases hx : lastMax le (l₁.filterMap g) with
      | none => simp
      | some x =>
        obtain ⟨c, hc, hcx⟩ := List.mem_filterMap.1 (mem_of_lastMax h hx)
        cases hy : g b with
        | none => simp
        | some y =>
          have hbc : le' b c = false := by simpa using hb c hc
          have hne : ¬ (le x y = true ∧ le y x = true) := fun ⟨hxy, hyx⟩ => by
            simp [hg c b x y hcx hy hxy hyx] at hbc
          have := h.total x y
          rw [pick_some, pick_some]
          by_cases hxy : le x y <;> by_cases hyx : le y x <;> simp_all
    have single : ∀ l : List β, lastMax le ((b :: l).filterMap g) = pick le (g b) (lastMax le (l.filterMap g)) := by
      intro l
      cases hy : g b with
      | none => simp [hy]
      | some y => rw [List.filterMap_cons_some hy, lastMax_cons h]
    calc lastMax le (((b :: rest).mergeSort le').filterMap g)
        = pick le (pick le (lastMax le (l₁.filterMap g)) (g b)) (lastMax le (l₂.filterMap g)) := by
          rw [hs, List.filterMap_append, lastMax_append h, single, pick_assoc h]
      _ = pick le (g b) (lastMax le ((l₁ ++ l₂).filterMap g)) := by
          rw [comm, pick_assoc h, List.filterMap_append, lastMax_append h]
      _ = lastMax le ((b :: rest).filterMap g) := by rw [← hr, ih, single]

end LastMax

/-! ### Attempts -/

namespace Time

theorem Instant.notAfter_preorder : TotalPreorder Instant.notAfter where
  trans a b c := by
    simp only [Instant.notAfter, Bool.or_eq_true, decide_eq_true_eq, Bool.and_eq_true, beq_iff_eq]
    omega
  total a b := by
    simp only [Instant.notAfter, Bool.or_eq_true, decide_eq_true_eq, Bool.and_eq_true, beq_iff_eq]
    omega

theorem Moment.notAfter_preorder : TotalPreorder Moment.notAfter where
  trans a b c := by
    cases a <;> cases b <;> cases c <;> simp only [Moment.notAfter, decide_eq_true_eq, Bool.false_eq_true,
      false_implies, implies_true]
    · exact Instant.notAfter_preorder.trans _ _ _
    · omega
  total a b := by
    cases a <;> cases b <;> simp only [Moment.notAfter, Bool.or_false, Bool.or_true, Bool.or_eq_true,
      decide_eq_true_eq]
    · exact (Bool.or_eq_true _ _).mp (Instant.notAfter_preorder.total _ _)
    · omega

end Time

namespace Notification.Candidates

variable (c : Candidates) (tenant : Option Ident)

theorem givesWay_preorder : TotalPreorder givesWay where
  trans a b d := by
    have htr := Time.Moment.notAfter_preorder.trans a.2.created b.2.created d.2.created
    simp only [givesWay, Bool.or_eq_true, decide_eq_true_eq, Bool.and_eq_true, beq_iff_eq]
    rintro (hab | ⟨hab, hab'⟩) (hbd | ⟨hbd, hbd'⟩)
    · exact .inl (by omega)
    · exact .inl (by omega)
    · exact .inl (by omega)
    · exact .inr ⟨by omega, htr hab' hbd'⟩
  total a b := by
    have ht := Time.Moment.notAfter_preorder.total a.2.created b.2.created
    simp only [givesWay, Bool.or_eq_true, decide_eq_true_eq, Bool.and_eq_true, beq_iff_eq] at ht ⊢
    rcases Nat.lt_trichotomy a.1 b.1 with h | h | h
    · exact .inl (.inl h)
    · exact ht.imp (fun ht => .inr ⟨h, ht⟩) fun ht => .inr ⟨h.symm, ht⟩
    · exact .inr (.inl h)

theorem select_eq (attempts : List Attempt) :
    c.select tenant attempts = (lastMax givesWay (attempts.filterMap (c.ranked? tenant))).map (·.2) := by
  have : better = fun best a => pick givesWay best (some a) := by
    funext best a
    cases best <;> rfl
  rw [select, this, lastMax]

theorem ranked?_eq_some {c : Candidates} {tenant : Option Ident} {a : Attempt} {x : Nat × Attempt} :
    c.ranked? tenant a = some x ↔
      tenant.all (a.tenant == ·) = true ∧ c.rank? a.operation = some x.1 ∧ x.2 = a := by
  unfold ranked?
  split
  · next h =>
    rw [Option.map_eq_some_iff]
    constructor
    · rintro ⟨n, hn, rfl⟩
      exact ⟨h, hn, rfl⟩
    · rintro ⟨-, hn, rfl⟩
      exact ⟨x.1, hn, rfl⟩
  · next h => simp [h]

/-- What is selected is one of the attempts and comes into question. -/
theorem mem_of_select {attempts : List Attempt} {a : Attempt} (h : c.select tenant attempts = some a) :
    a ∈ attempts ∧ tenant.all (a.tenant == ·) = true ∧ ∃ n, c.rank? a.operation = some n := by
  rw [select_eq, Option.map_eq_some_iff] at h
  obtain ⟨x, hx, rfl⟩ := h
  obtain ⟨b, hb, hbx⟩ := List.mem_filterMap.1 (mem_of_lastMax givesWay_preorder hx)
  obtain ⟨ht, hr, rfl⟩ := ranked?_eq_some.1 hbx
  exact ⟨hb, ht, x.1, hr⟩

theorem select_eq_none_iff {attempts : List Attempt} :
    c.select tenant attempts = none ↔ ∀ a ∈ attempts, c.ranked? tenant a = none := by
  rw [select_eq, Option.map_eq_none_iff, lastMax_eq_none_iff givesWay_preorder, List.filterMap_eq_nil_iff]

/-- The attempt that is selected comes into question; all others that do give way to it, and it gives way to none that
comes later. -/
theorem select_eq_some_iff {attempts : List Attempt} {a : Attempt} :
    c.select tenant attempts = some a ↔ ∃ before after x, attempts = before ++ a :: after ∧
      c.ranked? tenant a = some x ∧ (∀ b ∈ before, ∀ y ∈ c.ranked? tenant b, givesWay y x = true) ∧
      ∀ b ∈ after, ∀ y ∈ c.ranked? tenant b, givesWay x y = false := by
  rw [select_eq, Option.map_eq_some_iff]
  constructor
  · rintro ⟨x, hx, rfl⟩
    obtain ⟨before, b, after, rfl, hb, hbefore, hafter⟩ := (lastMax_filterMap_eq_some_iff givesWay_preorder _).1 hx
    obtain rfl : x.2 = b := (ranked?_eq_some.1 hb).2.2
    exact ⟨before, after, x, rfl, hb, hbefore, hafter⟩
  · rintro ⟨before, after, x, rfl, hx, hbefore, hafter⟩
    refine ⟨x, (lastMax_filterMap_eq_some_iff givesWay_preorder _).2 ?_, (ranked?_eq_some.1 hx).2.2⟩
    exact ⟨before, a, after, rfl, hx, hbefore, hafter⟩

/-- Attempts need not be sorted by time. -/
theorem select_mergeSort (attempts : List Attempt) :
    c.select tenant (attempts.mergeSort fun a b => a.created.notAfter b.created) = c.select tenant attempts := by
  have h : TotalPreorder fun a b : Attempt => a.created.notAfter b.created :=
    ⟨fun _ _ _ => Time.Moment.notAfter_preorder.trans _ _ _, fun _ _ => Time.Moment.notAfter_preorder.total _ _⟩
  rw [select_eq, select_eq, lastMax_mergeSort givesWay_preorder h]
  intro a b x y hx hy hxy hyx
  obtain ⟨-, -, rfl⟩ := ranked?_eq_some.1 hx
  obtain ⟨-, -, rfl⟩ := ranked?_eq_some.1 hy
  simp only [givesWay, Bool.or_eq_true, decide_eq_true_eq, Bool.and_eq_true, beq_iff_eq] at hxy hyx
  rcases hyx with h | h
  · omega
  · exact h.2

/-- One more attempt is either selected or makes no difference. -/
theorem select_insert (l₁ l₂ : List Attempt) (a : Attempt) :
    c.select tenant (l₁ ++ a :: l₂) = some a ∨
      c.select tenant (l₁ ++ a :: l₂) = c.select tenant (l₁ ++ l₂) := by
  simp only [select_eq, List.filterMap_append]
  cases ha : c.ranked? tenant a with
  | none => exact .inr (by rw [List.filterMap_cons_none ha])
  | some x =>
    obtain ⟨-, -, rfl⟩ := ranked?_eq_some.1 ha
    rw [List.filterMap_cons_some ha]
    rcases lastMax_insert givesWay_preorder (l₁.filterMap (c.ranked? tenant)) (l₂.filterMap (c.ranked? tenant)) x
      with h | h <;> rw [h]
    · exact .inl rfl
    · exact .inr rfl

/-- The selection looks at nothing but tenant, operation and time. -/
theorem select_map (f : Attempt → Attempt) (ht : ∀ a, (f a).tenant = a.tenant)
    (ho : ∀ a, (f a).operation = a.operation) (hc : ∀ a, (f a).created = a.created) (attempts : List Attempt) :
    c.select tenant (attempts.map f) = (c.select tenant attempts).map f := by
  have hr : (attempts.map f).filterMap (c.ranked? tenant) =
      (attempts.filterMap (c.ranked? tenant)).map fun x => (x.1, f x.2) := by
    rw [List.filterMap_map, List.map_filterMap]
    apply List.filterMap_congr
    intro a _
    simp only [Function.comp_apply, ranked?, ht, ho]
    split <;> simp [Function.comp_def]
  rw [select_eq, select_eq, hr, lastMax_map _ _ givesWay_preorder givesWay_preorder]
  · cases lastMax givesWay (attempts.filterMap (c.ranked? tenant)) <;> rfl
  · intro a b
    simp only [givesWay, hc]

end Notification.Candidates
end Reconciliation
