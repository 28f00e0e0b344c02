import Reconciliation.Proofs.Designation

/-!
# Rank and time decide

Journals list attempts in different orders where times are the same, so the selection must not depend on the order any
more than it has to. It is told here from the rank and the time of each attempt.

* `Eligible` says that an attempt passes the filters, `Above` and `Ties` compare two attempts by rank and time.
* `select_eq_some_iff_foremost` says which attempt is selected, `select_eq_none_iff_ineligible` when there is none.
* `ties_of_perm`: in whatever order the attempts come, rank and time of the selected one are the same.
* `selected_by_rank_and_time` is the statement about lists and their permutations.
-/

namespace Reconciliation

namespace Time

theorem Instant.eq_of_notAfter {s t : Instant} (h : s.notAfter t = true) (h' : t.notAfter s = true) : s = t := by
  obtain ⟨seconds, nanos⟩ := s
  obtain ⟨seconds', nanos'⟩ := t
  simp only [notAfter, Bool.or_eq_true, decide_eq_true_eq, Bool.and_eq_true, beq_iff_eq] at h h'
  rw [mk.injEq]
  omega

theorem Moment.eq_of_notAfter {s t : Moment} (h : s.notAfter t = true) (h' : t.notAfter s = true) : s = t := by
  cases s with
  | recorded s =>
    cases t with
    | recorded t => rw [Instant.eq_of_notAfter h h']
    | live j => cases h'
  | live i =>
    cases t with
    | recorded t => cases h
    | live j =>
      simp only [notAfter, decide_eq_true_eq] at h h'
      rw [Nat.le_antisymm h h']

end Time

namespace Notification.Candidates

variable (c : Candidates) (tenant : Option Ident)

/-- The attempt belongs to the tenant, if one is given, and comes from one of the operations. -/
structure Eligible (a : Attempt) : Prop where
  owned : ∀ t ∈ tenant, a.tenant = t
  candidate : a.operation ∈ c.exact ∨ a.operation ∈ c.likely

instance (a : Attempt) : Decidable (c.Eligible tenant a) :=
  decidable_of_iff ((∀ t ∈ tenant, a.tenant = t) ∧ (a.operation ∈ c.exact ∨ a.operation ∈ c.likely))
    ⟨fun h => ⟨h.1, h.2⟩, fun h => ⟨h.owned, h.candidate⟩⟩

/-- The rank of an attempt, zero for one that does not come into question. -/
def grade (a : Attempt) : Nat := (c.rank? a.operation).getD 0

/-- The first of two attempts has the greater pair of rank and time. -/
def Above (a b : Attempt) : Prop :=
  c.grade b < c.grade a ∨ c.grade a = c.grade b ∧ a.created.notAfter b.created = false

/-- The attempts have the same rank and time. -/
def Ties (a b : Attempt) : Prop := c.grade a = c.grade b ∧ a.created = b.created

instance (a b : Attempt) : Decidable (c.Above a b) := inferInstanceAs (Decidable (_ ∨ _))

instance (a b : Attempt) : Decidable (c.Ties a b) := inferInstanceAs (Decidable (_ ∧ _))

variable {c tenant} {a b : Attempt} {attempts others : List Attempt}

/-! ### Comparing two attempts -/

theorem rank?_isSome_iff {o : Operation} : (c.rank? o).isSome = true ↔ o ∈ c.exact ∨ o ∈ c.likely := by
  unfold rank?
  split
  · next exact => simp [exact]
  · next inexact =>
    split
    · next likely => simp [likely]
    · next unlikely => simp [inexact, unlikely]

theorem ranked?_eq_some_iff_eligible {x : Nat × Attempt} :
    c.ranked? tenant a = some x ↔ c.Eligible tenant a ∧ x = (c.grade a, a) := by
  have all : tenant.all (a.tenant == ·) = true ↔ ∀ t ∈ tenant, a.tenant = t := by cases tenant <;> simp
  rw [ranked?_eq_some, all]
  constructor
  · rintro ⟨owned, ranked, rfl⟩
    refine ⟨⟨owned, rank?_isSome_iff.1 (by rw [ranked]; rfl)⟩, ?_⟩
    rw [grade, ranked]
    rfl
  · rintro ⟨eligible, rfl⟩
    obtain ⟨rank, ranked⟩ := Option.isSome_iff_exists.1 (rank?_isSome_iff.2 eligible.candidate)
    exact ⟨eligible.owned, by rw [grade, ranked]; rfl, rfl⟩

/-- An attempt gives way to another exactly if it does not stand above it. -/
theorem givesWay_iff_not_above : givesWay (c.grade a, a) (c.grade b, b) = true ↔ ¬ c.Above a b := by
  rw [Matching.givesWay_iff, Above]
  rcases Nat.lt_trichotomy (c.grade a) (c.grade b) with lower | same | higher
  · simp [lower, Nat.lt_asymm lower, Nat.ne_of_lt lower]
  · simp [same]
  · simp [higher, Nat.lt_asymm higher, Nat.ne_of_gt higher]

theorem Above.asymm (h : c.Above a b) : ¬ c.Above b a := by
  have total := givesWay_preorder.total (c.grade a, a) (c.grade b, b)
  rw [Bool.or_eq_true, givesWay_iff_not_above, givesWay_iff_not_above] at total
  exact total.resolve_left (not_not_intro h)

/-- Attempts tie where neither stands above the other. -/
theorem ties_iff_not_above : c.Ties a b ↔ ¬ c.Above a b ∧ ¬ c.Above b a := by
  rw [← givesWay_iff_not_above, ← givesWay_iff_not_above, Matching.givesWay_iff, Matching.givesWay_iff, Ties]
  constructor
  · rintro ⟨same, created⟩
    have itself := Time.Moment.notAfter_preorder.total a.created a.created
    rw [Bool.or_self] at itself
    exact ⟨.inr ⟨same, created ▸ itself⟩, .inr ⟨same.symm, created ▸ itself⟩⟩
  · rintro ⟨lower | ⟨same, before⟩, higher | ⟨same', after⟩⟩
    · exact absurd higher (Nat.lt_asymm lower)
    · exact absurd same' (Nat.ne_of_gt lower)
    · exact absurd same (Nat.ne_of_gt higher)
    · exact ⟨same, Time.Moment.eq_of_notAfter before after⟩

/-! ### The selection -/

theorem select_eq_none_iff_ineligible :
    c.select tenant attempts = none ↔ ∀ a ∈ attempts, ¬ c.Eligible tenant a := by
  rw [select_eq_none_iff]
  refine forall₂_congr fun a _ => ?_
  rw [Option.eq_none_iff_forall_ne_some]
  constructor
  · exact fun none eligible => none _ (ranked?_eq_some_iff_eligible.2 ⟨eligible, rfl⟩)
  · exact fun ineligible x hx => ineligible (ranked?_eq_some_iff_eligible.1 hx).1

/-- The selected attempt is eligible, no eligible one stands above it, and none behind it ties with it. -/
theorem select_eq_some_iff_foremost :
    c.select tenant attempts = some a ↔ ∃ before after, attempts = before ++ a :: after ∧ c.Eligible tenant a ∧
      (∀ b ∈ attempts, c.Eligible tenant b → ¬ c.Above b a) ∧ ∀ b ∈ after, c.Eligible tenant b → ¬ c.Ties a b := by
  rw [select_eq_some_iff]
  constructor
  · rintro ⟨before, after, x, rfl, hx, hbefore, hafter⟩
    obtain ⟨eligible, rfl⟩ := ranked?_eq_some_iff_eligible.1 hx
    have above : ∀ b ∈ after, c.Eligible tenant b → c.Above a b := fun b hb eligible => by
      have stays := hafter b hb _ (ranked?_eq_some_iff_eligible.2 ⟨eligible, rfl⟩)
      rwa [← Bool.not_eq_true, givesWay_iff_not_above, not_not] at stays
    refine ⟨before, after, rfl, eligible, fun b hb eligible => ?_, fun b hb eligible ties => ?_⟩
    · rcases List.mem_append.1 hb with hb | hb
      · exact givesWay_iff_not_above.1 (hbefore b hb _ (ranked?_eq_some_iff_eligible.2 ⟨eligible, rfl⟩))
      · rcases List.mem_cons.1 hb with rfl | hb
        · exact fun itself => itself.asymm itself
        · exact (above b hb eligible).asymm
    · exact (ties_iff_not_above.1 ties).1 (above b hb eligible)
  · rintro ⟨before, after, rfl, eligible, foremost, last⟩
    refine ⟨before, after, _, rfl, ranked?_eq_some_iff_eligible.2 ⟨eligible, rfl⟩, fun b hb y hy => ?_,
      fun b hb y hy => ?_⟩
    · obtain ⟨eligible, rfl⟩ := ranked?_eq_some_iff_eligible.1 hy
      exact givesWay_iff_not_above.2 (foremost b (List.mem_append_left _ hb) eligible)
    · obtain ⟨eligible, rfl⟩ := ranked?_eq_some_iff_eligible.1 hy
      have lower := foremost b (List.mem_append_right _ (List.mem_cons_of_mem _ hb)) eligible
      rw [← Bool.not_eq_true, givesWay_iff_not_above, not_not]
      by_contra level
      exact last b hb eligible (ties_iff_not_above.2 ⟨level, lower⟩)

theorem eligible_of_select (h : c.select tenant attempts = some a) : a ∈ attempts ∧ c.Eligible tenant a := by
  obtain ⟨before, after, rfl, eligible, -⟩ := select_eq_some_iff_foremost.1 h
  exact ⟨List.mem_append_right _ List.mem_cons_self, eligible⟩

theorem not_above_of_select (h : c.select tenant attempts = some a) (hb : b ∈ attempts)
    (eligible : c.Eligible tenant b) : ¬ c.Above b a := by
  obtain ⟨-, -, -, -, foremost, -⟩ := select_eq_some_iff_foremost.1 h
  exact foremost b hb eligible

/-! ### Permutations -/

/-- In whatever order the attempts come, those selected tie. -/
theorem ties_of_perm (perm : attempts.Perm others) (ha : c.select tenant attempts = some a)
    (hb : c.select tenant others = some b) : c.Ties a b := by
  obtain ⟨mem, eligible⟩ := eligible_of_select ha
  obtain ⟨mem', eligible'⟩ := eligible_of_select hb
  exact ties_iff_not_above.2 ⟨not_above_of_select hb (perm.mem_iff.1 mem) eligible,
    not_above_of_select ha (perm.mem_iff.2 mem') eligible'⟩

theorem select_eq_none_of_perm (perm : attempts.Perm others) (h : c.select tenant attempts = none) :
    c.select tenant others = none := by
  rw [select_eq_none_iff_ineligible] at h ⊢
  exact fun a mem => h a (perm.mem_iff.2 mem)

/-- The order makes no difference where eligible attempts that tie are the same. -/
theorem select_perm (perm : attempts.Perm others) (distinct : ∀ a ∈ attempts, ∀ b ∈ attempts,
    c.Eligible tenant a → c.Eligible tenant b → c.Ties a b → a = b) :
    c.select tenant others = c.select tenant attempts := by
  cases ha : c.select tenant attempts with
  | none => exact select_eq_none_of_perm perm ha
  | some a =>
    cases hb : c.select tenant others with
    | none =>
      rw [select_eq_none_of_perm perm.symm hb] at ha
      cases ha
    | some b =>
      obtain ⟨mem, eligible⟩ := eligible_of_select ha
      obtain ⟨mem', eligible'⟩ := eligible_of_select hb
      rw [distinct a mem b (perm.mem_iff.2 mem') eligible eligible' (ties_of_perm perm ha hb)]

/-- Nothing is selected exactly if no attempt is eligible; otherwise it is the eligible attempt that no other stands
above and that none behind it ties with. Lists of the same attempts, of which no two different eligible ones tie, have
the same one selected. -/
theorem selected_by_rank_and_time (c : Candidates) (tenant : Option Ident) (attempts : List Attempt) :
    (c.select tenant attempts = none ↔ ∀ a ∈ attempts, ¬ c.Eligible tenant a) ∧
    (∀ a, c.select tenant attempts = some a ↔ ∃ before after, attempts = before ++ a :: after ∧ c.Eligible tenant a ∧
      (∀ b ∈ attempts, c.Eligible tenant b → ¬ c.Above b a) ∧ ∀ b ∈ after, c.Eligible tenant b → ¬ c.Ties a b) ∧
    ∀ others, attempts.Perm others →
      (∀ a ∈ attempts, ∀ b ∈ attempts, c.Eligible tenant a → c.Eligible tenant b → c.Ties a b → a = b) →
      c.select tenant others = c.select tenant attempts :=
  ⟨select_eq_none_iff_ineligible, fun _ => select_eq_some_iff_foremost, fun _ => select_perm⟩

/-- An attempt of one payment, told by its number, operation, time and tenant. -/
def attemptOf (number : Nat) (operation : Operation) (created : Time.Moment) (tenant : Nat) : Attempt :=
  ⟨.given number, .given 2, .given 3, .given number, operation, none, none, some "A", .pending, none, created,
    .given tenant⟩

/-- Two authorizations, an older and a newer purchase, a capture, and the latest authorization, which is another
tenant's. -/
def assorted : List Attempt := [
  attemptOf 10 .authorize (.live 2) 7, attemptOf 11 .purchase (.live 1) 7, attemptOf 12 .capture (.live 6) 7,
  attemptOf 13 .authorize (.recorded ⟨0, 0⟩) 7, attemptOf 14 .authorize (.live 5) 8,
  attemptOf 15 .purchase (.live 4) 7]

/-- The later of the tenant's two authorizations is selected from either end, though a purchase is later. -/
theorem selected_from_either_end :
    let c := forEvent .authorisation
    let tenant := some (.given 7)
    assorted.Perm assorted.reverse ∧
      (∀ a ∈ assorted, ∀ b ∈ assorted, c.Eligible tenant a → c.Eligible tenant b → c.Ties a b → a = b) ∧
      c.select tenant assorted = some (attemptOf 10 .authorize (.live 2) 7) ∧
      c.select tenant assorted.reverse = some (attemptOf 10 .authorize (.live 2) 7) := by
  have perm : assorted.Perm assorted.reverse := (List.reverse_perm _).symm
  have distinct : ∀ a ∈ assorted, ∀ b ∈ assorted, (forEvent .authorisation).Eligible (some (.given 7)) a →
      (forEvent .authorisation).Eligible (some (.given 7)) b → (forEvent .authorisation).Ties a b → a = b := by
    decide
  obtain ⟨-, selected, unordered⟩ := selected_by_rank_and_time (forEvent .authorisation) (some (.given 7)) assorted
  have first : (forEvent .authorisation).select (some (.given 7)) assorted =
      some (attemptOf 10 .authorize (.live 2) 7) :=
    (selected _).2 ⟨[], assorted.tail, rfl, by decide, by decide, by decide⟩
  exact ⟨perm, distinct, first, (unordered _ perm distinct).trans first⟩

/-- Of attempts that tie, the last is selected, so that their order does make a difference. -/
example : (forEvent .refund).select none [attemptOf 10 .refund (.live 1) 7, attemptOf 11 .refund (.live 1) 7] =
    some (attemptOf 11 .refund (.live 1) 7) := by decide

end Notification.Candidates
end Reconciliation
