import Mathlib.Data.List.Perm.Basic
import Mathlib.Data.String.Basic
import Reconciliation.Json.Value

/-!
# Members in order

The members of an object stand in ascending order of their keys, each key once. Then what stands behind the keys says
all about them.

* `Members.Ascending` is this order; `ascending_insert` and `ascending_ofList` keep and make it.
* `Members.get?_insert` and `get?_ofList_of_mem` say what stands behind a key.
* `Members.ext_of_get?`: what is behind each key determines the members.
-/

namespace Reconciliation.Json.Members

variable {m n : Members} {key : String} {v : Value}

/-- The keys are in ascending order, each key once. -/
def Ascending (m : Members) : Prop := m.Pairwise (·.1 < ·.1)

/-! ### What stands behind a key -/

@[simp] theorem get?_nil (key : String) : get? [] key = none := rfl

theorem get?_cons (entry : String × Value) (m : Members) (key : String) :
    get? (entry :: m) key = if entry.1 = key then some entry.2 else get? m key := by
  rw [get?, List.find?_cons]
  by_cases same : entry.1 = key
  · simp [same]
  · simp [same, beq_eq_false_iff_ne.2 same, get?]

theorem get?_eq_none_iff : m.get? key = none ↔ ∀ entry ∈ m, entry.1 ≠ key := by
  simp [get?]

theorem mem_of_get? (h : m.get? key = some v) : (key, v) ∈ m := by
  obtain ⟨entry, found, rfl⟩ := Option.map_eq_some_iff.1 h
  have same : entry.1 = key := by simpa using List.find?_some found
  exact same ▸ List.mem_of_find?_eq_some found

theorem Ascending.get?_eq_some_iff (h : m.Ascending) : m.get? key = some v ↔ (key, v) ∈ m := by
  induction m with
  | nil => simp
  | cons entry m ih =>
    obtain ⟨above, rest⟩ := List.pairwise_cons.1 h
    rw [get?_cons, List.mem_cons]
    split
    · next same =>
      have absent : (key, v) ∉ m := fun mem => ne_of_lt (above _ mem) same
      rw [or_iff_left absent, ← same]
      simp [Prod.ext_iff, eq_comm]
    · next differ => rw [ih rest, or_iff_right fun same => differ (by rw [← same])]

theorem get?_filter (p : String → Bool) (m : Members) (key : String) :
    get? (m.filter fun entry => p entry.1) key = if p key then m.get? key else none := by
  induction m with
  | nil => simp
  | cons entry m ih =>
    rw [List.filter_cons]
    by_cases same : entry.1 = key
    · subst same
      cases hp : p entry.1 <;> simp [get?_cons, ih, hp]
    · split <;> simp [get?_cons, ih, same]

theorem Ascending.nodup (h : m.Ascending) : List.Nodup m := by
  refine List.Pairwise.imp (fun {a b} lt same => ?_) h
  exact ne_of_lt lt (by rw [same])

/-- What is behind each key determines the members. -/
theorem ext_of_get? (hm : m.Ascending) (hn : n.Ascending) (h : ∀ key, m.get? key = n.get? key) : m = n := by
  have perm : m.Perm n := (List.perm_ext_iff_of_nodup hm.nodup hn.nodup).2 fun (key, v) => by
    rw [← hm.get?_eq_some_iff, h key, hn.get?_eq_some_iff]
  have apart (a b : String × Value) (_ : a ∈ m) (_ : b ∈ n) (lt : a.1 < b.1) (gt : b.1 < a.1) : a = b :=
    absurd gt (lt_asymm lt)
  exact perm.eq_of_pairwise apart hm hn

/-! ### Insertion -/

theorem get?_insert (key : String) (v : Value) (m : Members) (other : String) :
    get? (insert key v m) other = if key = other then some v else m.get? other := by
  induction m with
  | nil => simp [insert, get?_cons]
  | cons entry m ih =>
    obtain ⟨k, u⟩ := entry
    rw [insert]
    split
    · exact get?_cons _ _ _
    · split
      · next same =>
        subst same
        rw [get?_cons, get?_cons]
        split <;> rfl
      · next differ =>
        rw [get?_cons, get?_cons, ih]
        by_cases here : k = other
        · subst here
          simp [differ]
        · simp [here]

theorem mem_insert {entry : String × Value} (h : entry ∈ insert key v m) : entry = (key, v) ∨ entry ∈ m := by
  induction m with
  | nil => simpa [insert] using h
  | cons first m ih =>
    rw [insert] at h
    split at h
    · exact List.mem_cons.1 h
    · split at h
      · exact (List.mem_cons.1 h).imp_right (List.mem_cons_of_mem _)
      · rcases List.mem_cons.1 h with rfl | h
        · exact .inr List.mem_cons_self
        · exact (ih h).imp_right (List.mem_cons_of_mem _)

theorem ascending_insert (h : m.Ascending) (key : String) (v : Value) : (insert key v m).Ascending := by
  induction m with
  | nil => exact List.pairwise_singleton _ _
  | cons first m ih =>
    obtain ⟨above, rest⟩ := List.pairwise_cons.1 h
    rw [insert]
    split
    · next lt =>
      refine List.pairwise_cons.2 ⟨fun entry mem => ?_, h⟩
      rcases List.mem_cons.1 mem with rfl | mem
      · exact lt
      · exact lt_trans lt (above _ mem)
    · split
      · next same =>
        subst same
        exact List.pairwise_cons.2 ⟨above, rest⟩
      · next notBelow differ =>
        refine List.pairwise_cons.2 ⟨fun entry mem => ?_, ih rest⟩
        rcases mem_insert mem with rfl | mem
        · exact lt_of_le_of_ne (not_lt.1 notBelow) (Ne.symm differ)
        · exact above _ mem

/-! ### Members of pairs -/

theorem ascending_foldl_insert (pairs : List (String × Value)) (h : m.Ascending) :
    Ascending (pairs.foldl (fun m p => insert p.1 p.2 m) m) := by
  induction pairs generalizing m with
  | nil => exact h
  | cons p pairs ih => exact ih (ascending_insert h _ _)

theorem ascending_ofList (pairs : List (String × Value)) : (ofList pairs).Ascending :=
  ascending_foldl_insert pairs .nil

theorem get?_foldl_insert_of_not_mem {pairs : List (String × Value)} (h : key ∉ pairs.map (·.1)) (m : Members) :
    get? (pairs.foldl (fun m p => insert p.1 p.2 m) m) key = m.get? key := by
  induction pairs generalizing m with
  | nil => rfl
  | cons p pairs ih =>
    simp only [List.map_cons, List.mem_cons, not_or] at h
    rw [List.foldl_cons, ih h.2, get?_insert, if_neg (Ne.symm h.1)]

theorem get?_foldl_insert_of_mem {pairs : List (String × Value)} (distinct : (pairs.map (·.1)).Nodup)
    (h : (key, v) ∈ pairs) (m : Members) :
    get? (pairs.foldl (fun m p => insert p.1 p.2 m) m) key = some v := by
  induction pairs generalizing m with
  | nil => cases h
  | cons p pairs ih =>
    rw [List.map_cons, List.nodup_cons] at distinct
    rw [List.foldl_cons]
    rcases List.mem_cons.1 h with rfl | h
    · rw [get?_foldl_insert_of_not_mem distinct.1, get?_insert, if_pos rfl]
    · exact ih distinct.2 h _

/-- Of pairs with different keys, each is found. -/
theorem get?_ofList_of_mem {pairs : List (String × Value)} (distinct : (pairs.map (·.1)).Nodup) (h : (key, v) ∈ pairs) :
    (ofList pairs).get? key = some v :=
  get?_foldl_insert_of_mem distinct h []

end Reconciliation.Json.Members
