/-!
# Maps

A map has one value for each of its keys. It is kept as a list of entries, of which no two have the same key.

* `Map.get?` looks a key up.
* `Map.insert` gives a key a value, in the place of the one that it may have had.
-/

namespace Reconciliation

structure Map (α β : Type) where
  entries : List (α × β)
  distinct : (entries.map Prod.fst).Nodup
  deriving Repr, DecidableEq

namespace Map

variable {α β : Type}

def empty : Map α β := ⟨[], List.nodup_nil⟩

/-- The number of keys. -/
def size (m : Map α β) : Nat := m.entries.length

variable [DecidableEq α]

def get? (m : Map α β) (key : α) : Option β := m.entries.lookup key

/-- The entries of the other keys. -/
def others (m : Map α β) (key : α) : List (α × β) := m.entries.filter (·.1 ≠ key)

theorem distinct_insert (m : Map α β) (key : α) (value : β) : (((key, value) :: m.others key).map Prod.fst).Nodup := by
  refine List.nodup_cons.2 ⟨fun among => ?_, m.distinct.sublist (List.filter_sublist.map _)⟩
  obtain ⟨e, he, same⟩ := List.mem_map.1 among
  exact of_decide_eq_true (List.mem_filter.1 he).2 same

def insert (m : Map α β) (key : α) (value : β) : Map α β := ⟨(key, value) :: m.others key, m.distinct_insert key value⟩

theorem lookup_others (m : Map α β) {key other : α} (h : other ≠ key) :
    (m.others key).lookup other = m.entries.lookup other := by
  unfold others
  induction m.entries with
  | nil => rfl
  | cons e rest ih =>
    by_cases same : e.1 = key
    · have passed : (other == e.1) = false := by simpa [same] using h
      rw [List.filter_cons_of_neg (by simpa using same), ih, List.lookup_cons, passed]
    · rw [List.filter_cons_of_pos (by simpa using same), List.lookup_cons, List.lookup_cons, ih]

/-- An insertion gives the key its value and leaves the others theirs. -/
theorem get?_insert (m : Map α β) (key other : α) (value : β) :
    (m.insert key value).get? other = if other = key then some value else m.get? other := by
  unfold get? insert
  rw [List.lookup_cons]
  by_cases h : other = key
  · rw [if_pos h, beq_iff_eq.2 h]
  · rw [if_neg h, beq_false_of_ne h, m.lookup_others h]

/-- A new key is one more. -/
theorem size_insert (m : Map α β) {key : α} (value : β) (new : m.get? key = none) :
    (m.insert key value).size = m.size + 1 := by
  have all : m.others key = m.entries := by
    refine List.filter_eq_self.2 fun e he => ?_
    exact decide_eq_true (bne_iff_ne.1 (List.lookup_eq_none_iff.1 new e he)).symm
  rw [size, insert, List.length_cons, all, size]

end Map
end Reconciliation
