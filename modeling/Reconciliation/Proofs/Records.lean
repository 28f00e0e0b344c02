import Reconciliation.Proofs.Decoding
import Reconciliation.Proofs.Members

/-!
# Structures in objects

A structure is read from an object field by field: what stands behind the name of a field decides alone about the field,
and members with other keys count for nothing.

* `Field.Reads` says what an object gives for a field, `Record.Reads` what it gives for all fields.
* `Record.ofMembers_cons_iff` splits the first field off; `ofMembers_eq_ok_iff` is the statement about all fields.
* `Record.ofMembers_congr`: objects that agree on the names of the fields are read alike, faults included.
* `Record.ofItems_eq_ok_iff` is the same for arrays, and `from_of_ofValue` says of both that fields come from the parts.
-/

namespace Reconciliation.Json

variable {α β : Type} {ts : List Type} {m n : Members} {key : String} {v : Value}

namespace Decoder

theorem optional_eq_map {d : Decoder α} (h : v ≠ .null) : d.optional.ofValue v = (d.ofValue v).map some := by
  cases v with
  | null => exact absurd rfl h
  | bool | number | string | array | object => rfl

theorem optional_eq_none_iff {d : Decoder α} : d.optional.ofValue v = .ok none ↔ v = .null := by
  by_cases h : v = .null
  · subst h
    exact ⟨fun _ => rfl, fun _ => rfl⟩
  · simp [optional_eq_map h, map_eq_ok_iff, h]

theorem optional_eq_some_iff {d : Decoder α} {a : α} :
    d.optional.ofValue v = .ok (some a) ↔ v ≠ .null ∧ d.ofValue v = .ok a := by
  by_cases h : v = .null
  · subst h
    exact ⟨nofun, fun both => absurd rfl both.1⟩
  · simp [optional_eq_map h, map_eq_ok_iff, h]

end Decoder

/-! ### One field -/

namespace Field

/-- What an object gives for a field: what is behind its name, or else what stands for absence. -/
def Reads (f : Field α) (m : Members) (a : α) : Prop :=
  match m.get? f.name with
  | some v => f.decoder.ofValue v = .ok a
  | none => f.absent = some a

/-- The field is read from a value with the property, or it is what stands for absence. -/
def From (Q : Value → Prop) (f : Field α) (a : α) : Prop :=
  (∃ v, Q v ∧ f.decoder.ofValue v = .ok a) ∨ f.absent = some a ∨ f.trailing = some a

/-- Takes a member, if it belongs to the field. -/
def take (f : Field α) (slot : Option α) (entry : String × Value) : Except Cause (Option α) :=
  if f.name = entry.1 then (f.decoder.ofValue entry.2).map some else .ok slot

theorem foldlM_take_of_none {f : Field α} (h : m.get? f.name = none) (slot : Option α) :
    m.foldlM f.take slot = .ok slot := by
  induction m with
  | nil => rfl
  | cons entry m ih =>
    rw [Members.get?_cons] at h
    split at h
    · cases h
    · next differ =>
      rw [List.foldlM_cons, take, if_neg (Ne.symm differ)]
      exact ih h

/-- Of the members of an object, that with the name of the field is taken. -/
theorem foldlM_take_iff {f : Field α} (asc : m.Ascending) {slot found : Option α} :
    m.foldlM f.take slot = .ok found ↔
      match m.get? f.name with
      | some v => ∃ a, f.decoder.ofValue v = .ok a ∧ found = some a
      | none => found = slot := by
  induction m generalizing slot with
  | nil => exact ⟨fun h => (Except.ok.inj h).symm, fun h => congrArg _ (Eq.symm h)⟩
  | cons entry m ih =>
    obtain ⟨above, rest⟩ := List.pairwise_cons.1 asc
    rw [List.foldlM_cons, take, Members.get?_cons]
    by_cases same : entry.1 = f.name
    · have absent : Members.get? m f.name = none :=
        Members.get?_eq_none_iff.2 fun other mem here => ne_of_lt (above _ mem) (same.trans here.symm)
      rw [if_pos same.symm, if_pos same]
      dsimp only
      cases f.decoder.ofValue entry.2 with
      | error c => exact ⟨nofun, fun ⟨_, h, _⟩ => nomatch h⟩
      | ok a =>
        have taken : m.foldlM f.take (some a) = .ok (some a) := foldlM_take_of_none absent _
        rw [Except.map, show ((Except.ok (some a) : Except Cause _) >>= fun slot => m.foldlM f.take slot) =
          m.foldlM f.take (some a) from rfl, taken]
        simp [eq_comm]
    · rw [if_neg (Ne.symm same), if_neg same]
      exact ih rest

theorem required_reads_iff {d : Decoder α} {a : α} :
    (required key d).Reads m a ↔ ∃ v, m.get? key = some v ∧ d.ofValue v = .ok a := by
  rw [Reads, required]
  cases m.get? key <;> simp

/-- A field that may be `null` is empty where it is absent or `null`. -/
theorem reads_none_iff {d : Decoder α} :
    (defaulted key d.optional none).Reads m none ↔ m.get? key = none ∨ m.get? key = some .null := by
  rw [Reads, defaulted]
  cases m.get? key with
  | none => simp
  | some v => simp [Decoder.optional_eq_none_iff]

theorem reads_some_iff {d : Decoder α} {a : α} :
    (defaulted key d.optional none).Reads m (some a) ↔ ∃ v, m.get? key = some v ∧ v ≠ .null ∧ d.ofValue v = .ok a := by
  rw [Reads, defaulted]
  cases m.get? key with
  | none => simp
  | some v => simp [Decoder.optional_eq_some_iff]

theorem map_reads_iff {d : Decoder α} {f : α → β} {a : α} {b : β} :
    (defaulted key (d.map f) (f a)).Reads m b ↔ ∃ c, (defaulted key d a).Reads m c ∧ f c = b := by
  rw [Reads, defaulted]
  simp only [Reads, defaulted]
  cases m.get? key with
  | none => simp
  | some v => exact Decoder.ofValue_map_iff

theorem reads_iff {f : Field α} (asc : m.Ascending) {a : α} :
    f.Reads m a ↔ ∃ slot, m.foldlM f.take none = .ok slot ∧ slot.or f.absent = some a := by
  simp only [foldlM_take_iff asc, Reads]
  split
  · simp
  · simp

end Field

/-! ### All fields -/

namespace Record

/-- The names of the fields. -/
def names : {ts : List Type} → Record ts → List String
  | _, .nil => []
  | _, .cons field rest => field.name :: names rest

/-- What an object gives for the fields. -/
def Reads : {ts : List Type} → Record ts → Members → Row ts → Prop
  | _, .nil, _, _ => True
  | _, .cons field rest, m, (a, row) => field.Reads m a ∧ rest.Reads m row

theorem takeMember_of_not_mem : ∀ {ts : List Type} (fields : Record ts), key ∉ fields.names → ∀ slots : Slots ts,
    fields.takeMember key v slots = .ok slots
  | _, .nil, _, _ => rfl
  | _, .cons field rest, h, (slot, slots) => by
    simp only [names, List.mem_cons, not_or] at h
    rw [takeMember, if_neg (Ne.symm h.1), takeMember_of_not_mem rest h.2]
    rfl

theorem ok_pair_iff {found slot : Option α} {slots others : Slots ts} :
    (.ok (slot, slots) : Except Cause (Slots (α :: ts))) = .ok (found, others) ↔ slot = found ∧ slots = others := by
  refine ⟨fun h => Prod.mk.inj (Except.ok.inj h), ?_⟩
  rintro ⟨rfl, rfl⟩
  rfl

/-- Members that belong to no field count for nothing. -/
theorem ofMembers_filter (fields : Record ts) (m : Members) :
    fields.ofMembers (m.filter fun entry => entry.1 ∈ fields.names) = fields.ofMembers m := by
  refine congrArg (· >>= fields.close) ?_
  generalize fields.start = slots
  induction m generalizing slots with
  | nil => rfl
  | cons entry m ih =>
    rw [List.filter_cons, List.foldlM_cons]
    split
    · rw [List.foldlM_cons]
      exact congrArg _ (funext ih)
    · next unknown =>
      rw [takeMember_of_not_mem fields (by simpa using unknown), ih]
      rfl

theorem takeMember_cons_iff {field : Field α} {rest : Record ts} (distinct : field.name ∉ rest.names)
    {entry : String × Value} {slot found : Option α} {slots others : Slots ts} :
    (Record.cons field rest).takeMember entry.1 entry.2 (slot, slots) = .ok (found, others) ↔
      field.take slot entry = .ok found ∧ rest.takeMember entry.1 entry.2 slots = .ok others := by
  rw [takeMember, Field.take]
  split
  · next same =>
    rw [takeMember_of_not_mem rest (same ▸ distinct)]
    cases field.decoder.ofValue entry.2 with
    | error c =>
      constructor
      · intro h
        cases h
      · rintro ⟨h, -⟩
        cases h
    | ok a => exact ok_pair_iff.trans (by simp [Except.map])
  · cases rest.takeMember entry.1 entry.2 slots with
    | error c =>
      constructor
      · intro h
        cases h
      · rintro ⟨-, h⟩
        cases h
    | ok b => exact ok_pair_iff.trans (by simp)

/-- Each field takes its own members. -/
theorem foldlM_takeMember_cons_iff {field : Field α} {rest : Record ts} (distinct : field.name ∉ rest.names)
    (m : Members) {slot found : Option α} {slots others : Slots ts} :
    m.foldlM (fun slots entry => (Record.cons field rest).takeMember entry.1 entry.2 slots) (slot, slots) =
        .ok (found, others) ↔
      m.foldlM field.take slot = .ok found ∧
        m.foldlM (fun slots entry => rest.takeMember entry.1 entry.2 slots) slots = .ok others := by
  induction m generalizing slot slots with
  | nil => exact ok_pair_iff.trans (by simp [pure, Except.pure])
  | cons entry m ih =>
    simp only [List.foldlM_cons]
    constructor
    · intro h
      obtain ⟨⟨a, b⟩, taken, h⟩ := ok_of_bind h
      obtain ⟨own, others⟩ := (takeMember_cons_iff distinct).1 taken
      obtain ⟨first, more⟩ := ih.1 h
      exact ⟨bind_eq_ok_iff.2 ⟨a, own, first⟩, bind_eq_ok_iff.2 ⟨b, others, more⟩⟩
    · rintro ⟨first, more⟩
      obtain ⟨a, own, first⟩ := ok_of_bind first
      obtain ⟨b, others, more⟩ := ok_of_bind more
      exact bind_eq_ok_iff.2 ⟨(a, b), (takeMember_cons_iff distinct).2 ⟨own, others⟩, ih.2 ⟨first, more⟩⟩

theorem close_cons_iff {field : Field α} {rest : Record ts} {slot : Option α} {slots : Slots ts} {a : α}
    {row : Row ts} : (Record.cons field rest).close (slot, slots) = .ok (a, row) ↔
      slot.or field.absent = some a ∧ rest.close slots = .ok row := by
  rw [close]
  cases slot.or field.absent with
  | none =>
    constructor
    · intro h
      cases h
    · rintro ⟨h, -⟩
      cases h
  | some b =>
    refine bind_eq_ok_iff.trans ⟨?_, ?_⟩
    · rintro ⟨others, closed, h⟩
      cases h
      exact ⟨rfl, closed⟩
    · rintro ⟨⟨⟩, closed⟩
      exact ⟨row, closed, rfl⟩

/-- The first field and the others are read by themselves. -/
theorem ofMembers_cons_iff {field : Field α} {rest : Record ts} (distinct : field.name ∉ rest.names) (asc : m.Ascending)
    {a : α} {row : Row ts} :
    (Record.cons field rest).ofMembers m = .ok (a, row) ↔ field.Reads m a ∧ rest.ofMembers m = .ok row := by
  constructor
  · intro h
    obtain ⟨⟨slot, slots⟩, taken, closed⟩ := ok_of_bind h
    obtain ⟨first, more⟩ := (foldlM_takeMember_cons_iff distinct m).1 taken
    obtain ⟨here, closed⟩ := close_cons_iff.1 closed
    exact ⟨Field.reads_iff asc |>.2 ⟨slot, first, here⟩, bind_eq_ok_iff.2 ⟨slots, more, closed⟩⟩
  · rintro ⟨first, more⟩
    obtain ⟨slot, first, here⟩ := (Field.reads_iff asc).1 first
    obtain ⟨slots, more, closed⟩ := ok_of_bind more
    exact bind_eq_ok_iff.2 ⟨(slot, slots), (foldlM_takeMember_cons_iff distinct m).2 ⟨first, more⟩,
      close_cons_iff.2 ⟨here, closed⟩⟩

/-- A structure is read from an object exactly if each of its fields is. -/
theorem ofMembers_eq_ok_iff : ∀ {ts : List Type} {fields : Record ts} {row : Row ts}, fields.names.Nodup → m.Ascending →
    (fields.ofMembers m = .ok row ↔ fields.Reads m row)
  | _, .nil, (), _, _ => by
    have none : m.filter (fun entry => entry.1 ∈ Record.nil.names) = [] := by simp [names]
    refine ⟨fun _ => trivial, fun _ => ?_⟩
    rw [← ofMembers_filter, none]
    rfl
  | _, .cons field rest, (a, row), distinct, asc => by
    obtain ⟨here, distinct⟩ := List.nodup_cons.1 distinct
    rw [ofMembers_cons_iff here asc, ofMembers_eq_ok_iff distinct asc]
    exact Iff.rfl

/-- Objects that agree on the names of the fields are read alike, faults included. -/
theorem ofMembers_congr {fields : Record ts} (hm : m.Ascending) (hn : n.Ascending)
    (h : ∀ name ∈ fields.names, m.get? name = n.get? name) : fields.ofMembers m = fields.ofMembers n := by
  rw [← ofMembers_filter fields m, ← ofMembers_filter fields n]
  refine congrArg _ (Members.ext_of_get? (List.Pairwise.filter _ hm) (List.Pairwise.filter _ hn) fun name => ?_)
  rw [Members.get?_filter (decide <| · ∈ fields.names), Members.get?_filter (decide <| · ∈ fields.names)]
  split
  · next known => exact h name (by simpa using known)
  · rfl

/-! ### Arrays -/

/-- What the items of an array give for the fields, one after another, where these are left over. -/
def ReadsItems : {ts : List Type} → Record ts → (items left : List Value) → Row ts → Prop
  | _, .nil, items, left, _ => items = left
  | _, .cons field rest, v :: items, left, (a, row) => field.decoder.ofValue v = .ok a ∧ rest.ReadsItems items left row
  | _, .cons field rest, [], left, (a, row) => field.trailing = some a ∧ rest.ReadsItems [] left row

theorem triple_iff {a b : α} {row : Row ts} {left : List Value} {x : Row ts × List Value} :
    (((b, x.1), x.2) : Row (α :: ts) × List Value) = ((a, row), left) ↔ b = a ∧ x = (row, left) := by
  constructor
  · intro h
    cases h
    exact ⟨rfl, rfl⟩
  · rintro ⟨rfl, rfl⟩
    rfl

/-- The first item is that of the first field. -/
theorem itemsValue_cons_iff {expected : String} {field : Field α} {rest : Record ts} {i : Nat} {items left : List Value}
    {a : α} {row : Row ts} :
    (Record.cons field rest).itemsValue expected i (v :: items) = .ok ((a, row), left) ↔
      field.decoder.ofValue v = .ok a ∧ rest.itemsValue expected (i + 1) items = .ok (row, left) := by
  cases first : field.decoder.ofValue v with
  | error c => simp [itemsValue, first, bind, Except.bind]
  | ok b =>
    cases more : rest.itemsValue expected (i + 1) items with
    | error c => simp [itemsValue, first, more, bind, Except.bind, pure, Except.pure]
    | ok x =>
      simp only [itemsValue, first, more, bind, Except.bind, pure, Except.pure, Except.ok.injEq]
      exact triple_iff

/-- Where no item is left, the first field takes what stands for it. -/
theorem itemsValue_nil_iff {expected : String} {field : Field α} {rest : Record ts} {i : Nat} {left : List Value}
    {a : α} {row : Row ts} : (Record.cons field rest).itemsValue expected i [] = .ok ((a, row), left) ↔
      field.trailing = some a ∧ rest.itemsValue expected (i + 1) [] = .ok (row, left) := by
  cases trailing : field.trailing with
  | none => simp [itemsValue, trailing, bind, Except.bind]
  | some b =>
    cases more : rest.itemsValue expected (i + 1) [] with
    | error c => simp [itemsValue, trailing, more, bind, Except.bind, pure, Except.pure]
    | ok x =>
      simp only [itemsValue, trailing, more, bind, Except.bind, pure, Except.pure, Except.ok.injEq, Option.some.injEq]
      exact triple_iff

theorem itemsValue_eq_ok_iff {expected : String} : ∀ {ts : List Type} {fields : Record ts} {i : Nat}
    {items left : List Value} {row : Row ts},
    fields.itemsValue expected i items = .ok (row, left) ↔ fields.ReadsItems items left row
  | _, .nil, _, items, left, () => by
    refine ⟨fun h => (Prod.mk.inj (Except.ok.inj h)).2, ?_⟩
    rintro rfl
    rfl
  | _, .cons field rest, i, v :: items, left, (a, row) =>
    itemsValue_cons_iff.trans (and_congr_right fun _ => itemsValue_eq_ok_iff)
  | _, .cons field rest, i, [], left, (a, row) =>
    itemsValue_nil_iff.trans (and_congr_right fun _ => itemsValue_eq_ok_iff)

theorem ofItems_eq_ok_iff {name : String} {fields : Record ts} {items : List Value} {row : Row ts} :
    fields.ofItems name items = .ok row ↔ fields.ReadsItems items [] row := by
  constructor
  · intro h
    obtain ⟨⟨found, left⟩, read, h⟩ := ok_of_bind h
    dsimp only at h
    split at h
    · next none =>
      cases h
      rw [List.isEmpty_iff.1 none] at read
      exact itemsValue_eq_ok_iff.1 read
    · cases h
  · exact fun h => bind_eq_ok_iff.2 ⟨(row, []), itemsValue_eq_ok_iff.2 h, rfl⟩

/-! ### Where fields come from -/

/-- All fields are. -/
def From (Q : Value → Prop) : {ts : List Type} → Record ts → Row ts → Prop
  | _, .nil, _ => True
  | _, .cons field rest, (a, row) => field.From Q a ∧ rest.From Q row

variable {Q : Value → Prop}

theorem from_of_reads (all : ∀ entry ∈ m, Q entry.2) : ∀ {ts : List Type} {fields : Record ts} {row : Row ts},
    fields.Reads m row → fields.From Q row
  | _, .nil, _, _ => trivial
  | _, .cons _ _, (_, _), h => by
    obtain ⟨first, more⟩ := h
    refine ⟨?_, from_of_reads all more⟩
    rw [Field.Reads] at first
    split at first
    · next v found => exact .inl ⟨v, all _ (Members.mem_of_get? found), first⟩
    · exact .inr (.inl first)

theorem from_of_readsItems : ∀ {ts : List Type} {fields : Record ts} {items left : List Value} {row : Row ts},
    (∀ v ∈ items, Q v) → fields.ReadsItems items left row → fields.From Q row
  | _, .nil, _, _, _, _, _ => trivial
  | _, .cons _ _, _ :: _, _, (_, _), all, h => by
    obtain ⟨first, more⟩ := h
    obtain ⟨here, others⟩ := List.forall_mem_cons.1 all
    exact ⟨.inl ⟨_, here, first⟩, from_of_readsItems others more⟩
  | _, .cons _ _, [], _, (_, _), all, h => by
    obtain ⟨first, more⟩ := h
    exact ⟨.inr (.inr first), from_of_readsItems all more⟩

/-- A structure in a value is read from the parts of the value. -/
theorem from_of_ofValue {name : String} {fields : Record ts} {row : Row ts} (distinct : fields.names.Nodup)
    (object : ∀ m : Members, v = .object m → m.Ascending ∧ ∀ entry ∈ m, Q entry.2)
    (array : ∀ items, v = .array items → ∀ w ∈ items, Q w)
    (h : (fields.decoder name).ofValue v = .ok row) : fields.From Q row := by
  cases v with
  | object m => exact from_of_reads (object m rfl).2 ((ofMembers_eq_ok_iff distinct (object m rfl).1).1 h)
  | array items => exact from_of_readsItems (array items rfl) (ofItems_eq_ok_iff.1 h)
  | null | bool | number | string => cases h

end Record
end Reconciliation.Json
