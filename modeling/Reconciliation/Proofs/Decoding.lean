import Reconciliation.Json.Decoder

/-!
# What decoders yield

A structure is read from a text or from a value, from an object or from an array, with its fields in any order. Wherever
it comes from, each of its fields is either what stands for absence or what the decoder of the field yields.

* `Reader.Gives` says that some text is read as a result, `Decoder.Yields` that some text or some value is.
* `Reader.Gives.members`: what each member of an object keeps, the whole object keeps.
* `Record.yields_of_decoder` is the statement about structures.
-/

namespace Reconciliation.Json

variable {α β : Type}

theorem ok_of_bind {ε : Type} {x : Except ε α} {f : α → Except ε β} {b : β} (h : x.bind f = .ok b) :
    ∃ a, x = .ok a ∧ f a = .ok b := by
  cases x with
  | error => cases h
  | ok a => exact ⟨a, rfl, h⟩

theorem bind_eq_ok_iff {ε : Type} {x : Except ε α} {f : α → Except ε β} {b : β} :
    x.bind f = .ok b ↔ ∃ a, x = .ok a ∧ f a = .ok b :=
  ⟨ok_of_bind, fun ⟨a, hx, hf⟩ => by rw [hx]; exact hf⟩

theorem map_eq_ok_iff {ε : Type} {x : Except ε α} {f : α → β} {b : β} :
    x.map f = .ok b ↔ ∃ a, x = .ok a ∧ f a = b := by
  cases x <;> simp [Except.map]

theorem exists_map_eq_ok_iff {ε : Type} {x : Except ε α} {f : α → β} : (∃ b, x.map f = .ok b) ↔ ∃ a, x = .ok a := by
  cases x <;> simp [Except.map]

/-! ### Readers -/

namespace Reader

/-- Some text is read as `a`. -/
def Gives (r : Reader α) (a : α) : Prop := ∃ s rest, r s = .ok (a, rest)

theorem Gives.bind {r : Reader α} {f : α → Reader β} {b : β} (h : (r >>= f).Gives b) :
    ∃ a, r.Gives a ∧ (f a).Gives b := by
  obtain ⟨s, rest, h⟩ := h
  obtain ⟨⟨a, t⟩, first, second⟩ := ok_of_bind h
  exact ⟨a, ⟨s, t, first⟩, ⟨t, rest, second⟩⟩

theorem Gives.pure {a b : α} (h : (Pure.pure b : Reader α).Gives a) : a = b := by
  obtain ⟨_, _, ⟨⟩⟩ := h
  rfl

theorem gives_of_run {r : Reader α} {text : Text.Utf8.Bytes} {a : α} (h : r.run text = .ok a) : r.Gives a := by
  rw [run] at h
  split at h
  · next read =>
    cases h
    obtain ⟨b, given, finished⟩ := Gives.bind ⟨_, _, read⟩
    obtain ⟨_, -, finished⟩ := finished.bind
    rwa [finished.pure]
  · cases h

theorem not_gives_fail {c : Cause} {a : α} : ¬ (fail c : Reader α).Gives a := by
  rintro ⟨_, _, ⟨⟩⟩

theorem not_gives_refuse {c : Cause} {a : α} : ¬ (refuse c : Reader α).Gives a := by
  rintro ⟨_, _, ⟨⟩⟩

theorem not_gives_failBehindKey {c : Cause} {a : α} : ¬ (failBehindKey c : Reader α).Gives a := fun h => by
  obtain ⟨next, -, h⟩ := h.bind
  split at h
  · obtain ⟨_, -, h⟩ := h.bind
    exact not_gives_fail h
  · exact not_gives_fail h

theorem not_gives_mismatch {expected : String} {a : α} : ¬ (mismatch expected : Reader α).Gives a := fun h => by
  obtain ⟨_, -, h⟩ := h.bind
  exact not_gives_fail h

theorem Gives.ofExcept {x : Except Cause α} {a : α} (h : (Reader.ofExcept x).Gives a) : x = .ok a := by
  cases x with
  | error => exact absurd h not_gives_fail
  | ok b => rw [h.pure]

theorem Gives.deeper {levels : Nat} {r : Nat → Reader α} {a : α} (h : (Reader.deeper levels r).Gives a) :
    ∃ n, (r n).Gives a := by
  cases levels with
  | zero => obtain ⟨_, _, ⟨⟩⟩ := h
  | succ n => exact ⟨n, h⟩

/-- What each member keeps, all members keep. -/
theorem Gives.members {P : α → Prop} {member : String → α → Reader α}
    (step : ∀ key a b, P a → (member key a).Gives b → P b) {fuel : Nat} {first : Bool} {a b : α} (start : P a)
    (h : (Reader.members member fuel first a).Gives b) : P b := by
  induction fuel generalizing first a with
  | zero => rwa [h.pure]
  | succ fuel ih =>
    obtain ⟨s, rest, h⟩ := h
    rw [Reader.members] at h
    dsimp only at h
    split at h
    · cases h
    · cases h
      exact start
    · split at h
      · cases h
      · next taken =>
        obtain ⟨key, -, given⟩ := Gives.bind ⟨_, _, taken⟩
        exact ih (step key a _ start given) ⟨_, _, h⟩

theorem Gives.objectOf {P : α → Prop} {member : String → α → Reader α}
    (step : ∀ key a b, P a → (member key a).Gives b → P b) {a b : α} (start : P a)
    (h : (Reader.objectOf member a).Gives b) : P b := by
  obtain ⟨_, -, h⟩ := h.bind
  obtain ⟨_, -, h⟩ := h.bind
  obtain ⟨c, members, h⟩ := h.bind
  obtain ⟨_, -, h⟩ := h.bind
  rw [h.pure]
  exact members.members step start

end Reader

/-! ### Decoders -/

namespace Decoder

/-- Some text or some value is read as `a`. -/
def Yields (d : Decoder α) (a : α) : Prop := (∃ levels, (d.ofText levels).Gives a) ∨ ∃ v, d.ofValue v = .ok a

theorem yields_of_parse {d : Decoder α} {text : Text.Utf8.Bytes} {a : α} (h : d.parse text = .ok a) : d.Yields a :=
  .inl ⟨maxLevels, Reader.gives_of_run h⟩

theorem Yields.map {d : Decoder α} {f : α → β} {b : β} (h : (d.map f).Yields b) : ∃ a, d.Yields a ∧ f a = b := by
  rcases h with ⟨levels, h⟩ | ⟨v, h⟩
  · obtain ⟨a, given, h⟩ := h.bind
    exact ⟨a, .inl ⟨levels, given⟩, h.pure.symm⟩
  · obtain ⟨a, given, h⟩ := ok_of_bind h
    cases h
    exact ⟨a, .inr ⟨v, given⟩, rfl⟩

theorem ofValue_map_iff {d : Decoder α} {f : α → β} {v : Value} {b : β} :
    (d.map f).ofValue v = .ok b ↔ ∃ a, d.ofValue v = .ok a ∧ f a = b := by
  refine bind_eq_ok_iff.trans (exists_congr fun a => and_congr_right fun _ => ?_)
  exact ⟨Except.ok.inj, congrArg _⟩

end Decoder

/-! ### Structures -/

/-- What a field may hold. -/
def Field.Yields (f : Field α) (a : α) : Prop := f.decoder.Yields a ∨ f.absent = some a ∨ f.trailing = some a

namespace Record

open Reader

/-- Each field holds what it may hold. -/
def Yields : {ts : List Type} → Record ts → Row ts → Prop
  | _, .nil, _ => True
  | _, .cons field rest, (a, row) => field.Yields a ∧ rest.Yields row

/-- What has been found for a field is what its decoder yields. -/
def Fills : {ts : List Type} → Record ts → Slots ts → Prop
  | _, .nil, _ => True
  | _, .cons field rest, (slot, slots) => (∀ a, slot = some a → field.decoder.Yields a) ∧ rest.Fills slots

variable {ts : List Type}

theorem start_fills : ∀ {ts : List Type} (fields : Record ts), fields.Fills fields.start
  | _, .nil => trivial
  | _, .cons _ rest => ⟨fun _ => nofun, start_fills rest⟩

theorem takeMember_fills {key : String} {v : Value} : ∀ {ts : List Type} (fields : Record ts) {slots found : Slots ts},
    fields.Fills slots → fields.takeMember key v slots = .ok found → fields.Fills found
  | _, .nil, _, _, _, _ => trivial
  | _, .cons field rest, (slot, slots), found, fills, h => by
    obtain ⟨first, more⟩ := fills
    rw [takeMember] at h
    split at h
    · obtain ⟨a, read, h⟩ := ok_of_bind h
      cases h
      exact ⟨fun _ same => Option.some.inj same ▸ .inr ⟨v, read⟩, more⟩
    · obtain ⟨others, taken, h⟩ := ok_of_bind h
      cases h
      exact ⟨first, takeMember_fills rest more taken⟩

theorem takeMembers_fills (fields : Record ts) (members : Members) {slots found : Slots ts} (fills : fields.Fills slots)
    (h : members.foldlM (fun slots m => fields.takeMember m.1 m.2 slots) slots = .ok found) : fields.Fills found := by
  induction members generalizing slots with
  | nil =>
    cases h
    exact fills
  | cons m members ih =>
    rw [List.foldlM_cons] at h
    obtain ⟨more, taken, h⟩ := ok_of_bind h
    exact ih (takeMember_fills fields fills taken) h

theorem takeText_fills {levels : Nat} {key : String} :
    ∀ {ts : List Type} (fields : Record ts) {slots found : Slots ts},
    fields.Fills slots → (fields.takeText levels key slots).Gives found → fields.Fills found
  | _, .nil, _, _, _, _ => trivial
  | _, .cons field rest, (slot, slots), found, fills, h => by
    obtain ⟨first, more⟩ := fills
    rw [takeText] at h
    split at h
    · split at h
      · exact absurd h not_gives_failBehindKey
      · obtain ⟨_, -, h⟩ := h.bind
        obtain ⟨a, read, h⟩ := h.bind
        cases h.pure
        exact ⟨fun _ same => Option.some.inj same ▸ .inl ⟨levels, read⟩, more⟩
    · obtain ⟨others, taken, h⟩ := h.bind
      cases h.pure
      exact ⟨first, takeText_fills rest more taken⟩

theorem close_yields : ∀ {ts : List Type} (fields : Record ts) {slots : Slots ts} {row : Row ts},
    fields.Fills slots → fields.close slots = .ok row → fields.Yields row
  | _, .nil, _, _, _, _ => trivial
  | _, .cons field rest, (slot, slots), row, fills, h => by
    obtain ⟨first, more⟩ := fills
    rw [close] at h
    split at h
    · cases h
    · next a found =>
      obtain ⟨others, closed, h⟩ := ok_of_bind h
      cases h
      refine ⟨?_, close_yields rest more closed⟩
      rcases Option.or_eq_some_iff.1 found with read | ⟨-, absent⟩
      · exact .inl (first a read)
      · exact .inr (.inl absent)

theorem itemsText_yields {levels : Nat} {expected : String} :
    ∀ {ts : List Type} (fields : Record ts) {i : Nat} {row : Row ts},
    (fields.itemsText levels expected i).Gives row → fields.Yields row
  | _, .nil, _, _, _ => trivial
  | _, .cons field rest, i, row, h => by
    obtain ⟨goesOn, -, h⟩ := h.bind
    have item : ∃ a, field.Yields a ∧ (do pure (a, ← itemsText levels expected rest (i + 1)) : Reader _).Gives row := by
      dsimp only at h
      split at h
      · obtain ⟨a, read, h⟩ := h.bind
        exact ⟨a, .inl (.inl ⟨levels, read⟩), h⟩
      · split at h
        · next a trailing =>
          obtain ⟨b, given, h⟩ := h.bind
          cases given.pure
          exact ⟨a, .inr (.inr trailing), h⟩
        · obtain ⟨_, -, h⟩ := h.bind
          obtain ⟨_, refused, -⟩ := h.bind
          exact absurd refused not_gives_fail
    obtain ⟨a, yields, h⟩ := item
    obtain ⟨others, read, h⟩ := h.bind
    cases h.pure
    exact ⟨yields, itemsText_yields rest read⟩

theorem itemsValue_yields {expected : String} :
    ∀ {ts : List Type} (fields : Record ts) {i : Nat} {items left : List Value} {row : Row ts},
    fields.itemsValue expected i items = .ok (row, left) → fields.Yields row
  | _, .nil, _, _, _, _, _ => trivial
  | _, .cons field rest, i, items, left, row, h => by
    have item : ∃ a others, field.Yields a ∧
        (do let x ← itemsValue expected rest (i + 1) others; pure ((a, x.1), x.2) : Except Cause _) =
          .ok (row, left) := by
      unfold itemsValue at h
      dsimp only at h
      split at h
      · next _ v others =>
        obtain ⟨a, read, h⟩ := ok_of_bind h
        exact ⟨a, others, .inl (.inr ⟨v, read⟩), h⟩
      · next a trailing => exact ⟨a, [], .inr (.inr trailing), h⟩
      · cases h
    obtain ⟨a, others, yields, h⟩ := item
    obtain ⟨⟨row, behind⟩, read, h⟩ := ok_of_bind h
    cases h
    exact ⟨yields, itemsValue_yields rest read⟩

/-- However a structure was read, each of its fields holds what it may hold. -/
theorem yields_of_decoder {name : String} {fields : Record ts} {row : Row ts} (h : (fields.decoder name).Yields row) :
    fields.Yields row := by
  rcases h with ⟨levels, h⟩ | ⟨v, h⟩
  · obtain ⟨next, -, h⟩ := h.bind
    cases next with
    | none => exact absurd h not_gives_mismatch
    | some b =>
      dsimp only at h
      split at h
      · -- an array
        obtain ⟨n, h⟩ := h.deeper
        obtain ⟨_, -, h⟩ := h.bind
        obtain ⟨items, read, h⟩ := h.bind
        obtain ⟨_, -, h⟩ := h.bind
        rw [h.pure]
        exact itemsText_yields fields read
      · split at h
        · -- an object
          obtain ⟨n, h⟩ := h.deeper
          obtain ⟨slots, read, h⟩ := h.bind
          refine close_yields fields (Gives.objectOf (P := fields.Fills) ?_ (start_fills fields) read) h.ofExcept
          exact fun key _ _ fills taken => takeText_fills fields fills taken
        · exact absurd h not_gives_mismatch
  · cases v with
    | array items =>
      obtain ⟨⟨found, left⟩, read, h⟩ := ok_of_bind h
      dsimp only at h
      split at h
      · cases h
        exact itemsValue_yields fields read
      · cases h
    | object members =>
      obtain ⟨slots, read, h⟩ := ok_of_bind h
      exact close_yields fields (takeMembers_fills fields members (start_fills fields) read) h
    | null | bool | number | string => cases h

end Record
end Reconciliation.Json
