import Reconciliation.Proofs.Grammar
import Reconciliation.Proofs.Payloads

/-!
# Items there and back

An item that was read and is written down again is read as the same item: the texts that were blank are absent now, and
the words for its success are truth values. The one thing that may come in between is the reserved key of an embedded
text, which can be the first key of an object in the additional data only where the item was not read in a delivery.

* `Item.Regular` is what reading makes sure of, and `regular_of_parsed` says so.
* `Item.json_eq_ok_iff`: what is written down is read as the item, or not at all.
* `Item.plain_of_orderly`: an item from a delivery has no such key.
* `item_round_trip` is the statement about all items that were read.
-/

namespace Reconciliation

namespace Json

variable {α : Type}

theorem Field.reads_iff_of_get? {f : Field α} {m : Members} {v : Value} (h : m.get? f.name = some v) {a : α} :
    f.Reads m a ↔ f.decoder.ofValue v = .ok a := by
  rw [Field.Reads, h]

namespace Decoder

theorem yields_of_optional {d : Decoder α} {a : α} (h : d.optional.Yields (some a)) : d.Yields a := by
  rcases h with ⟨levels, h⟩ | ⟨v, h⟩
  · obtain ⟨next, -, h⟩ := h.bind
    split at h
    · obtain ⟨_, -, h⟩ := h.bind
      obtain ⟨_, -, h⟩ := h.bind
      cases h.pure
    · obtain ⟨b, read, h⟩ := h.bind
      cases h.pure
      exact .inl ⟨levels, read⟩
  · exact .inr ⟨v, (optional_eq_some_iff.1 h).2⟩

/-- However an object was read, none of its values has an object left that stands for a text. -/
theorem unembedded_of_object {data : Members} (h : Decoder.object.Yields data) :
    ∀ entry ∈ data, entry.2.Unembedded := by
  rcases h with ⟨levels, h⟩ | ⟨v, h⟩
  · obtain ⟨next, -, h⟩ := h.bind
    split at h
    · obtain ⟨n, h⟩ := h.deeper
      refine h.objectOf (P := fun m => ∀ entry ∈ m, entry.2.Unembedded) (fun key m m' all taken => ?_) (fun _ => nofun)
      obtain ⟨v, read, rfl⟩ := taken.addMember
      intro entry mem
      rcases Members.mem_insert mem with rfl | mem
      · exact read.everywhere.unembedded
      · exact all entry mem
    · exact absurd h Reader.not_gives_mismatch
  · cases v with
    | object m => exact unembedded_of_settledMembers h
    | null | bool | number | string | array => cases h

end Decoder
end Json

namespace Notification

open Json

namespace Item

variable {i j : Item}

/-- What holds of items that were read: no text is blank, the event is the one that its code names, and the additional
data have no object left that stands for a text. -/
structure Regular (i : Item) : Prop where
  texts : ∀ text ∈ texts, ∀ s ∈ text.2 i, Text.allBlank s = false
  eventCode : i.eventCode = .ofText i.eventCode.text
  additionalData : ∀ data ∈ i.additionalData, ∀ entry ∈ data, entry.2.Unembedded

/-- No object in the additional data begins with the reserved key. -/
def Plain (i : Item) : Prop := ∀ data ∈ i.additionalData, ∀ entry ∈ data, entry.2.Plain

theorem unembedded_of_yields {name : String} {x : Option Members}
    (h : (Field.defaulted name (.optional .object) none).Yields x) :
    ∀ data ∈ x, ∀ entry ∈ data, entry.2.Unembedded := by
  rcases h with read | absent | absent
  · rintro data rfl
    exact Decoder.unembedded_of_object (Decoder.yields_of_optional read)
  · cases absent
    exact fun _ => nofun
  · cases absent
    exact fun _ => nofun

theorem regular_of_yields (h : decoder.Yields i) : i.Regular := by
  obtain ⟨row, read, rfl⟩ := h.map
  obtain ⟨h1, h2, -, h4, h5, -, -, h8, h9, h10, h11, -⟩ := Record.yields_of_decoder read
  refine ⟨?_, eventCode_of_yields h5, unembedded_of_yields h11⟩
  exact forall_texts_iff.2 ⟨not_allBlank_of_yields h1, not_allBlank_of_yields h2, not_allBlank_of_yields h4,
    not_allBlank_of_yields h8, not_allBlank_of_yields h9, not_allBlank_of_yields h10⟩

theorem regular_of_parsed (h : i.Parsed) : i.Regular := by
  rcases h with ⟨text, parsed⟩ | value
  · exact regular_of_yields (Decoder.yields_of_parse parsed)
  · exact regular_of_yields (.inr value)

/-! ### Writing and reading -/

/-- The members that an item is written as. -/
def pairs (i : Item) : List (String × Value) := [
  ("pspReference", .ofString? i.reference),
  ("originalReference", .ofString? i.parentReference),
  ("merchantAccountCode", .string i.merchantAccount),
  ("merchantReference", .ofString? i.merchantReference),
  ("eventCode", i.eventCode.json),
  ("success", .bool i.success),
  ("amount", .ofOption MinorAmount.json i.amount),
  ("reason", .ofString? i.reason),
  ("paymentMethod", .ofString? i.paymentMethod),
  ("eventDate", .ofString? i.eventDate),
  ("additionalData", .ofOption .object i.additionalData)]

theorem text_there_and_back {x : Option String} (solid : ∀ s ∈ x, Text.allBlank s = false) :
    optionalText.ofValue (.ofString? x) = .ok x := by
  cases x with
  | none => rfl
  | some s =>
    have kept : (some s).filter (!Text.allBlank ·) = some s := by simp [solid s rfl]
    exact congrArg Except.ok kept

theorem amount_there_and_back (x : Option MinorAmount) :
    (Decoder.optional MinorAmount.decoder).ofValue (.ofOption MinorAmount.json x) = .ok x := by
  cases x with
  | none => rfl
  | some a =>
    have written : a.json = .object [("currency", .string a.currency), ("value", .ofInt a.units.toInt)] := by
      simp only [MinorAmount.json, Value.ofPairs, Members.ofList, List.foldl_cons, List.foldl_nil, Members.insert]
      exact congrArg _ (if_pos (show "currency" < "value" by decide))
    rw [Value.ofOption, written]
    refine Decoder.optional_eq_some_iff.2 ⟨by simp, (amount_eq_ok_iff (.object ?_ ?_)).2 (.object ?_ ?_)⟩
    · exact List.pairwise_pair.2 (show "currency" < "value" by decide)
    · simpa [Value.ofInt] using ⟨.string _, .number _⟩
    · simp [Members.get?_cons, Value.ofInt]
    · simp [Members.get?_cons]

theorem data_there_and_back_iff {x : Option Members} (h : ∀ data ∈ x, ∀ entry ∈ data, entry.2.Unembedded)
    {y : Option Members} : (Decoder.optional .object).ofValue (.ofOption .object x) = .ok y ↔
      (∀ data ∈ x, ∀ entry ∈ data, entry.2.Plain) ∧ y = x := by
  cases x with
  | none =>
    constructor
    · exact fun read => ⟨(fun _ => nofun), (Except.ok.inj read).symm⟩
    · exact fun both => congrArg Except.ok both.2.symm
  | some data =>
    cases y with
    | none => exact ⟨(fun read => nomatch Decoder.optional_eq_none_iff.1 read), (fun both => nomatch both.2)⟩
    | some out =>
      have settled : settledMembers data = .ok out ↔ (∀ entry ∈ data, entry.2.Plain) ∧ out = data :=
        settledMembers_iff_plain (h data rfl)
      simp [Value.ofOption, Decoder.optional_eq_some_iff, object_eq_ok_iff, settled]

section Written

variable {o : Members} (found : ∀ entry ∈ i.pairs, o.get? entry.1 = some entry.2)

include found

/-- What is written behind the key of a field is what the field is read from. -/
theorem reads_written_iff {α : Type} (f : Json.Field α) {v : Value} (mem : (f.name, v) ∈ i.pairs) {a : α} :
    f.Reads o a ↔ f.decoder.ofValue v = .ok a :=
  Field.reads_iff_of_get? (found _ mem)

theorem text_reads {key : String} {x : Option String} (mem : (key, .ofString? x) ∈ i.pairs)
    (solid : ∀ s ∈ x, Text.allBlank s = false) : (Field.defaulted key optionalText none).Reads o x :=
  (reads_written_iff found (Field.defaulted key optionalText none) mem).2 (text_there_and_back solid)

theorem data_reads_iff (regular : i.Regular) {x : Option Members} :
    (Field.defaulted "additionalData" (.optional .object) none).Reads o x ↔ i.Plain ∧ x = i.additionalData :=
  (reads_written_iff found (Field.defaulted "additionalData" (.optional .object) none)
    (v := .ofOption .object i.additionalData) (by simp [pairs, Field.defaulted])).trans
      (data_there_and_back_iff regular.additionalData)

/-- What is written is the item, if the reserved key does not come in between. -/
theorem written_of_plain (regular : i.Regular) (plain : i.Plain) : Written o i := by
  obtain ⟨reference, parent, merchantReference, reason, method, date⟩ := forall_texts_iff.1 regular.texts
  constructor
  · exact text_reads found (by simp [pairs]) reference
  · exact text_reads found (by simp [pairs]) parent
  · exact string_reads_iff.2 (found ("merchantAccountCode", _) (by simp [pairs]))
  · exact text_reads found (by simp [pairs]) merchantReference
  · exact eventCode_reads_iff.2 ⟨_, found ("eventCode", _) (by simp [pairs, EventCode.json]), regular.eventCode.symm⟩
  · exact Field.required_reads_iff.2 ⟨_, found ("success", _) (by simp [pairs]), flag_eq_ok_iff.2 .value⟩
  · exact (reads_written_iff found (Field.defaulted "amount" (.optional MinorAmount.decoder) none)
      (by simp [pairs, Field.defaulted])).2 (amount_there_and_back i.amount)
  · exact text_reads found (by simp [pairs]) reason
  · exact text_reads found (by simp [pairs]) method
  · exact text_reads found (by simp [pairs]) date
  · exact (data_reads_iff found regular).2 ⟨plain, rfl⟩

end Written

/-- What an item is written as is read as this item or not at all. -/
theorem json_eq_ok_iff (regular : i.Regular) : decoder.ofValue i.json = .ok j ↔ i.Plain ∧ j = i := by
  obtain ⟨o, asc, json, found⟩ : ∃ o : Members, o.Ascending ∧ i.json = .object o ∧
      ∀ entry ∈ i.pairs, o.get? entry.1 = some entry.2 :=
    ⟨.ofList i.pairs, Members.ascending_ofList _, rfl, fun entry mem =>
      Members.get?_ofList_of_mem (by simp [pairs]) mem⟩
  rw [json]
  constructor
  · intro read
    have written := (decoder_object_iff asc).1 read
    obtain ⟨plain, -⟩ := (data_reads_iff found regular).1 written.additionalData
    have same := (decoder_object_iff asc).2 (written_of_plain found regular plain)
    exact ⟨plain, Except.ok.inj (read.symm.trans same)⟩
  · rintro ⟨plain, rfl⟩
    exact (decoder_object_iff asc).2 (written_of_plain found regular plain)

/-! ### Items in deliveries -/

/-- Where values are in order and have no object left that stands for a text, the members of an object are read as they
are, and none of their values has an object that begins with the reserved key. -/
theorem plain_of_from {name : String} {x : Option Members}
    (h : (Field.defaulted name (.optional .object) none).From (·.Everywhere Members.Orderly) x) :
    ∀ data ∈ x, ∀ entry ∈ data, entry.2.Plain := by
  rcases h with ⟨v, orderly, read⟩ | absent | absent
  · rintro data rfl
    obtain ⟨-, read⟩ := Decoder.optional_eq_some_iff.1 read
    obtain ⟨m, rfl, settled⟩ := object_eq_ok_iff.1 read
    have unembedded : ∀ entry ∈ m, entry.2.Unembedded := fun entry mem => (orderly.members.2 entry mem).unembedded
    obtain ⟨plain, rfl⟩ := (settledMembers_iff_plain unembedded).1 settled
    exact plain
  · cases absent
    exact fun _ => nofun
  · cases absent
    exact fun _ => nofun

theorem plain_of_orderly {v : Value} (orderly : v.Everywhere Members.Orderly) (h : decoder.ofValue v = .ok i) :
    i.Plain := by
  obtain ⟨row, read, rfl⟩ := Decoder.ofValue_map_iff.1 h
  have parts := Record.from_of_ofValue (Q := (·.Everywhere Members.Orderly)) (by decide) (fun m same => ?_)
    (fun items same => ?_) read
  · obtain ⟨-, -, -, -, -, -, -, -, -, -, data, -⟩ := parts
    exact plain_of_from data
  · obtain ⟨here, all⟩ := (same ▸ orderly).members
    exact ⟨here.ascending, all⟩
  · cases same ▸ orderly with
    | array all => exact all

/-- An item from a delivery has no object in its additional data that begins with the reserved key. -/
theorem plain_of_mem_batch {body : Text.Utf8.Bytes} {batch : Batch} (h : Batch.parse body = .ok batch)
    (mem : i ∈ batch.items) : i.Plain := by
  rw [Batch.parse] at h
  split at h
  · cases h
  · next live values envelope =>
    cases h
    obtain ⟨raw, mem, read⟩ := exists_of_mem_sort mem
    have orderly := Batch.everywhere_of_envelopes ⟨live, envelope⟩ raw mem
    rw [Batch.item] at read
    cases inside : raw.get? Batch.wrapper with
    | none => exact plain_of_orderly orderly (by rwa [inside] at read)
    | some v => exact plain_of_orderly (orderly.of_get? inside) (by rwa [inside] at read)

end Item

open Item

/-- An item that was read is written as an object. If no object in its additional data begins with the reserved key,
which holds of all items from deliveries, this is read as the same item, in all its fields, and otherwise not at all. -/
theorem item_round_trip {i : Item} (parsed : i.Parsed) :
    (∃ o, i.json = .object o) ∧
      ((∃ j, decoder.ofValue i.json = .ok j) ↔ i.Plain) ∧
      (∀ j, decoder.ofValue i.json = .ok j → j = i ∧ j.json = i.json) ∧
      ∀ body batch, Batch.parse body = .ok batch → i ∈ batch.items → decoder.ofValue i.json = .ok i := by
  have regular := regular_of_parsed parsed
  refine ⟨⟨_, rfl⟩, ⟨?_, fun plain => ⟨i, (json_eq_ok_iff regular).2 ⟨plain, rfl⟩⟩⟩, ?_, ?_⟩
  · rintro ⟨j, read⟩
    exact ((json_eq_ok_iff regular).1 read).1
  · intro j read
    obtain ⟨-, rfl⟩ := (json_eq_ok_iff regular).1 read
    exact ⟨rfl, rfl⟩
  · exact fun body batch parse mem => (json_eq_ok_iff regular).2 ⟨plain_of_mem_batch parse mem, rfl⟩

/-- The sparse item is written in full, and read again. -/
theorem item_round_trip_of_sparse :
    ∃ i, decoder.ofValue sparse = .ok i ∧ i.json ≠ sparse ∧ decoder.ofValue i.json = .ok i := by
  obtain ⟨i, read, bare, other⟩ : ∃ i, decoder.ofValue sparse = .ok i ∧ i.additionalData = none ∧ i.json ≠ sparse :=
    ⟨⟨some "P", none, "", none, .other "MANUAL_REVIEW", true, none, none, none, none, none⟩, by decide +kernel⟩
  obtain ⟨-, readable, same, -⟩ := item_round_trip (.inr ⟨sparse, read⟩)
  have plain : i.Plain := by
    rw [Plain, bare]
    exact fun _ => nofun
  obtain ⟨j, again⟩ := readable.2 plain
  obtain ⟨rfl, -⟩ := same j again
  exact ⟨j, read, other, again⟩

/-- An item with an object that begins with the reserved key, but not in the text. -/
def markedText : String :=
  "\x7b\"merchantAccountCode\":\"M\",\"eventCode\":\"REFUND\",\"success\":true," ++
    "\"additionalData\":\x7b\"x\":\x7b\"a\":1,\"$serde_json::private::RawValue\":\"2\"\x7d\x7d\x7d"

/-- How it is read by itself. -/
def markedItem : Item where
  reference := none
  parentReference := none
  merchantAccount := "M"
  merchantReference := none
  eventCode := .refund
  success := true
  amount := none
  reason := none
  paymentMethod := none
  eventDate := none
  additionalData := some [("x", .object [(embeddedKey, .string "2"), ("a", .ofInt 1)])]

/-- It is written as something that is not read any more. -/
theorem marked_item_lost :
    decoder.parse (Text.Utf8.encode markedText) = .ok markedItem ∧ ∀ j, decoder.ofValue markedItem.json ≠ .ok j := by
  have parsed : decoder.parse (Text.Utf8.encode markedText) = .ok markedItem := by decide +kernel
  refine ⟨parsed, fun j again => ?_⟩
  obtain ⟨plain, -⟩ := (json_eq_ok_iff (regular_of_parsed (.inl ⟨_, parsed⟩))).1 again
  exact (plain _ rfl _ List.mem_cons_self).members.1 ⟨_, _, rfl⟩

end Notification
end Reconciliation
