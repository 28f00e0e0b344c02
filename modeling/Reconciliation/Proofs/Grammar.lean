import Reconciliation.Proofs.Batches
import Reconciliation.Proofs.Embeddings
import Reconciliation.Proofs.Records
import Reconciliation.Proofs.Rounding

/-!
# The grammar of items

An object is an item if each of its eleven keys holds what belongs there, whatever other keys it has. The additional
data may be any object, except that the reserved key of an embedded text must not be the first one of an object in it.

* `Item.Grammar` tells which objects are items, given which additional data may be; `Item.Kept` what of them is kept.
* `Item.Written` takes an item apart into its fields as they are read; `decoder_object_iff` says that this is all.
* `Batch.Presents` is an object as a delivery holds it, wrapped or not.
* `item_grammar` is the statement about objects in deliveries.
-/

namespace Reconciliation.Notification

open Json Number

/-! ### What belongs behind the keys -/

/-- Absent, `null`, or as it should be. -/
def OrNull (P : Value → Prop) (v : Option Value) : Prop := ∀ x ∈ v, x = .null ∨ P x

/-- A truth value, or the word for it in letters of any case. -/
inductive SaysTruth (b : Bool) : Value → Prop
  | value : SaysTruth b (.bool b)
  | word {s : String} (same : Text.sameLetters s (if b then "true" else "false") = true) : SaysTruth b (.string s)

/-- A number of units and a currency, as an object or one behind the other. -/
inductive StatesAmount (units : Int) (currency : String) : Value → Prop
  | object {m : Members} (value : m.get? "value" = some (.number (.integer units)))
      (code : m.get? "currency" = some (.string currency)) : StatesAmount units currency (.object m)
  | array : StatesAmount units currency (.array [.number (.integer units), .string currency])

namespace Item

/-- The texts that an item may have, and their keys. -/
def texts : List (String × (Item → Option String)) := [
  ("pspReference", reference), ("originalReference", parentReference), ("merchantReference", merchantReference),
  ("reason", reason), ("paymentMethod", paymentMethod), ("eventDate", eventDate)]

/-- All keys that belong to an item. -/
def keys : List String :=
  texts.map (·.1) ++ ["merchantAccountCode", "eventCode", "success", "amount", "additionalData"]

/-- The objects that are items, where the members of the additional data are as they should be. -/
structure Grammar (data : Members → Prop) (o : Members) : Prop where
  texts : ∀ text ∈ texts, OrNull (fun v => ∃ s, v = .string s) (o.get? text.1)
  merchantAccount : ∃ s, o.get? "merchantAccountCode" = some (.string s)
  eventCode : ∃ s, o.get? "eventCode" = some (.string s)
  success : ∃ v b, o.get? "success" = some v ∧ SaysTruth b v
  amount : OrNull (fun v => ∃ units currency, minInt64 ≤ units ∧ units ≤ maxInt64 ∧ StatesAmount units currency v)
    (o.get? "amount")
  additionalData : OrNull (fun v => ∃ m, v = .object m ∧ data m) (o.get? "additionalData")

/-- What an item keeps of an object: a text is there if it has a character that is not blank, and is kept as it is. -/
structure Kept (o : Members) (i : Item) : Prop where
  texts : ∀ text ∈ texts, ∀ s, text.2 i = some s ↔
    o.get? text.1 = some (.string s) ∧ ∃ c ∈ s.toList, Text.isBlank c = false
  merchantAccount : o.get? "merchantAccountCode" = some (.string i.merchantAccount)
  eventCode : o.get? "eventCode" = some (.string i.eventCode.text)
  success : ∃ v, o.get? "success" = some v ∧ SaysTruth i.success v
  amount : ∀ a, i.amount = some a ↔ ∃ v, o.get? "amount" = some v ∧ StatesAmount a.units.toInt a.currency v
  additionalData : ∀ data, i.additionalData = some data ↔
    ∃ m, o.get? "additionalData" = some (.object m) ∧ settledMembers m = .ok data

/-! ### The fields of an item -/

/-- The fields of an item, as they are read from an object. -/
structure Written (o : Members) (i : Item) : Prop where
  reference : (Field.defaulted "pspReference" optionalText none).Reads o i.reference
  parentReference : (Field.defaulted "originalReference" optionalText none).Reads o i.parentReference
  merchantAccount : (Field.required "merchantAccountCode" .string).Reads o i.merchantAccount
  merchantReference : (Field.defaulted "merchantReference" optionalText none).Reads o i.merchantReference
  eventCode : (Field.required "eventCode" EventCode.decoder).Reads o i.eventCode
  success : (Field.required "success" flag).Reads o i.success
  amount : (Field.defaulted "amount" (.optional MinorAmount.decoder) none).Reads o i.amount
  reason : (Field.defaulted "reason" optionalText none).Reads o i.reason
  paymentMethod : (Field.defaulted "paymentMethod" optionalText none).Reads o i.paymentMethod
  eventDate : (Field.defaulted "eventDate" optionalText none).Reads o i.eventDate
  additionalData : (Field.defaulted "additionalData" (.optional .object) none).Reads o i.additionalData

variable {o : Members} {i : Item}

theorem decoder_object_iff (asc : o.Ascending) : decoder.ofValue (.object o) = .ok i ↔ Written o i := by
  refine Decoder.ofValue_map_iff.trans ?_
  constructor
  · rintro ⟨row, read, rfl⟩
    obtain ⟨h1, h2, h3, h4, h5, h6, h7, h8, h9, h10, h11, -⟩ := (Record.ofMembers_eq_ok_iff (by decide) asc).1 read
    exact ⟨h1, h2, h3, h4, h5, h6, h7, h8, h9, h10, h11⟩
  · rintro ⟨h1, h2, h3, h4, h5, h6, h7, h8, h9, h10, h11⟩
    refine ⟨(i.reference, i.parentReference, i.merchantAccount, i.merchantReference, i.eventCode, i.success, i.amount,
      i.reason, i.paymentMethod, i.eventDate, i.additionalData, ()), ?_, rfl⟩
    exact (Record.ofMembers_eq_ok_iff (by decide) asc).2 ⟨h1, h2, h3, h4, h5, h6, h7, h8, h9, h10, h11, trivial⟩

/-- Only the keys of an item count. -/
theorem decoder_object_congr {o o' : Members} (asc : o.Ascending) (asc' : o'.Ascending)
    (same : ∀ key ∈ keys, o'.get? key = o.get? key) : decoder.ofValue (.object o') = decoder.ofValue (.object o) := by
  refine congrArg (· >>= _) (Record.ofMembers_congr asc' asc fun key mem => same key ?_)
  revert key
  decide

/-! ### One field each -/

/-- A field that may be `null` is read if what is there is, and then kept. -/
theorem optional_reads_iff {α : Type} {d : Decoder α} (solid : ∀ a, d.ofValue .null ≠ .ok a) {key : String}
    {x : Option α} : (Field.defaulted key d.optional none).Reads o x ↔
      OrNull (fun v => ∃ a, d.ofValue v = .ok a) (o.get? key) ∧
        ∀ a, x = some a ↔ ∃ v, o.get? key = some v ∧ d.ofValue v = .ok a := by
  constructor
  · intro read
    cases x with
    | none => rcases Field.reads_none_iff.1 read with absent | null <;> simp [OrNull, *]
    | some b =>
      obtain ⟨v, found, -, given⟩ := Field.reads_some_iff.1 read
      simp [OrNull, found, given]
  · rintro ⟨shape, kept⟩
    cases x with
    | none =>
      refine Field.reads_none_iff.2 ?_
      cases found : o.get? key with
      | none => exact .inl rfl
      | some v =>
        rcases shape v found with rfl | ⟨a, given⟩
        · exact .inr rfl
        · cases (kept a).2 ⟨v, found, given⟩
    | some a =>
      obtain ⟨v, found, given⟩ := (kept a).1 rfl
      exact Field.reads_some_iff.2 ⟨v, found, fun null => solid a (null ▸ given), given⟩

theorem exists_optional_iff {α : Type} {d : Decoder α} (solid : ∀ a, d.ofValue .null ≠ .ok a) {key : String} :
    (∃ x, (Field.defaulted key d.optional none).Reads o x) ↔
      OrNull (fun v => ∃ a, d.ofValue v = .ok a) (o.get? key) := by
  refine ⟨fun ⟨x, read⟩ => ((optional_reads_iff solid).1 read).1, fun shape => ?_⟩
  cases found : o.get? key with
  | none => exact ⟨none, Field.reads_none_iff.2 (.inl found)⟩
  | some v =>
    rcases shape v found with rfl | ⟨a, given⟩
    · exact ⟨none, Field.reads_none_iff.2 (.inr found)⟩
    · exact ⟨some a, Field.reads_some_iff.2 ⟨v, found, fun null => solid a (null ▸ given), given⟩⟩

theorem string_eq_ok_iff {v : Value} {s : String} : Decoder.string.ofValue v = .ok s ↔ v = .string s := by
  constructor
  · intro read
    cases v with
    | string t => rw [Except.ok.inj read]
    | null | bool | number | array | object => cases read
  · rintro rfl
    rfl

theorem string_reads_iff {key s : String} :
    (Field.required key .string).Reads o s ↔ o.get? key = some (.string s) := by
  simp [Field.required_reads_iff, string_eq_ok_iff]

theorem text_reads_iff_exists {key : String} {x : Option String} : (Field.defaulted key optionalText none).Reads o x ↔
    ∃ y, (Field.defaulted key (.optional .string) none).Reads o y ∧ y.filter (!Text.allBlank ·) = x :=
  Field.map_reads_iff (a := none)

/-- A text that may be left out is read if it is a string. -/
theorem exists_text_iff {key : String} : (∃ x, (Field.defaulted key optionalText none).Reads o x) ↔
    OrNull (fun v => ∃ s, v = .string s) (o.get? key) := by
  have solid : ∀ s, Decoder.string.ofValue .null ≠ .ok s := nofun
  simp only [text_reads_iff_exists, ← string_eq_ok_iff, ← exists_optional_iff solid]
  exact ⟨fun ⟨_, y, read, _⟩ => ⟨y, read⟩, fun ⟨y, read⟩ => ⟨_, y, read, rfl⟩⟩

/-- It is kept if it is not blank. -/
theorem text_kept {key : String} {x : Option String} (h : (Field.defaulted key optionalText none).Reads o x)
    (s : String) : x = some s ↔ o.get? key = some (.string s) ∧ ∃ c ∈ s.toList, Text.isBlank c = false := by
  have solid : (!Text.allBlank s) = true ↔ ∃ c ∈ s.toList, Text.isBlank c = false := by simp [Text.allBlank]
  obtain ⟨y, read, rfl⟩ := text_reads_iff_exists.1 h
  obtain ⟨-, kept⟩ := (optional_reads_iff (d := .string) nofun).1 read
  simp only [string_eq_ok_iff, exists_eq_right] at kept
  rw [Option.filter_eq_some_iff, kept, solid]

theorem eventCode_reads_iff {key : String} {e : EventCode} :
    (Field.required key EventCode.decoder).Reads o e ↔ ∃ s, o.get? key = some (.string s) ∧ .ofText s = e := by
  rw [Field.required_reads_iff]
  constructor
  · rintro ⟨v, found, read⟩
    obtain ⟨s, text, known⟩ := Decoder.ofValue_map_iff.1 read
    exact ⟨s, string_eq_ok_iff.1 text ▸ found, known⟩
  · rintro ⟨s, found, known⟩
    exact ⟨_, found, Decoder.ofValue_map_iff.2 ⟨s, rfl, known⟩⟩

theorem flag_eq_ok_iff {v : Value} {b : Bool} : flag.ofValue v = .ok b ↔ SaysTruth b v := by
  have unlike {s : String} (yes : Text.sameLetters s "true" = true) : Text.sameLetters s "false" = false := by
    rw [Text.sameLetters, beq_iff_eq] at yes
    rw [Text.sameLetters, yes]
    decide
  change flagOf v = .ok b ↔ SaysTruth b v
  constructor
  · intro read
    cases v with
    | bool c =>
      cases read
      exact .value
    | string s =>
      rw [flagOf] at read
      split at read
      · next yes =>
        cases read
        exact .word yes
      · split at read
        · next no =>
          cases read
          exact .word no
        · cases read
    | null | number | array | object => cases read
  · rintro (_ | same)
    · rfl
    · cases b with
      | true => exact if_pos same
      | false => exact (if_neg fun yes => Bool.false_ne_true ((unlike yes).symm.trans same)).trans (if_pos same)

theorem int64_eq_ok_iff {v : Value} {n : Int} :
    Decoder.int64.ofValue v = .ok n ↔ v = .number (.integer n) ∧ minInt64 ≤ n ∧ n ≤ maxInt64 := by
  cases v with
  | number x =>
    change Decoder.checkInt minInt64 maxInt64 "i64" x = .ok n ↔ _
    cases x with
    | float x => simp [Decoder.checkInt]
    | integer i =>
      simp only [Decoder.checkInt, Bool.and_eq_true, decide_eq_true_eq, Value.number.injEq, Numeral.integer.injEq]
      constructor
      · intro read
        split at read
        · next inside =>
          cases read
          exact ⟨rfl, inside⟩
        · cases read
      · rintro ⟨rfl, inside⟩
        exact if_pos inside
  | null | bool | string | array | object => exact ⟨nofun, fun h => nomatch h.1⟩

/-- The units of an amount and its currency stand behind their names, or one behind the other. -/
theorem amount_row_iff {v : Value} (asc : v.Everywhere Members.Ascending) {n : Int} {s : String} :
    (Record.decoder "struct NotificationAmount"
      (.cons (.required "value" .int64) (.cons (.required "currency" .string) .nil))).ofValue v = .ok (n, s, ()) ↔
      minInt64 ≤ n ∧ n ≤ maxInt64 ∧ StatesAmount n s v := by
  cases v with
  | object m =>
    refine (Record.ofMembers_eq_ok_iff (by decide) asc.members.1).trans ?_
    simp only [Record.Reads, Field.required_reads_iff, string_eq_ok_iff, int64_eq_ok_iff, exists_eq_right]
    constructor
    · rintro ⟨⟨v, value, rfl, low, high⟩, code, -⟩
      exact ⟨low, high, .object value code⟩
    · rintro ⟨low, high, ⟨value, code⟩⟩
      exact ⟨⟨_, value, rfl, low, high⟩, code, trivial⟩
  | array items =>
    refine Record.ofItems_eq_ok_iff.trans ?_
    match items with
    | [] => exact ⟨(fun h => nomatch h.1), (fun h => nomatch h.2.2)⟩
    | [v] => exact ⟨(fun h => nomatch h.2.1), (fun h => nomatch h.2.2)⟩
    | v :: w :: rest =>
      simp only [Record.ReadsItems, Field.required, int64_eq_ok_iff, string_eq_ok_iff]
      constructor
      · rintro ⟨⟨rfl, low, high⟩, rfl, rfl⟩
        exact ⟨low, high, .array⟩
      · rintro ⟨low, high, ⟨⟩⟩
        exact ⟨⟨rfl, low, high⟩, rfl, rfl⟩
  | null | bool | number | string =>
    constructor
    · intro read
      cases read
    · rintro ⟨-, -, states⟩
      cases states

theorem amount_eq_ok_iff {v : Value} (asc : v.Everywhere Members.Ascending) {a : MinorAmount} :
    MinorAmount.decoder.ofValue v = .ok a ↔ StatesAmount a.units.toInt a.currency v := by
  refine Decoder.ofValue_map_iff.trans ?_
  constructor
  · rintro ⟨⟨n, s, _⟩, row, rfl⟩
    obtain ⟨low, high, states⟩ := (amount_row_iff asc).1 row
    have fits : MinorUnits.fits n = true := by simp [MinorUnits.fits, low, high]
    change StatesAmount (Int64.ofInt n).toInt s v
    rwa [MinorUnits.toInt_ofInt fits]
  · intro states
    have fits := MinorUnits.fits_toInt a.units
    simp only [MinorUnits.fits, Bool.and_eq_true, decide_eq_true_eq] at fits
    refine ⟨(a.units.toInt, a.currency, ()), (amount_row_iff asc).2 ⟨fits.1, fits.2, states⟩, ?_⟩
    change MinorAmount.mk (Int64.ofInt a.units.toInt) a.currency = a
    rw [Int64.ofInt_toInt]

/-- There is an amount where its units fit. -/
theorem exists_amount_iff {v : Value} (asc : v.Everywhere Members.Ascending) :
    (∃ a, MinorAmount.decoder.ofValue v = .ok a) ↔
      ∃ units currency, minInt64 ≤ units ∧ units ≤ maxInt64 ∧ StatesAmount units currency v := by
  constructor
  · rintro ⟨a, read⟩
    obtain ⟨⟨n, s, _⟩, row, -⟩ := Decoder.ofValue_map_iff.1 read
    exact ⟨n, s, (amount_row_iff asc).1 row⟩
  · rintro ⟨n, s, stated⟩
    exact ⟨_, Decoder.ofValue_map_iff.2 ⟨_, (amount_row_iff asc).2 stated, rfl⟩⟩

theorem object_eq_ok_iff {v : Value} {data : Members} :
    Decoder.object.ofValue v = .ok data ↔ ∃ m, v = .object m ∧ settledMembers m = .ok data := by
  cases v <;> simp [Decoder.object]

/-! ### Items -/

theorem forall_texts_iff {P : String × (Item → Option String) → Prop} : (∀ text ∈ Item.texts, P text) ↔
    P ("pspReference", reference) ∧ P ("originalReference", parentReference) ∧
      P ("merchantReference", merchantReference) ∧ P ("reason", reason) ∧ P ("paymentMethod", paymentMethod) ∧
      P ("eventDate", eventDate) := by
  simp [Item.texts]

theorem exists_data_iff {v : Value} :
    (∃ data, Decoder.object.ofValue v = .ok data) ↔ ∃ m, v = .object m ∧ ∀ entry ∈ m, entry.2.Resolvable := by
  simp only [object_eq_ok_iff, ← Value.exists_settled_iff, ← exists_settledMembers_iff]
  exact ⟨fun ⟨data, m, same, settled⟩ => ⟨m, same, data, settled⟩,
    fun ⟨m, same, data, settled⟩ => ⟨data, m, same, settled⟩⟩

theorem orNull_congr {P Q : Value → Prop} {v : Option Value} (h : ∀ x ∈ v, P x ↔ Q x) : OrNull P v ↔ OrNull Q v :=
  forall₂_congr fun x mem => or_congr_right (h x mem)

/-- What is behind the keys tells which objects are items. -/
theorem exists_item_iff (asc : (Value.object o).Everywhere Members.Ascending) :
    (∃ i, decoder.ofValue (.object o) = .ok i) ↔ Grammar (fun m => ∀ entry ∈ m, entry.2.Resolvable) o := by
  obtain ⟨asc, inner⟩ := asc.members
  have amount : (∃ x, (Field.defaulted "amount" (.optional MinorAmount.decoder) none).Reads o x) ↔
      OrNull (fun v => ∃ units currency, minInt64 ≤ units ∧ units ≤ maxInt64 ∧ StatesAmount units currency v)
        (o.get? "amount") := by
    rw [exists_optional_iff nofun]
    exact orNull_congr fun v found => exists_amount_iff (inner _ (Members.mem_of_get? found))
  have data : (∃ x, (Field.defaulted "additionalData" (.optional .object) none).Reads o x) ↔
      OrNull (fun v => ∃ m, v = .object m ∧ ∀ entry ∈ m, entry.2.Resolvable) (o.get? "additionalData") := by
    rw [exists_optional_iff nofun]
    exact orNull_congr fun v _ => exists_data_iff
  simp only [decoder_object_iff asc]
  constructor
  · rintro ⟨i, h⟩
    constructor
    · exact forall_texts_iff.2 ⟨exists_text_iff.1 ⟨_, h.reference⟩, exists_text_iff.1 ⟨_, h.parentReference⟩,
        exists_text_iff.1 ⟨_, h.merchantReference⟩, exists_text_iff.1 ⟨_, h.reason⟩,
        exists_text_iff.1 ⟨_, h.paymentMethod⟩, exists_text_iff.1 ⟨_, h.eventDate⟩⟩
    · exact ⟨_, string_reads_iff.1 h.merchantAccount⟩
    · obtain ⟨s, found, -⟩ := eventCode_reads_iff.1 h.eventCode
      exact ⟨s, found⟩
    · obtain ⟨v, found, truth⟩ := Field.required_reads_iff.1 h.success
      exact ⟨v, _, found, flag_eq_ok_iff.1 truth⟩
    · exact amount.1 ⟨_, h.amount⟩
    · exact data.1 ⟨_, h.additionalData⟩
  · intro g
    obtain ⟨reference, parent, merchantReference, reason, method, date⟩ := forall_texts_iff.1 g.texts
    obtain ⟨reference, h1⟩ := exists_text_iff.2 reference
    obtain ⟨parent, h2⟩ := exists_text_iff.2 parent
    obtain ⟨account, h3⟩ := g.merchantAccount
    obtain ⟨merchantReference, h4⟩ := exists_text_iff.2 merchantReference
    obtain ⟨code, h5⟩ := g.eventCode
    obtain ⟨v, success, found, truth⟩ := g.success
    obtain ⟨paid, h7⟩ := amount.2 g.amount
    obtain ⟨reason, h8⟩ := exists_text_iff.2 reason
    obtain ⟨method, h9⟩ := exists_text_iff.2 method
    obtain ⟨date, h10⟩ := exists_text_iff.2 date
    obtain ⟨members, h11⟩ := data.2 g.additionalData
    exact ⟨⟨reference, parent, account, merchantReference, .ofText code, success, paid, reason, method, date, members⟩,
      h1, h2, string_reads_iff.2 h3, h4, eventCode_reads_iff.2 ⟨code, h5, rfl⟩,
      Field.required_reads_iff.2 ⟨v, found, flag_eq_ok_iff.2 truth⟩, h7, h8, h9, h10, h11⟩

/-- What was read is kept. -/
theorem kept_of_read (asc : (Value.object o).Everywhere Members.Ascending) (h : decoder.ofValue (.object o) = .ok i) :
    Kept o i := by
  obtain ⟨asc, inner⟩ := asc.members
  have h := (decoder_object_iff asc).1 h
  constructor
  · exact forall_texts_iff.2 ⟨text_kept h.reference, text_kept h.parentReference, text_kept h.merchantReference,
      text_kept h.reason, text_kept h.paymentMethod, text_kept h.eventDate⟩
  · exact string_reads_iff.1 h.merchantAccount
  · obtain ⟨s, found, known⟩ := eventCode_reads_iff.1 h.eventCode
    rw [found, ← known, EventCode.text_ofText]
  · obtain ⟨v, found, truth⟩ := Field.required_reads_iff.1 h.success
    exact ⟨v, found, flag_eq_ok_iff.1 truth⟩
  · intro a
    rw [((optional_reads_iff nofun).1 h.amount).2]
    exact exists_congr fun v => and_congr_right fun found =>
      amount_eq_ok_iff (inner _ (Members.mem_of_get? found))
  · intro members
    rw [((optional_reads_iff nofun).1 h.additionalData).2]
    simp only [object_eq_ok_iff]
    exact ⟨fun ⟨_, found, m, same, settled⟩ => ⟨m, same ▸ found, settled⟩,
      fun ⟨m, found, settled⟩ => ⟨_, found, m, rfl, settled⟩⟩

end Item

/-! ### Deliveries -/

namespace Batch

variable {raw : Value} {o : Members}

/-- The value holds the object as an item, by itself or wrapped. -/
inductive Presents : Value → Members → Prop
  | bare {o : Members} (unwrapped : o.get? wrapper = none) : Presents (.object o) o
  | wrapped {raw : Value} {o : Members} (inside : raw.get? wrapper = some (.object o)) : Presents raw o

theorem item_of_presents (h : Presents raw o) : item raw = Item.decoder.ofValue (.object o) := by
  cases h with
  | bare unwrapped => rw [item, Value.get?, unwrapped, Option.getD_none]
  | wrapped inside => rw [item, inside, Option.getD_some]

theorem everywhere_of_presents {P : Members → Prop} (h : Presents raw o) (all : raw.Everywhere P) :
    (Value.object o).Everywhere P := by
  cases h with
  | bare => exact all
  | wrapped inside => exact all.of_get? inside

/-- What a batch comes in, where its items are not taken from a value that was read before. -/
def textualEnvelope : Decoder (Option Value × List Value) :=
  (Record.decoder "struct Envelope"
    (.cons (.defaulted "live" (.optional .any) none)
    (.cons (.required "notificationItems" ⟨(Decoder.list .any).ofText, fun _ => .error .tooDeep⟩) .nil))).map
    fun (live, items, ()) => (live, items)

/-- The values of a delivery are in order, and none of their objects stands for a text. -/
theorem everywhere_of_envelopes {body : Text.Utf8.Bytes} {values : List Value} (h : Envelopes body values) :
    ∀ raw ∈ values, raw.Everywhere Members.Orderly := by
  obtain ⟨live, h⟩ := h
  have yields : textualEnvelope.Yields (live, values) := Decoder.yields_of_parse h
  obtain ⟨row, read, same⟩ := yields.map
  cases same
  obtain ⟨-, items, -⟩ := Record.yields_of_decoder read
  rcases items with (⟨levels, items⟩ | ⟨_, ⟨⟩⟩) | ⟨⟨⟩⟩ | ⟨⟨⟩⟩
  obtain ⟨next, -, items⟩ := items.bind
  split at items
  · obtain ⟨n, items⟩ := items.deeper
    exact items.listOf fun v given => given.everywhere
  · exact absurd items Reader.not_gives_mismatch

end Batch

/-- An object, by itself or wrapped, is an item exactly if what is behind its keys is as it should be; the item keeps
what is there, and other keys have no influence. In the additional data every object that begins with the reserved key
must be an embedded text that can be resolved; in a delivery there is none left, so that none may begin with it. -/
theorem item_grammar {raw : Value} {o : Members} (asc : raw.Everywhere Members.Ascending)
    (given : Batch.Presents raw o) :
    ((∃ i, Batch.item raw = .ok i) ↔ Item.Grammar (fun m => ∀ entry ∈ m, entry.2.Resolvable) o) ∧
      (∀ i, Batch.item raw = .ok i → Item.Kept o i) ∧
      (∀ raw' o', raw'.Everywhere Members.Ascending → Batch.Presents raw' o' →
        (∀ key ∈ Item.keys, o'.get? key = o.get? key) → Batch.item raw' = Batch.item raw) ∧
      ∀ body values, Envelopes body values → raw ∈ values → ∀ m, o.get? "additionalData" = some (.object m) →
        ((∀ entry ∈ m, entry.2.Resolvable) ↔ ∀ entry ∈ m, entry.2.Plain) ∧
          ∀ i, Batch.item raw = .ok i → i.additionalData = some m := by
  have asc' := Batch.everywhere_of_presents given asc
  rw [Batch.item_of_presents given]
  refine ⟨Item.exists_item_iff asc', fun i => Item.kept_of_read asc', ?_, ?_⟩
  · intro raw' o' ascRaw presents same
    rw [Batch.item_of_presents presents]
    exact Item.decoder_object_congr asc'.members.1 (Batch.everywhere_of_presents presents ascRaw).members.1 same
  · intro body values envelopes mem m found
    have orderly := Batch.everywhere_of_presents given (Batch.everywhere_of_envelopes envelopes raw mem)
    have data := (orderly.members.2 _ (Members.mem_of_get? found)).members.2
    have unembedded : ∀ entry ∈ m, entry.2.Unembedded := fun entry inside => (data entry inside).unembedded
    have plain : (∀ entry ∈ m, entry.2.Resolvable) ↔ ∀ entry ∈ m, entry.2.Plain :=
      forall₂_congr fun entry inside => Value.resolvable_iff_plain (unembedded entry inside)
    refine ⟨plain, fun i hi => ((Item.kept_of_read asc' hi).additionalData m).2 ⟨m, found, ?_⟩⟩
    rcases ((Item.exists_item_iff asc').1 ⟨i, hi⟩).additionalData _ found with null | ⟨_, same, resolvable⟩
    · cases null
    · cases same
      exact (settledMembers_iff_plain unembedded).2 ⟨plain.1 resolvable, rfl⟩

/-- A refund with a blank reference, a word for its success and a key that belongs to no item. -/
def refundMembers : Members := [
  ("amount", .array [.ofInt 5, .string "EUR"]), ("eventCode", .string "REFUND"), ("merchantAccountCode", .string "M"),
  ("originalReference", .string " "), ("pspReference", .string "P"), ("success", .string "TRUE"), ("test", .null)]

/-- In its wrapper it is an item, and the other key makes no difference. -/
theorem item_grammar_of_refund :
    let wrapped := Value.object [(Batch.wrapper, .object refundMembers)]
    (∃ i, Batch.item wrapped = .ok i ∧ i.reference = some "P" ∧ i.parentReference = none ∧ i.success = true) ∧
      Batch.item (.object (refundMembers.erase "test")) = Batch.item wrapped := by
  have scalars : ∀ entry ∈ refundMembers, entry.2.Everywhere Members.Ascending := by
    simp only [refundMembers, List.forall_mem_cons, List.not_mem_nil, false_imp_iff, implies_true, and_true]
    refine ⟨.array ?_, .string _, .string _, .string _, .string _, .string _, .null⟩
    simpa [Value.ofInt] using ⟨.number _, .string _⟩
  have asc : (Value.object refundMembers).Everywhere Members.Ascending := by
    refine .object ?_ scalars
    unfold Members.Ascending
    decide
  have wrapped : (Value.object [(Batch.wrapper, .object refundMembers)]).Everywhere Members.Ascending :=
    .object (List.pairwise_singleton _ _) (by simpa using asc)
  obtain ⟨readable, kept, others, -⟩ := item_grammar wrapped (.wrapped rfl)
  have grammar : Item.Grammar (fun m => ∀ entry ∈ m, entry.2.Resolvable) refundMembers := by
    refine ⟨?_, ⟨"M", by decide⟩, ⟨"REFUND", by decide⟩, ⟨_, true, by decide, .word (s := "TRUE") (by decide)⟩, ?_, ?_⟩
    · simp [Item.texts, OrNull, refundMembers, Members.get?_cons]
    · intro x hx
      rw [show refundMembers.get? "amount" = some (.array [.ofInt 5, .string "EUR"]) by decide] at hx
      cases hx
      exact .inr ⟨5, "EUR", by decide, by decide, .array⟩
    · simp [OrNull, refundMembers, Members.get?_cons]
  obtain ⟨i, hi⟩ := readable.2 grammar
  obtain ⟨reference, parent, -⟩ := Item.forall_texts_iff.1 (kept i hi).texts
  obtain ⟨v, found, truth⟩ := (kept i hi).success
  refine ⟨⟨i, hi, (reference "P").2 ⟨by decide, 'P', by simp, by decide⟩, ?_, ?_⟩, ?_⟩
  · refine Option.eq_none_iff_forall_ne_some.2 fun s hs => ?_
    obtain ⟨found, c, mem, solid⟩ := (parent s).1 hs
    cases found.symm.trans (show refundMembers.get? "originalReference" = some (.string " ") by decide)
    have blank : c = ' ' := by simpa using mem
    rw [blank] at solid
    revert solid
    decide
  · cases found.symm.trans (show refundMembers.get? "success" = some (.string "TRUE") by decide)
    cases truth with
    | word same =>
      cases success : i.success with
      | true => rfl
      | false =>
        rw [success] at same
        cases same
  · have left : (Value.object (refundMembers.erase "test")).Everywhere Members.Ascending :=
      .object (List.Pairwise.filter _ asc.members.1) fun entry mem => scalars entry (List.mem_filter.1 mem).1
    exact others _ _ left (.bare (by decide)) (by decide)

/-- A refund whose additional data hold an object that begins with the reserved key, but not in the text. -/
def reservedText : String :=
  "\x7b\"merchantAccountCode\":\"M\",\"eventCode\":\"REFUND\",\"success\":true," ++
    "\"additionalData\":\x7b\"x\":\x7b\"a\":1,\"$serde_json::private::RawValue\":5\x7d\x7d\x7d"

def reservedMembers : Members := [
  ("additionalData", .object [("x", .object [(embeddedKey, .ofInt 5), ("a", .ofInt 1)])]),
  ("eventCode", .string "REFUND"), ("merchantAccountCode", .string "M"), ("success", .bool true)]

/-- Additional data are an object, and yet there is no item. -/
theorem reserved_key_unreadable :
    Envelopes (Delivery.envelopeText [reservedText]) [.object reservedMembers] ∧
      Batch.Presents (.object reservedMembers) reservedMembers ∧ Item.Grammar (fun _ => True) reservedMembers ∧
      Unreadable (.object reservedMembers) := by
  refine ⟨⟨none, by decide +kernel⟩, .bare rfl, ?_, fun i hi => nomatch hi⟩
  have found : reservedMembers.get? "additionalData" =
    some (.object [("x", .object [(embeddedKey, .ofInt 5), ("a", .ofInt 1)])]) := by decide
  refine ⟨?_, ⟨"M", by decide⟩, ⟨"REFUND", by decide⟩, ⟨_, true, by decide, .value⟩, ?_, ?_⟩
  · simp [Item.texts, OrNull, reservedMembers, Members.get?_cons]
  · simp [OrNull, reservedMembers, Members.get?_cons]
  · intro x hx
    rw [found] at hx
    cases hx
    exact .inr ⟨_, rfl, trivial⟩

end Reconciliation.Notification
