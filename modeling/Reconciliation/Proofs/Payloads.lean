import Reconciliation.Notification.Batch
import Reconciliation.Proofs.Decoding
import Reconciliation.Proofs.Unsigned

/-!
# What a payload stands for

The payload that is signed is eight fields divided by colons, and an absent field is written as nothing. For items that
were read this loses nothing, as long as the fields have no colons of their own: no reference that is there is blank, an
amount that is there has digits, and each event has one code.

* `intText_injective`: a number has one text, and `splitOn_signingPayload` says that no field is divided by a colon.
* `Item.AsRead` is what reading makes sure of, and `Item.asRead_of_parsed` says so.
* `signedAlike_of_signedFields` goes from the fields as they are written back to the item, `payload_unambiguous` from the
  payload.
-/

namespace Reconciliation

/-! ### Numbers -/

namespace Number

theorem toDigits_injective {m n : Nat} (h : Nat.toDigits 10 m = Nat.toDigits 10 n) : m = n := by
  rw [← Nat.ofDigitChars_ten_toDigits (n := m), h, Nat.ofDigitChars_ten_toDigits]

theorem toList_intText (i : Int) :
    (intText i).toList = (if i < 0 then ['-'] else []) ++ Nat.toDigits 10 i.natAbs := by
  unfold intText digitsText
  split <;> simp

theorem not_mem_toDigits {c : Char} (h : c.isDigit = false) (n : Nat) : c ∉ Nat.toDigits 10 n := fun digit => by
  rw [Nat.isDigit_of_mem_toDigits (by decide) (by decide) digit] at h
  cases h

theorem minus_cons_ne_toDigits (cs : List Char) (n : Nat) : '-' :: cs ≠ Nat.toDigits 10 n := fun h =>
  not_mem_toDigits (c := '-') rfl n (by rw [← h]; exact List.mem_cons_self)

theorem intText_injective {i j : Int} (h : intText i = intText j) : i = j := by
  have same := congrArg String.toList h
  rw [toList_intText, toList_intText] at same
  split at same <;> split at same
  · have := toDigits_injective (List.append_cancel_left same)
    omega
  · exact absurd same (minus_cons_ne_toDigits _ _)
  · exact absurd same.symm (minus_cons_ne_toDigits _ _)
  · have := toDigits_injective (List.append_cancel_left same)
    omega

theorem intText_ne_empty (i : Int) : intText i ≠ "" := fun h => by
  have none := congrArg String.toList h
  rw [toList_intText] at none
  exact Nat.toDigits_ne_nil (List.append_eq_nil_iff.1 none).2

theorem colon_not_mem_intText (i : Int) : ':' ∉ (intText i).toList := by
  rw [toList_intText, List.mem_append, not_or]
  refine ⟨?_, not_mem_toDigits rfl _⟩
  split <;> decide

end Number

namespace Notification

open Json Number

/-! ### Items that were read -/

namespace Item

/-- The item was read, from a text of its own or from a value. -/
def Parsed (i : Item) : Prop := (∃ text, decoder.parse text = .ok i) ∨ ∃ v, decoder.ofValue v = .ok i

/-- What holds of items that were read: no reference is blank, and the event is the one that its code names. -/
structure AsRead (i : Item) : Prop where
  reference : ∀ s ∈ i.reference, Text.allBlank s = false
  parentReference : ∀ s ∈ i.parentReference, Text.allBlank s = false
  merchantReference : ∀ s ∈ i.merchantReference, Text.allBlank s = false
  eventCode : i.eventCode = .ofText i.eventCode.text

/-- A text that may be left out is not blank where it is there. -/
theorem not_allBlank_of_yields {name : String} {x : Option String}
    (h : (Field.defaulted name optionalText none).Yields x) : ∀ s ∈ x, Text.allBlank s = false := by
  rcases h with read | absent | absent
  · obtain ⟨y, -, rfl⟩ := read.map
    intro s hs
    obtain ⟨-, solid⟩ := Option.filter_eq_some_iff.1 hs
    simpa using solid
  · cases absent
    exact fun _ => nofun
  · cases absent
    exact fun _ => nofun

/-- An event that was read is the one that its code names. -/
theorem eventCode_of_yields {name : String} {e : EventCode} (h : (Field.required name EventCode.decoder).Yields e) :
    e = .ofText e.text := by
  rcases h with read | absent | absent
  · obtain ⟨text, -, rfl⟩ := read.map
    rw [EventCode.text_ofText]
  · cases absent
  · cases absent

theorem asRead_of_yields {i : Item} (h : decoder.Yields i) : i.AsRead := by
  obtain ⟨row, read, rfl⟩ := h.map
  obtain ⟨reference, parent, -, merchantReference, code, -⟩ := Record.yields_of_decoder read
  exact ⟨not_allBlank_of_yields reference, not_allBlank_of_yields parent, not_allBlank_of_yields merchantReference,
    eventCode_of_yields code⟩

theorem asRead_of_parsed {i : Item} (h : i.Parsed) : i.AsRead := by
  rcases h with ⟨text, parsed⟩ | value
  · exact asRead_of_yields (Decoder.yields_of_parse parsed)
  · exact asRead_of_yields (.inr value)

/-- The items of a batch were read from the values in it. -/
theorem exists_of_mem_sort {index : Nat} {raw : List Value} {i : Item} (h : i ∈ (Batch.sort index raw).1) :
    ∃ v ∈ raw, Batch.item v = .ok i := by
  induction raw generalizing index with
  | nil => cases h
  | cons v raw ih =>
    rw [Batch.sort] at h
    dsimp only at h
    split at h
    · next parsed =>
      rcases List.mem_cons.1 h with rfl | h
      · exact ⟨v, List.mem_cons_self, parsed⟩
      · obtain ⟨w, mem, read⟩ := ih h
        exact ⟨w, List.mem_cons_of_mem _ mem, read⟩
    · obtain ⟨w, mem, read⟩ := ih h
      exact ⟨w, List.mem_cons_of_mem _ mem, read⟩

/-! ### The fields and their colons -/

/-- None of the texts that are signed has a colon. -/
structure ColonFree (i : Item) : Prop where
  reference : ∀ s ∈ i.reference, ':' ∉ s.toList
  parentReference : ∀ s ∈ i.parentReference, ':' ∉ s.toList
  merchantAccount : ':' ∉ i.merchantAccount.toList
  merchantReference : ∀ s ∈ i.merchantReference, ':' ∉ s.toList
  currency : ∀ a ∈ i.amount, ':' ∉ a.currency.toList
  eventCode : ':' ∉ i.eventCode.text.toList

theorem colon_not_mem_getD {x : Option String} (h : ∀ s ∈ x, ':' ∉ s.toList) : ':' ∉ (x.getD "").toList := by
  cases x with
  | none => decide
  | some s => exact h s rfl

theorem ColonFree.signedFields {i : Item} (h : i.ColonFree) : ∀ s ∈ i.signedFields, ':' ∉ s.toList := by
  have units : ∀ s ∈ i.amount.map fun a => intText a.units.toInt, ':' ∉ s.toList := by
    intro s hs
    obtain ⟨a, -, rfl⟩ := Option.map_eq_some_iff.1 hs
    exact colon_not_mem_intText _
  have currency : ∀ s ∈ i.amount.map (·.currency), ':' ∉ s.toList := by
    intro s hs
    obtain ⟨a, ha, rfl⟩ := Option.map_eq_some_iff.1 hs
    exact h.currency a ha
  have success : ':' ∉ (if i.success then "true" else "false" : String).toList := by
    cases i.success <;> decide
  simp only [Item.signedFields, List.forall_mem_cons, List.not_mem_nil, false_imp_iff, implies_true, and_true]
  exact ⟨colon_not_mem_getD h.reference, colon_not_mem_getD h.parentReference, h.merchantAccount,
    colon_not_mem_getD h.merchantReference, colon_not_mem_getD units, colon_not_mem_getD currency, h.eventCode, success⟩

/-- The colons of a payload are those between the fields. -/
theorem splitOn_signingPayload {i : Item} (h : i.ColonFree) :
    i.signingPayload.toList.splitOn ':' = i.signedFields.map String.toList := by
  rw [signingPayload, String.toList_intercalate, show ":".toList = [':'] from rfl]
  refine List.splitOn_intercalate ':' ?_ (by simp [signedFields])
  intro l hl
  obtain ⟨s, hs, rfl⟩ := List.mem_map.1 hl
  exact h.signedFields s hs

/-! ### From the fields to the item -/

theorem getD_injective {x y : Option String} (hx : ∀ s ∈ x, s ≠ "") (hy : ∀ s ∈ y, s ≠ "")
    (h : x.getD "" = y.getD "") : x = y := by
  cases x with
  | none =>
    cases y with
    | none => rfl
    | some t => exact absurd h.symm (hy t rfl)
  | some s =>
    cases y with
    | none => exact absurd h (hx s rfl)
    | some t => exact congrArg some h

theorem ne_empty_of_solid {x : Option String} (h : ∀ s ∈ x, Text.allBlank s = false) : ∀ s ∈ x, s ≠ "" := by
  rintro _ hs rfl
  cases h _ hs

theorem units_injective {x y : Option MinorAmount}
    (h : (x.map fun a => intText a.units.toInt).getD "" = (y.map fun a => intText a.units.toInt).getD "") :
    x.map (·.units) = y.map (·.units) := by
  have digits : ∀ z : Option MinorAmount, ∀ s ∈ z.map fun a => intText a.units.toInt, s ≠ "" := by
    intro z s hs
    obtain ⟨a, -, rfl⟩ := Option.map_eq_some_iff.1 hs
    exact intText_ne_empty _
  have same := getD_injective (digits x) (digits y) h
  cases x with
  | none =>
    cases y with
    | none => rfl
    | some b => cases same
  | some a =>
    cases y with
    | none => cases same
    | some b => exact congrArg some (Int64.toInt_inj.1 (intText_injective (Option.some.inj same)))

theorem signedAlike_of_signedFields {i j : Item} (hi : i.AsRead) (hj : j.AsRead) (h : i.signedFields = j.signedFields) :
    SignedAlike i j := by
  simp only [signedFields, List.cons.injEq, and_true] at h
  obtain ⟨reference, parent, account, merchantReference, units, currency, code, success⟩ := h
  have units := units_injective units
  refine ⟨(getD_injective (ne_empty_of_solid hi.reference) (ne_empty_of_solid hj.reference) reference).symm,
    (getD_injective (ne_empty_of_solid hi.parentReference) (ne_empty_of_solid hj.parentReference) parent).symm,
    account.symm,
    (getD_injective (ne_empty_of_solid hi.merchantReference) (ne_empty_of_solid hj.merchantReference)
      merchantReference).symm, units.symm, ?_, ?_, ?_⟩
  · -- an amount has a currency, even if it is empty, exactly where it has units
    cases hx : i.amount with
    | none =>
      rw [hx] at units
      rw [Option.map_eq_none_iff.1 units.symm]
    | some a =>
      cases hy : j.amount with
      | none => simp [hx, hy] at units
      | some b =>
        rw [hx, hy] at currency
        exact congrArg some currency.symm
  · rw [hi.eventCode, hj.eventCode, code]
  · revert success
    cases i.success <;> cases j.success <;> simp

/-- Two items that were read have the same payload exactly if they agree on all that is signed, absence included. -/
theorem payload_unambiguous {i j : Item} (hi : i.Parsed) (hj : j.Parsed) (freeI : i.ColonFree) (freeJ : j.ColonFree) :
    i.signingPayload = j.signingPayload ↔ SignedAlike i j := by
  constructor
  · intro h
    have parts := splitOn_signingPayload freeI
    rw [h, splitOn_signingPayload freeJ] at parts
    have fields : j.signedFields = i.signedFields := List.map_injective_iff.2 (fun _ _ => String.toList_injective) parts
    exact signedAlike_of_signedFields (asRead_of_parsed hi) (asRead_of_parsed hj) fields.symm
  · intro h
    have fields : j.signedFields = i.signedFields := by
      rw [signedFields, h.reference, h.parentReference, h.merchantAccount, h.merchantReference, h.amount, h.eventCode,
        h.success]
      rfl
    rw [signingPayload, signingPayload, fields]

/-- An item of a code that is not known, with a blank reference and a word for its success. -/
def sparse : Value := .ofPairs [
  ("pspReference", .string "P"), ("originalReference", .string " "), ("merchantAccountCode", .string ""),
  ("eventCode", .string "MANUAL_REVIEW"), ("success", .string "TRUE"), ("amount", .null)]

/-- The same item without all that says nothing. -/
def bare : Value := .ofPairs [
  ("pspReference", .string "P"), ("merchantAccountCode", .string ""), ("eventCode", .string "MANUAL_REVIEW"),
  ("success", .bool true), ("reason", .string "not signed")]

/-- They have one payload, so that they agree on what is signed. -/
theorem payload_unambiguous_of_sparse : ∃ i j, decoder.ofValue sparse = .ok i ∧ decoder.ofValue bare = .ok j ∧
    i.signingPayload = "P::::::MANUAL_REVIEW:true" ∧ i.signingPayload = j.signingPayload ∧ SignedAlike i j := by
  refine ⟨⟨some "P", none, "", none, .other "MANUAL_REVIEW", true, none, none, none, none, none⟩,
    ⟨some "P", none, "", none, .other "MANUAL_REVIEW", true, none, some "not signed", none, none, none⟩,
    by decide +kernel, by decide +kernel, by decide +kernel, by decide +kernel, ?_⟩
  refine (payload_unambiguous (.inr ⟨sparse, by decide +kernel⟩) (.inr ⟨bare, by decide +kernel⟩) ?_ ?_).1
    (by decide +kernel)
  · exact ⟨by decide, by decide, by decide, by decide, by decide, by decide⟩
  · exact ⟨by decide, by decide, by decide, by decide, by decide, by decide⟩

end Item

end Notification
end Reconciliation
