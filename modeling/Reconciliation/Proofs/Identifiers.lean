import Reconciliation.Ident
import Reconciliation.Text.Blank
import Mathlib.Data.List.TakeWhile

/-!
# Identifiers and their texts

The text of a known number is read back as that number, and has no blanks that could be cut off.

* `ofHexDigits?_hexDigits`: hexadecimal digits give back the number that they were written for.
* `ofGroups?_grouped`: the hyphens between the groups make no difference.
* `ofText?_trim_text` is the statement about the text of an identifier.
-/

namespace Reconciliation

namespace Text

theorem stripBoth_eq_self {p : Char → Bool} {cs : List Char} (h : ∀ c ∈ cs, p c = false) : stripBoth p cs = cs := by
  have front : cs.dropWhile p = cs := List.dropWhile_eq_self_iff.2 fun _ => by simp [h]
  have back : cs.reverse.dropWhile p = cs.reverse :=
    List.dropWhile_eq_self_iff.2 fun _ => by simp [h]
  rw [stripBoth, front, back, List.reverse_reverse]

theorem utf8ByteSize_ofList {cs : List Char} (h : ∀ c ∈ cs, c.utf8Size = 1) :
    (String.ofList cs).utf8ByteSize = cs.length := by
  induction cs with
  | nil => rfl
  | cons c rest ih =>
    rw [List.forall_mem_cons] at h
    rw [← List.singleton_append, String.ofList_append, String.utf8ByteSize_append, ih h.2, ← String.singleton_eq_ofList,
      String.utf8ByteSize_singleton, h.1, List.length_append, List.length_singleton]

end Text

namespace Ident

open Text

/-! ### Digits -/

theorem hexDigit?_digitChar : ∀ d : Fin 16, hexDigit? (Nat.digitChar d) = some d.val := by decide

theorem length_hexDigits (count n : Nat) : (hexDigits count n).length = count := by
  simp [hexDigits]

/-- All digits but the last are those of the number without the last. -/
theorem hexDigits_succ (count n : Nat) :
    hexDigits (count + 1) n = hexDigits count (n / 16) ++ [Nat.digitChar (n % 16)] := by
  unfold hexDigits
  rw [List.range_succ, List.map_append]
  congr 1
  · refine List.map_congr_left fun i hi => ?_
    have place : count + 1 - 1 - i = count - 1 - i + 1 := by
      have := List.mem_range.1 hi
      omega
    have quotient : n / Nat.pow 16 (count + 1 - 1 - i) = n / 16 / Nat.pow 16 (count - 1 - i) := by
      have split : Nat.pow 16 (count - 1 - i + 1) = 16 * Nat.pow 16 (count - 1 - i) := Nat.mul_comm _ _
      rw [place, split, Nat.div_div_eq_div_mul]
    rw [quotient]
  · simp

/-- Hexadecimal digits give back the number that they were written for, as far as they go. -/
theorem ofHexDigits?_hexDigits (count n : Nat) : ofHexDigits? (hexDigits count n) = some (n % Nat.pow 16 count) := by
  induction count generalizing n with
  | zero =>
    have none : n % Nat.pow 16 0 = 0 := Nat.mod_one n
    rw [none]
    rfl
  | succ count ih =>
    have last := hexDigit?_digitChar ⟨n % 16, Nat.mod_lt n (by decide)⟩
    have front := ih (n / 16)
    unfold ofHexDigits? at front ⊢
    have value : n / 16 % Nat.pow 16 count * 16 + n % 16 = n % Nat.pow 16 (count + 1) := by
      have split : Nat.pow 16 (count + 1) = 16 * Nat.pow 16 count := Nat.mul_comm _ _
      rw [split, Nat.mod_mul]
      omega
    rw [hexDigits_succ, List.foldlM_append, front]
    simpa [last] using value

/-! ### Groups -/

/-- Five groups with hyphens between them are read like the digits without hyphens. -/
theorem ofGroups?_of_lengths {a b c d e : List Char} (ha : a.length = 8) (hb : b.length = 4) (hc : c.length = 4)
    (hd : d.length = 4) (he : e.length = 12) :
    ofGroups? (a ++ '-' :: (b ++ '-' :: (c ++ '-' :: (d ++ '-' :: e)))) =
      ofHexDigits? (a ++ (b ++ (c ++ (d ++ e)))) := by
  -- behind its end, a group has nothing left
  have endA : a.drop 9 = [] ∧ a.drop 14 = [] ∧ a.drop 19 = [] ∧ a.drop 24 = [] := by simp [ha]
  have endB : b.drop 5 = [] ∧ b.drop 10 = [] ∧ b.drop 15 = [] := by simp [hb]
  have endC : c.drop 5 = [] ∧ c.drop 10 = [] := by simp [hc]
  have endD : d.drop 5 = [] := by simp [hd]
  simp [ofGroups?, List.drop_append, ha, hb, hc, hd, he, endA, endB, endC, endD]

/-- The hyphens between the groups make no difference. -/
theorem ofGroups?_grouped {cs : List Char} (h : cs.length = 32) :
    ofGroups? (grouped groupLengths cs) = ofHexDigits? cs := by
  have join (n : Nat) : (cs.drop n).take 4 ++ cs.drop (n + 4) = cs.drop n := by
    rw [← List.drop_drop, List.take_append_drop]
  have groups : grouped groupLengths cs = cs.take 8 ++ '-' :: ((cs.drop 8).take 4 ++ '-' :: ((cs.drop 12).take 4 ++
      '-' :: ((cs.drop 16).take 4 ++ '-' :: cs.drop 20))) := by
    have last : (cs.drop 20).take 12 = cs.drop 20 := List.take_of_length_le (by simp [h])
    simp [grouped, groupLengths, last]
  rw [groups, ofGroups?_of_lengths, join 16, join 12, join 8, List.take_append_drop]
  all_goals simp [h]

theorem length_grouped {cs : List Char} (h : cs.length = 32) : (grouped groupLengths cs).length = 36 := by
  simp [grouped, groupLengths, h]

theorem mem_grouped {c : Char} : (lengths : List Nat) → (cs : List Char) → c ∈ grouped lengths cs → c ∈ cs ∨ c = '-'
  | [], _, h => by simp [grouped] at h
  | [n], _, h => .inl (List.mem_of_mem_take h)
  | n :: m :: rest, cs, h => by
    rw [grouped, List.mem_append, List.mem_cons] at h
    · rcases h with h | h | h
      · exact .inl (List.mem_of_mem_take h)
      · exact .inr h
      · exact (mem_grouped _ _ h).imp_left List.mem_of_mem_drop
    · simp

/-! ### Texts -/

theorem toList_text (n : BitVec 128) : (given n).text.toList = grouped groupLengths (hexDigits 32 n.toNat) :=
  String.toList_ofList

theorem digitChar_plain : ∀ d : Fin 16, isBlank (Nat.digitChar d) = false ∧ (Nat.digitChar d).utf8Size = 1 := by
  decide

/-- Digits and hyphens are no blanks, and one byte each. -/
theorem plain_of_mem {lengths : List Nat} {count n : Nat} {c : Char} (h : c ∈ grouped lengths (hexDigits count n)) :
    isBlank c = false ∧ c.utf8Size = 1 := by
  rcases mem_grouped _ _ h with h | rfl
  · obtain ⟨i, -, rfl⟩ := List.mem_map.1 h
    exact digitChar_plain ⟨_, Nat.mod_lt _ (by decide)⟩
  · decide

/-- The text of a known number is read back as that number, and there is nothing to be cut off at its ends. -/
theorem ofText?_trim_text (n : BitVec 128) : ofText? (trim (given n).text) = .ok (given n) := by
  have untrimmed : trim (given n).text = (given n).text := by
    rw [trim, toList_text, stripBoth_eq_self fun c hc => (plain_of_mem hc).1]
    rfl
  have digits : (hexDigits 32 n.toNat).length = 32 := length_hexDigits _ _
  have size : (given n).text.utf8ByteSize = 36 := by
    rw [text, utf8ByteSize_ofList fun c hc => (plain_of_mem hc).2, length_grouped digits]
  have number : ofGroups? (given n).text.toList = some n.toNat := by
    have bounded : n.toNat < Nat.pow 16 32 := n.isLt
    rw [toList_text, ofGroups?_grouped digits, ofHexDigits?_hexDigits, Nat.mod_eq_of_lt bounded]
  rw [untrimmed, ofText?, size]
  simp [form, number]

end Ident
end Reconciliation
