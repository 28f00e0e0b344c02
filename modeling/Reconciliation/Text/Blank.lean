/-!
# Blanks and letter case

* `isBlank` is the Unicode property White_Space; `trim`, `trimStart`, `trimEnd` cut blanks off a text, `withoutMark` a
  byte order mark.
* `lower`, `upper` change the 26 ASCII letters and nothing else; `sameLetters` compares up to that change.
* `lower_trim_lower_trim`: a text that was trimmed and put in lower case stays as it is.
-/

namespace Reconciliation.Text

/-- White space in the sense of Unicode. -/
def isBlank (c : Char) : Bool :=
  let n := c.toNat
  (9 ≤ n && n ≤ 13) || n == 0x20 || n == 0x85 || n == 0xA0 || n == 0x1680 ||
    (0x2000 ≤ n && n ≤ 0x200A) || n == 0x2028 || n == 0x2029 || n == 0x202F || n == 0x205F || n == 0x3000

/-- Cuts the characters with property `p` off both ends. -/
def stripBoth (p : Char → Bool) (s : List Char) : List Char :=
  ((s.dropWhile p).reverse.dropWhile p).reverse

/-- The text without the blanks at its ends. -/
def trim (s : String) : String := String.ofList (stripBoth isBlank s.toList)

/-- The characters from the first that is no blank. -/
def trimStart (s : List Char) : List Char := s.dropWhile isBlank

/-- The text without the trailing characters that satisfy `p`. -/
def trimEnd (p : Char → Bool) (s : String) : String :=
  String.ofList (s.toList.reverse.dropWhile p).reverse

/-- The characters behind a byte order mark, if there is one. -/
def withoutMark : List Char → List Char
  | [] => []
  | c :: rest => if c.toNat = 0xFEFF then rest else c :: rest

/-- A text of blanks only; the empty text is one. -/
def allBlank (s : String) : Bool := s.toList.all isBlank

/-- ASCII letters in lower case. -/
def lower (s : String) : String := String.ofList (s.toList.map Char.toLower)

/-- ASCII letters in upper case. -/
def upper (s : String) : String := String.ofList (s.toList.map Char.toUpper)

/-- Equality up to the case of ASCII letters. -/
def sameLetters (s t : String) : Bool := s.toList.map Char.toLower == t.toList.map Char.toLower

/-! ### Doing it again -/

/-- A letter in lower case is the letter itself, or both are ASCII letters. -/
theorem toNat_toLower (c : Char) :
    c.toLower = c ∨ 65 ≤ c.toNat ∧ c.toNat ≤ 90 ∧ c.toLower.toNat = c.toNat + 32 := by
  unfold Char.toLower
  split
  · next h =>
    have low : 65 ≤ c.val.toNat := UInt32.le_iff_toNat_le.1 h.1
    have high : c.val.toNat ≤ 90 := UInt32.le_iff_toNat_le.1 h.2
    refine .inr ⟨low, high, ?_⟩
    show (c.val + ('a'.val - 'A'.val)).toNat = c.val.toNat + 32
    rw [UInt32.toNat_add, show ('a'.val - 'A'.val).toNat = 32 from rfl]
    omega
  · exact .inl rfl

theorem isBlank_toLower (c : Char) : isBlank c.toLower = isBlank c := by
  rcases toNat_toLower c with same | ⟨low, high, shifted⟩
  · rw [same]
  · have letter {d : Char} (h : 65 ≤ d.toNat) (h' : d.toNat ≤ 122) : isBlank d = false := by
      simp [isBlank]
      omega
    rw [letter low (by omega), letter (by omega) (by omega)]

theorem toLower_toLower (c : Char) : c.toLower.toLower = c.toLower := by
  rcases toNat_toLower c.toLower with same | ⟨low, high, -⟩
  · exact same
  · rcases toNat_toLower c with same | ⟨_, _, shifted⟩
    · rw [same, same]
    · omega

theorem dropWhile_of_head {p : Char → Bool} {s : List Char} (h : ∀ ne : s ≠ [], p (s.head ne) = false) :
    s.dropWhile p = s := by
  cases s with
  | nil => rfl
  | cons c rest => rw [List.dropWhile_cons_of_neg (by simpa using h (List.cons_ne_nil c rest))]

/-- Where the ends were cut off, nothing is left to cut. -/
theorem stripBoth_stripBoth (p : Char → Bool) (s : List Char) : stripBoth p (stripBoth p s) = stripBoth p s := by
  have front : (stripBoth p s).dropWhile p = stripBoth p s := by
    have first : stripBoth p s <+: s.dropWhile p := by
      rw [← List.reverse_suffix, stripBoth, List.reverse_reverse]
      exact List.dropWhile_suffix p
    exact dropWhile_of_head fun ne => first.head ne ▸ List.head_dropWhile_not p _
  have back : (stripBoth p s).reverse.dropWhile p = (stripBoth p s).reverse := by
    rw [stripBoth, List.reverse_reverse]
    exact dropWhile_of_head (List.head_dropWhile_not p)
  rw [stripBoth, front, back, List.reverse_reverse]

theorem stripBoth_map_toLower (s : List Char) :
    stripBoth isBlank (s.map Char.toLower) = (stripBoth isBlank s).map Char.toLower := by
  have same : isBlank ∘ Char.toLower = isBlank := funext isBlank_toLower
  simp only [stripBoth, List.dropWhile_map, same, ← List.map_reverse]

/-- A text that was trimmed and put in lower case is left as it is when this is done again. -/
theorem lower_trim_lower_trim (s : String) : lower (trim (lower (trim s))) = lower (trim s) := by
  simp only [lower, trim, String.toList_ofList, stripBoth_map_toLower, stripBoth_stripBoth, List.map_map]
  exact congrArg String.ofList (List.map_congr_left fun c _ => toLower_toLower c)

end Reconciliation.Text
