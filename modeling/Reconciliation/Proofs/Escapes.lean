import Mathlib.Data.List.Basic
import Reconciliation.Http.Url

/-!
# What escaped texts stand for

A percent sign with two hexadecimal digits behind it is an escape and stands for a byte; every other character stands for
the bytes of its own. So a text without escapes stands for itself, and escaping keeps what a text stands for, since a
percent sign is left as it is, and so are digits: a text has the same escapes before and after, with those of the unsafe
characters in addition.

* `escapes_induction` goes through a text by escapes and other characters.
* `unescape_escape`, `unescape_eq` and `length_unescape_lt` are what comes of it.
-/

namespace Reconciliation.Http

open Text

/-! ### Escapes in a text -/

/-- A text begins with two hexadecimal digits. -/
def startsHex : List Char → Bool
  | a :: b :: _ => (Ident.hexDigit? a).isSome && (Ident.hexDigit? b).isSome
  | _ => false

/-- Somewhere in a text there is an escape. -/
def hasEscape : List Char → Bool
  | [] => false
  | c :: rest => (c = '%' && startsHex rest) || hasEscape rest

/-- Two digits behind a percent sign stand for a byte. -/
theorem unescape_byte {a b : Char} {x y : Nat} (ha : Ident.hexDigit? a = some x) (hb : Ident.hexDigit? b = some y)
    (rest : List Char) : unescape ('%' :: a :: b :: rest) = UInt8.ofNat (x * 16 + y) :: unescape rest := by
  rw [unescape, ha, hb]

/-- Any other character stands for its own bytes. -/
theorem unescape_char {c : Char} {rest : List Char} (h : c = '%' → startsHex rest = false) :
    unescape (c :: rest) = String.utf8EncodeChar c ++ unescape rest := by
  by_cases hc : c = '%'
  · subst hc
    match rest with
    | [] | [_] =>
      rw [unescape]
      simp
    | a :: b :: rest =>
      have pair := h rfl
      rw [startsHex] at pair
      rw [unescape]
      split
      · next ha hb => simp [ha, hb] at pair
      · rfl
  · rw [unescape]
    rintro _ _ _ rfl
    exact absurd rfl hc

/-- A text begins with an escape or with another character. -/
theorem escapes_induction {motive : List Char → Prop} (nil : motive [])
    (byte : ∀ a b x y rest, Ident.hexDigit? a = some x → Ident.hexDigit? b = some y → motive rest →
      motive ('%' :: a :: b :: rest))
    (char : ∀ c rest, (c = '%' → startsHex rest = false) → motive rest → motive (c :: rest)) (cs : List Char) :
    motive cs := by
  match cs with
  | [] => exact nil
  | [c] => exact char c [] (fun _ => rfl) nil
  | c :: a :: rest =>
    have behind := escapes_induction nil byte char (a :: rest)
    by_cases escaped : c = '%' ∧ startsHex (a :: rest) = true
    · obtain ⟨rfl, pair⟩ := escaped
      match rest with
      | [] => cases pair
      | b :: rest =>
        obtain ⟨ha, hb⟩ := Bool.and_eq_true_iff.1 pair
        obtain ⟨x, ha⟩ := Option.isSome_iff_exists.1 ha
        obtain ⟨y, hb⟩ := Option.isSome_iff_exists.1 hb
        exact byte a b x y rest ha hb (escapes_induction nil byte char rest)
    · exact char c (a :: rest) (fun hc => by simpa [hc] using escaped) behind
termination_by cs.length

/-! ### Texts without escapes -/

/-- The bytes of the characters themselves. -/
def bytes (cs : List Char) : Utf8.Bytes := cs.flatMap String.utf8EncodeChar

theorem bytes_cons (c : Char) (cs : List Char) : bytes (c :: cs) = String.utf8EncodeChar c ++ bytes cs := rfl

theorem length_bytes_cons (c : Char) (cs : List Char) : (bytes cs).length < (bytes (c :: cs)).length := by
  have := c.utf8Size_pos
  rw [bytes_cons, List.length_append, String.length_utf8EncodeChar]
  omega

theorem length_bytes_le {part cs : List Char} (h : part.Sublist cs) : (bytes part).length ≤ (bytes cs).length := by
  induction h with
  | slnil => exact Nat.le_refl _
  | cons c _ ih => exact Nat.le_of_lt (Nat.lt_of_le_of_lt ih (length_bytes_cons c _))
  | cons_cons c _ ih =>
    rw [bytes_cons, bytes_cons, List.length_append, List.length_append]
    omega

theorem bytes_injective {cs ds : List Char} (h : bytes cs = bytes ds) : cs = ds := by
  have texts : String.ofList cs = String.ofList ds := by
    rw [← String.toByteArray_inj, String.toByteArray_ofList, String.toByteArray_ofList]
    exact congrArg List.toByteArray h
  rw [← String.toList_ofList (l := cs), texts, String.toList_ofList]

/-- A text without escapes stands for itself. -/
theorem unescape_eq {cs : List Char} (h : hasEscape cs = false) : unescape cs = bytes cs := by
  induction cs with
  | nil => rw [unescape]; rfl
  | cons c rest ih =>
    obtain ⟨here, behind⟩ := Bool.or_eq_false_iff.1 h
    rw [unescape_char fun hc => by simpa [hc] using here, ih behind, bytes_cons]

theorem length_unescape_le (cs : List Char) : (unescape cs).length ≤ (bytes cs).length := by
  induction cs using escapes_induction with
  | nil => rw [unescape]; exact Nat.le_refl _
  | byte a b x y rest ha hb ih =>
    rw [unescape_byte ha hb]
    have := length_bytes_cons '%' (a :: b :: rest)
    have := length_bytes_cons a (b :: rest)
    have := length_bytes_cons b rest
    rw [List.length_cons]
    omega
  | char c rest h ih =>
    rw [unescape_char h, bytes_cons, List.length_append, List.length_append]
    omega

/-- An escape is longer than the byte it stands for. -/
theorem length_unescape_lt {cs : List Char} (h : hasEscape cs = true) : (unescape cs).length < (bytes cs).length := by
  induction cs using escapes_induction with
  | nil => cases h
  | byte a b x y rest ha hb =>
    rw [unescape_byte ha hb]
    have := length_unescape_le rest
    have := length_bytes_cons '%' (a :: b :: rest)
    have := length_bytes_cons a (b :: rest)
    have := length_bytes_cons b rest
    rw [List.length_cons]
    omega
  | char c rest here ih =>
    have behind : hasEscape rest = true := by
      rw [hasEscape, Bool.or_eq_true] at h
      exact h.resolve_left fun escaped => by simp_all
    have := ih behind
    rw [unescape_char here, bytes_cons, List.length_append, List.length_append]
    omega

/-! ### Escaping -/

theorem hexDigit?_digit {n : Nat} (h : n < 16) : Ident.hexDigit? (Nat.digitChar n).toUpper = some n := by
  have digits : ∀ n < 16, Ident.hexDigit? (Nat.digitChar n).toUpper = some n := by decide
  exact digits n h

theorem hexDigit?_of_large {c : Char} (h : 128 ≤ c.toNat) : Ident.hexDigit? c = none := by
  have large : 128 ≤ c.val.toNat := h
  unfold Ident.hexDigit?
  rw [if_neg, if_neg, if_neg]
  all_goals
    simp only [Char.isDigit, ge_iff_le, Bool.and_eq_true, decide_eq_true_eq, Char.le_def, UInt32.le_iff_toNat_le]
    rintro ⟨-, small⟩
    exact absurd (Nat.le_trans large small) (by decide)

/-- Digits are written as they are. -/
theorem isUnsafe_of_isSome {c : Char} (h : (Ident.hexDigit? c).isSome = true) : isUnsafe Url.pathExtra c = false := by
  have ascii : ∀ n < 128, (Ident.hexDigit? (Char.ofNat n)).isSome = true →
      isUnsafe Url.pathExtra (Char.ofNat n) = false := by decide
  by_cases small : c.toNat < 128
  · have := ascii c.toNat small
    rw [Char.ofNat_toNat] at this
    exact this h
  · rw [hexDigit?_of_large (Nat.le_of_not_lt small)] at h
    cases h

theorem isUnsafe_percent : isUnsafe Url.pathExtra '%' = false := by decide

theorem escape_cons (extra : List Char) (c : Char) (cs : List Char) : escape extra (c :: cs) =
    (if isUnsafe extra c then (String.utf8EncodeChar c).flatMap percent else [c]) ++ escape extra cs := rfl

theorem escape_cons_of_safe {extra : List Char} {c : Char} (h : isUnsafe extra c = false) (cs : List Char) :
    escape extra (c :: cs) = c :: escape extra cs := by
  rw [escape_cons, if_neg (by simp [h])]
  rfl

/-- The bytes of an unsafe character stand behind percent signs. -/
theorem escape_cons_of_unsafe {extra : List Char} {c : Char} (h : isUnsafe extra c = true) (cs : List Char) :
    ∃ more, escape extra (c :: cs) = '%' :: more := by
  rw [escape_cons, if_pos h]
  cases hc : String.utf8EncodeChar c with
  | nil => exact absurd hc String.utf8EncodeChar_ne_nil
  | cons b bs => exact ⟨_, rfl⟩

theorem startsHex_escape (cs : List Char) : startsHex (escape Url.pathExtra cs) = startsHex cs := by
  have none {a : Char} (h : isUnsafe Url.pathExtra a = true) : (Ident.hexDigit? a).isSome = false := by
    rw [Bool.eq_false_iff]
    exact fun digit => absurd h (by simp [isUnsafe_of_isSome digit])
  have sign (more : List Char) : startsHex ('%' :: more) = false := by cases more <;> rfl
  match cs with
  | [] => rfl
  | [a] =>
    cases ha : isUnsafe Url.pathExtra a with
    | false => rw [escape_cons_of_safe ha]; rfl
    | true =>
      obtain ⟨more, written⟩ := escape_cons_of_unsafe ha []
      rw [written, sign]
      rfl
  | a :: b :: rest =>
    cases ha : isUnsafe Url.pathExtra a with
    | true =>
      obtain ⟨more, written⟩ := escape_cons_of_unsafe ha (b :: rest)
      rw [written, sign, startsHex, none ha, Bool.false_and]
    | false =>
      rw [escape_cons_of_safe ha]
      cases hb : isUnsafe Url.pathExtra b with
      | true =>
        obtain ⟨more, written⟩ := escape_cons_of_unsafe hb rest
        rw [written, startsHex, startsHex, none hb, Bool.and_false]
        exact Bool.and_false _
      | false => rw [escape_cons_of_safe hb, startsHex, startsHex]

theorem unescape_percent (b : UInt8) (rest : List Char) : unescape (percent b ++ rest) = b :: unescape rest := by
  have small := b.toNat_lt
  have read := unescape_byte (hexDigit?_digit (n := b.toNat / 16) (by omega))
    (hexDigit?_digit (n := b.toNat % 16) (by omega)) rest
  rw [Nat.div_add_mod' b.toNat 16, UInt8.ofNat_toNat] at read
  exact read

theorem unescape_percents (bs : Utf8.Bytes) (rest : List Char) :
    unescape (bs.flatMap percent ++ rest) = bs ++ unescape rest := by
  induction bs with
  | nil => rfl
  | cons b bs ih => rw [List.flatMap_cons, List.append_assoc, unescape_percent, ih, List.cons_append]

/-- Escaping keeps what a text stands for. -/
theorem unescape_escape (cs : List Char) : unescape (escape Url.pathExtra cs) = unescape cs := by
  induction cs using escapes_induction with
  | nil => rfl
  | byte a b x y rest ha hb ih =>
    rw [escape_cons_of_safe isUnsafe_percent, escape_cons_of_safe (isUnsafe_of_isSome (by rw [ha]; rfl)),
      escape_cons_of_safe (isUnsafe_of_isSome (by rw [hb]; rfl)), unescape_byte ha hb, unescape_byte ha hb, ih]
  | char c rest h ih =>
    rw [unescape_char h, ← ih]
    cases hc : isUnsafe Url.pathExtra c with
    | false => rw [escape_cons_of_safe hc, unescape_char (by rwa [startsHex_escape])]
    | true => rw [escape_cons, if_pos hc, unescape_percents]

theorem mem_percent {c : Char} {b : UInt8} (h : c ∈ percent b) : c = '%' ∨ (Ident.hexDigit? c).isSome = true := by
  have small := b.toNat_lt
  have digit {n : Nat} (hn : n < 16) : (Ident.hexDigit? (Nat.digitChar n).toUpper).isSome = true := by
    rw [hexDigit?_digit hn]
    rfl
  simp only [percent, List.mem_cons, List.not_mem_nil, or_false] at h
  obtain rfl | rfl | rfl := h
  · exact .inl rfl
  · exact .inr (digit (by omega))
  · exact .inr (digit (by omega))

/-- Escaping brings in percent signs and digits, and leaves no unsafe character. -/
theorem mem_escape {extra cs : List Char} {c : Char} (h : c ∈ escape extra cs) (sign : c ≠ '%')
    (digit : Ident.hexDigit? c = none) : c ∈ cs ∧ isUnsafe extra c = false := by
  rw [escape, List.mem_flatMap] at h
  obtain ⟨d, hd, among⟩ := h
  split at among
  · obtain ⟨b, -, hb⟩ := List.mem_flatMap.1 among
    rcases mem_percent hb with rfl | some
    · exact absurd rfl sign
    · rw [digit] at some
      cases some
  · next safe =>
    obtain rfl := List.mem_singleton.1 among
    exact ⟨hd, by simpa using safe⟩

end Reconciliation.Http
