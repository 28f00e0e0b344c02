import Reconciliation.Encoding.Base64

/-!
# What is read as base 64

A text is read exactly if it is the one that writes the bytes it stands for, so that no bytes have two written forms. Such
texts can be told by their characters.

* `letter_of_lt` and `of_number?`: the number of a character is its place in the `alphabet`.
* `decode?_eq_some_iff`: reading and writing are inverse to each other, in both directions.
* `Canonical` is the form of the texts that are written, and `canonical_iff` says so.
-/

namespace Reconciliation.Encoding.Base64

/-! ### Characters -/

/-- The characters in the order of their numbers. -/
def alphabet : List Char := "ABCDEFGHIJKLMNOPQRSTUVWXYZabcdefghijklmnopqrstuvwxyz0123456789+/".toList

theorem letter_of_lt {n : Nat} (h : n < 64) : alphabet[n]? = some (letter n) ∧ number? (letter n) = some n := by
  revert n
  decide

theorem letter_ne_pad (n : Nat) : letter n ≠ '=' := by
  by_cases h : n < 64
  · intro pad
    have found := (letter_of_lt h).2
    rw [pad] at found
    cases found
  · have plain : letter n = '/' := by
      unfold letter
      rw [if_neg (by omega), if_neg (by omega), if_neg (by omega), if_neg (by omega)]
    rw [plain]
    decide

theorem of_number? {c : Char} {n : Nat} (h : number? c = some n) : n < 64 ∧ letter n = c := by
  have back : Char.ofNat c.toNat = c := Char.ofNat_toNat c
  unfold number? at h
  split at h
  · next upper =>
    have bounds : 65 ≤ c.val ∧ c.val ≤ 90 := of_decide_eq_true upper
    obtain ⟨low, high⟩ : 65 ≤ c.toNat ∧ c.toNat ≤ 90 := by simpa [UInt32.le_iff_toNat_le] using bounds
    cases h
    refine ⟨by omega, ?_⟩
    rw [letter, if_pos (by omega), Nat.add_sub_cancel' low, back]
  · split at h
    · next lower =>
      have bounds : (decide (97 ≤ c.val) && decide (c.val ≤ 122)) = true := lower
      obtain ⟨low, high⟩ : 97 ≤ c.toNat ∧ c.toNat ≤ 122 := by simpa [UInt32.le_iff_toNat_le] using bounds
      cases h
      refine ⟨by omega, ?_⟩
      rw [letter, if_neg (by omega), if_pos (by omega), Nat.add_sub_cancel' (by omega), back]
    · split at h
      · next digit =>
        obtain ⟨low, high⟩ : 48 ≤ c.toNat ∧ c.toNat ≤ 57 := by simpa [Char.isDigit, UInt32.le_iff_toNat_le] using digit
        cases h
        refine ⟨by omega, ?_⟩
        rw [letter, if_neg (by omega), if_neg (by omega), if_pos (by omega), Nat.add_sub_cancel, back]
      · split at h
        · next plus => cases h; exact ⟨by decide, plus.symm⟩
        · split at h
          · next slash => cases h; exact ⟨by decide, slash.symm⟩
          · cases h

/-! ### Groups of characters -/

theorem decode?_single (a b : Char) : decode? [a, b, '=', '='] =
    (number? a).bind fun m => (number? b).bind fun n =>
      if n % 16 = 0 then some [byte (m * 4) (n / 16)] else none := rfl

theorem decode?_pair (a b : Char) {c : Char} (hc : c ≠ '=') : decode? [a, b, c, '='] =
    (number? a).bind fun m => (number? b).bind fun n => (number? c).bind fun o =>
      if o % 4 = 0 then some [byte (m * 4) (n / 16), byte (n % 16 * 16) (o / 4)] else none := by
  rw [decode?]
  · rfl
  · simpa using hc

theorem decode?_full (a b c : Char) {d : Char} (hd : d ≠ '=') (rest : List Char) : decode? (a :: b :: c :: d :: rest) =
    (number? a).bind fun m => (number? b).bind fun n => (number? c).bind fun o => (number? d).bind fun p =>
      (decode? rest).map fun bytes =>
        byte (m * 4) (n / 16) :: byte (n % 16 * 16) (o / 4) :: byte (o % 4 * 64) p :: bytes := by
  rw [decode?]
  · simp only [Option.map_eq_bind]
    rfl
  · simp [hd]
  · simp [hd]

/-! ### Both directions -/

theorem byte_eq {high low : Nat} {a : UInt8} (h : high + low = a.toNat) : byte high low = a := by
  rw [byte, h]
  exact UInt8.ofNat_toNat

theorem toNat_byte {high low : Nat} (h : high + low < 256) : (byte high low).toNat = high + low :=
  UInt8.toNat_ofNat_of_lt' h

theorem decode_encode (bytes : List UInt8) : decode? (encode bytes) = some bytes := by
  have number {n : Nat} (h : n < 64) : number? (letter n) = some n := (letter_of_lt h).2
  fun_induction encode bytes with
  | case1 => rfl
  | case2 a =>
    have := a.toNat_lt
    rw [decode?_single, number (by omega), number (by omega), Option.bind_some, Option.bind_some, if_pos (by omega),
      byte_eq (a := a) (by omega)]
  | case3 a b =>
    have := a.toNat_lt
    have := b.toNat_lt
    rw [decode?_pair _ _ (letter_ne_pad _), number (by omega), number (by omega), number (by omega), Option.bind_some,
      Option.bind_some, Option.bind_some, if_pos (by omega), byte_eq (a := a) (by omega), byte_eq (a := b) (by omega)]
  | case4 a b c rest ih =>
    have := a.toNat_lt
    have := b.toNat_lt
    have := c.toNat_lt
    rw [decode?_full _ _ _ (letter_ne_pad _), number (by omega), number (by omega), number (by omega), number (by omega),
      ih, Option.bind_some, Option.bind_some, Option.bind_some, Option.bind_some, Option.map_some,
      byte_eq (a := a) (by omega), byte_eq (a := b) (by omega), byte_eq (a := c) (by omega)]

section Written

variable {m n o p : Nat} (hm : m < 64) (hn : n < 64) (ho : o < 64) (hp : p < 64)
include hm hn

theorem encode_single (zero : n % 16 = 0) : encode [byte (m * 4) (n / 16)] = [letter m, letter n, '=', '='] := by
  rw [encode, toNat_byte (by omega), show (m * 4 + n / 16) / 4 = m by omega,
    show (m * 4 + n / 16) % 4 * 16 = n by omega]

include ho

theorem encode_pair (zero : o % 4 = 0) :
    encode [byte (m * 4) (n / 16), byte (n % 16 * 16) (o / 4)] = [letter m, letter n, letter o, '='] := by
  rw [encode, toNat_byte (by omega), toNat_byte (by omega), show (m * 4 + n / 16) / 4 = m by omega,
    show (m * 4 + n / 16) % 4 * 16 + (n % 16 * 16 + o / 4) / 16 = n by omega,
    show (n % 16 * 16 + o / 4) % 16 * 4 = o by omega]

include hp

theorem encode_full (rest : List UInt8) :
    encode (byte (m * 4) (n / 16) :: byte (n % 16 * 16) (o / 4) :: byte (o % 4 * 64) p :: rest) =
      letter m :: letter n :: letter o :: letter p :: encode rest := by
  rw [encode, toNat_byte (by omega), toNat_byte (by omega), toNat_byte (by omega),
    show (m * 4 + n / 16) / 4 = m by omega,
    show (m * 4 + n / 16) % 4 * 16 + (n % 16 * 16 + o / 4) / 16 = n by omega,
    show (n % 16 * 16 + o / 4) % 16 * 4 + (o % 4 * 64 + p) / 64 = o by omega, show (o % 4 * 64 + p) % 64 = p by omega]

end Written

/-- The form of the texts that are written: groups of four characters, of which the last may be filled up; the bits of its
last character that stand for no byte are zero. -/
inductive Canonical : List Char → Prop where
  | nil : Canonical []
  | single {a b : Char} {m n : Nat} (ha : number? a = some m) (hb : number? b = some n) (zero : n % 16 = 0) :
      Canonical [a, b, '=', '=']
  | pair {a b c : Char} {m n o : Nat} (ha : number? a = some m) (hb : number? b = some n) (hc : number? c = some o)
      (zero : o % 4 = 0) : Canonical [a, b, c, '=']
  | full {a b c d : Char} {m n o p : Nat} {rest : List Char} (ha : number? a = some m) (hb : number? b = some n)
      (hc : number? c = some o) (hd : number? d = some p) (more : Canonical rest) : Canonical (a :: b :: c :: d :: rest)

theorem canonical_encode (bytes : List UInt8) : Canonical (encode bytes) := by
  have number {n : Nat} (h : n < 64) : number? (letter n) = some n := (letter_of_lt h).2
  fun_induction encode bytes with
  | case1 => exact .nil
  | case2 a =>
    have := a.toNat_lt
    exact .single (number (by omega)) (number (by omega)) (by omega)
  | case3 a b =>
    have := a.toNat_lt
    have := b.toNat_lt
    exact .pair (number (by omega)) (number (by omega)) (number (by omega)) (by omega)
  | case4 a b c rest ih =>
    have := a.toNat_lt
    have := b.toNat_lt
    have := c.toNat_lt
    exact .full (number (by omega)) (number (by omega)) (number (by omega)) (number (by omega)) ih

/-- A text that can be read has this form. -/
theorem canonical_of_decode {cs : List Char} {bytes : List UInt8} (h : decode? cs = some bytes) : Canonical cs := by
  fun_induction decode? cs generalizing bytes with
  | case1 => exact .nil
  | case2 a b =>
    obtain ⟨m, ha, h⟩ := Option.bind_eq_some_iff.1 h
    obtain ⟨n, hb, h⟩ := Option.bind_eq_some_iff.1 h
    exact .single ha hb (Option.ite_none_right_eq_some.1 h).1
  | case3 a b c =>
    obtain ⟨m, ha, h⟩ := Option.bind_eq_some_iff.1 h
    obtain ⟨n, hb, h⟩ := Option.bind_eq_some_iff.1 h
    obtain ⟨o, hc, h⟩ := Option.bind_eq_some_iff.1 h
    exact .pair ha hb hc (Option.ite_none_right_eq_some.1 h).1
  | case4 a b c d rest _ _ ih =>
    obtain ⟨m, ha, h⟩ := Option.bind_eq_some_iff.1 h
    obtain ⟨n, hb, h⟩ := Option.bind_eq_some_iff.1 h
    obtain ⟨o, hc, h⟩ := Option.bind_eq_some_iff.1 h
    obtain ⟨p, hd, h⟩ := Option.bind_eq_some_iff.1 h
    obtain ⟨more, hmore, -⟩ := Option.bind_eq_some_iff.1 h
    exact .full ha hb hc hd (ih hmore)
  | case5 => cases h

/-- Each text of this form is the one that writes some bytes. -/
theorem Canonical.written {cs : List Char} (h : Canonical cs) : ∃ bytes, cs = encode bytes := by
  induction h with
  | nil => exact ⟨[], rfl⟩
  | single ha hb zero =>
    obtain ⟨hm, rfl⟩ := of_number? ha
    obtain ⟨hn, rfl⟩ := of_number? hb
    exact ⟨_, (encode_single hm hn zero).symm⟩
  | pair ha hb hc zero =>
    obtain ⟨hm, rfl⟩ := of_number? ha
    obtain ⟨hn, rfl⟩ := of_number? hb
    obtain ⟨ho, rfl⟩ := of_number? hc
    exact ⟨_, (encode_pair hm hn ho zero).symm⟩
  | full ha hb hc hd _ ih =>
    obtain ⟨hm, rfl⟩ := of_number? ha
    obtain ⟨hn, rfl⟩ := of_number? hb
    obtain ⟨ho, rfl⟩ := of_number? hc
    obtain ⟨hp, rfl⟩ := of_number? hd
    obtain ⟨bytes, rfl⟩ := ih
    exact ⟨_, (encode_full hm hn ho hp bytes).symm⟩

/-- What is read is written again as it was. -/
theorem decode?_eq_some_iff {cs : List Char} {bytes : List UInt8} : decode? cs = some bytes ↔ cs = encode bytes := by
  constructor
  · intro h
    obtain ⟨written, rfl⟩ := (canonical_of_decode h).written
    rw [decode_encode] at h
    cases h
    rfl
  · rintro rfl
    exact decode_encode bytes

theorem canonical_iff {cs : List Char} : Canonical cs ↔ ∃ bytes, decode? cs = some bytes := by
  constructor
  · intro h
    obtain ⟨bytes, rfl⟩ := h.written
    exact ⟨bytes, decode_encode bytes⟩
  · rintro ⟨bytes, h⟩
    exact canonical_of_decode h

instance : DecidablePred Canonical := fun _ =>
  decidable_of_iff _ (Option.isSome_iff_exists.trans canonical_iff.symm)

end Reconciliation.Encoding.Base64
