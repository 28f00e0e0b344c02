import Reconciliation.Number.Whole

/-!
# UTF-8

* `front` takes the first character off a byte sequence, or the longest start of one that cannot go on.
* `decode?` reads a whole sequence and refuses ill-formed ones; `flaw?` says where such a one goes wrong. `decodeLossy`
  puts U+FFFD for each refused start.
* `encode` is the byte sequence of a text.
-/

namespace Reconciliation.Text.Utf8

open Number

abbrev Bytes := List UInt8

/-- What a byte sequence starts with. -/
inductive Front where
  /-- No byte is left. -/
  | empty
  /-- A whole character and the bytes behind it. -/
  | char (c : Char) (rest : Bytes)
  /-- The start of no character, up to where it went wrong. -/
  | broken (rest : Bytes)
  /-- The start of a character that the end cuts off. -/
  | cutOff
  deriving Repr, DecidableEq

/-- Reads `n` more continuation bytes; the first of them lies between `lo` and `hi`. -/
def tails : Nat → (lo hi : UInt8) → (acc : Nat) → Bytes → Front
  | 0, _, _, acc, rest => .char (Char.ofNat acc) rest
  | _ + 1, _, _, _, [] => .cutOff
  | n + 1, lo, hi, acc, b :: rest =>
    if lo ≤ b && b ≤ hi then tails n 0x80 0xBF (acc * 64 + b.toNat % 64) rest else .broken (b :: rest)

/-- The first character. The second byte of a character is bounded by the first: no long forms, no surrogates. -/
def front : Bytes → Front
  | [] => .empty
  | a :: rest =>
    if a < 0x80 then .char (Char.ofNat a.toNat) rest
    else if a < 0xC2 then .broken rest
    else if a < 0xE0 then tails 1 0x80 0xBF (a.toNat % 32) rest
    else if a == 0xE0 then tails 2 0xA0 0xBF 0 rest
    else if a == 0xED then tails 2 0x80 0x9F 13 rest
    else if a < 0xF0 then tails 2 0x80 0xBF (a.toNat % 16) rest
    else if a == 0xF0 then tails 3 0x90 0xBF 0 rest
    else if a < 0xF4 then tails 3 0x80 0xBF (a.toNat % 8) rest
    else if a == 0xF4 then tails 3 0x80 0x8F 4 rest
    else .broken rest

/-- The characters of at most `fuel` starts behind those in `acc`, which is reversed; each start is one byte at
least. -/
def decodeUpTo : (fuel : Nat) → (acc : List Char) → Bytes → Option (List Char)
  | 0, acc, _ => some acc.reverse
  | fuel + 1, acc, s =>
    match front s with
    | .empty => some acc.reverse
    | .char c rest => decodeUpTo fuel (c :: acc) rest
    | .broken _ | .cutOff => none

/-- The text of a well-formed sequence. -/
def decode? (s : Bytes) : Option String := (decodeUpTo s.length [] s).map String.ofList

/-- The replacement character. -/
def replacement : Char := Char.ofNat 0xFFFD

/-- As `decodeUpTo`, with a replacement character for each broken start. -/
def decodeLossyUpTo : (fuel : Nat) → (acc : List Char) → Bytes → List Char
  | 0, acc, _ => acc.reverse
  | fuel + 1, acc, s =>
    match front s with
    | .empty => acc.reverse
    | .char c rest => decodeLossyUpTo fuel (c :: acc) rest
    | .broken rest => decodeLossyUpTo fuel (replacement :: acc) rest
    | .cutOff => (replacement :: acc).reverse

/-- The characters of any sequence, ill-formed parts replaced. -/
def decodeLossy (s : Bytes) : List Char := decodeLossyUpTo s.length [] s

/-- The first start that is none of a character. -/
structure Flaw where
  /-- The number of bytes before it. -/
  index : Nat
  /-- Its length, unless only the end cuts it off. -/
  length : Option Nat
  deriving Repr, DecidableEq

def Flaw.message (f : Flaw) : String :=
  match f.length with
  | some n => "invalid utf-8 sequence of " ++ digitsText n ++ " bytes from index " ++ digitsText f.index
  | none => "incomplete utf-8 byte sequence from index " ++ digitsText f.index

/-- The first flaw behind `index` bytes, with at most `fuel` starts. -/
def flawFrom? : (fuel index : Nat) → Bytes → Option Flaw
  | 0, _, _ => none
  | fuel + 1, index, s =>
    match front s with
    | .empty => none
    | .char _ rest => flawFrom? fuel (index + (s.length - rest.length)) rest
    | .broken rest => some ⟨index, some (s.length - rest.length)⟩
    | .cutOff => some ⟨index, none⟩

/-- The first flaw of a sequence. -/
def flaw? (s : Bytes) : Option Flaw := flawFrom? s.length 0 s

/-- The bytes of a text. -/
def encode (s : String) : Bytes := s.toList.flatMap String.utf8EncodeChar

end Reconciliation.Text.Utf8
