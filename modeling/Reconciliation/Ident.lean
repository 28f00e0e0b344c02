import Reconciliation.Number.Whole

/-!
# Identifiers

Payments, transactions, accounts and tenants are known by numbers of 128 bits, written as five groups of
hexadecimal digits. A system that creates something draws a new identifier; what it will be is not known
before, only that it differs from all others, so it is kept apart by a serial number.

* `Ident.text` writes an identifier; `Ident.ofText?` reads the usual forms of one and says why a text is none.
-/

namespace Reconciliation

open Number

inductive Ident where
  /-- A known number. -/
  | given (number : BitVec 128)
  /-- The `serial`-th that was drawn. -/
  | drawn (serial : Nat)
  deriving Repr, DecidableEq

namespace Ident

instance : Inhabited Ident := ⟨.given 0⟩

/-- Lengths of the groups of hexadecimal digits. -/
def groupLengths : List Nat := [8, 4, 4, 4, 12]

/-- The value of a hexadecimal digit. -/
def hexDigit? (c : Char) : Option Nat :=
  if c.isDigit then some (c.toNat - 48)
  else if 'a' ≤ c && c ≤ 'f' then some (c.toNat - 87)
  else if 'A' ≤ c && c ≤ 'F' then some (c.toNat - 55)
  else none

/-- The number that hexadecimal digits make. -/
def ofHexDigits? (cs : List Char) : Option Nat :=
  cs.foldlM (fun n c => (hexDigit? c).map (n * 16 + ·)) 0

/-- The lowest `count` hexadecimal digits. -/
def hexDigits (count n : Nat) : List Char :=
  (List.range count).map fun i => Nat.digitChar (n / Nat.pow 16 (count - 1 - i) % 16)

/-- Digits in groups with hyphens between them. -/
def grouped : List Nat → List Char → List Char
  | [], _ => []
  | [n], cs => cs.take n
  | n :: rest, cs => cs.take n ++ '-' :: grouped rest (cs.drop n)

/-- The text of an identifier; one that was drawn is written by its serial number. -/
def text : Ident → String
  | .given n => String.ofList (grouped groupLengths (hexDigits 32 n.toNat))
  | .drawn serial => "new-" ++ digitsText serial

/-! ### Reading -/

/-- Why a text is no identifier. -/
inductive Flaw where
  /-- A character of the body that is neither a digit nor a hyphen, and the number of bytes before it there. -/
  | strayCharacter (c : Char) (position : Nat)
  /-- Too long, or no hyphens and not the right number of digits. -/
  | length (n : Nat)
  | groupCount (n : Nat)
  | groupLength (group expected found : Nat)
  deriving Repr, DecidableEq

def Flaw.message : Flaw → String
  | .strayCharacter c position =>
    "invalid character: found `" ++ String.ofList [c] ++ "` at " ++ digitsText position
  | .length n => "invalid length: found " ++ digitsText n
  | .groupCount n => "invalid group count: expected 5, found " ++ digitsText n
  | .groupLength group expected found =>
    "invalid group length in group " ++ digitsText group ++ ": expected " ++ digitsText expected ++ ", found " ++
      digitsText found

/-- The name of the scheme of identifiers; the case of its letters does not matter. -/
def scheme : List Char := "urn:uuid:".toList

/-- Five groups of the right lengths. -/
def ofGroups? (cs : List Char) : Option Nat :=
  let hyphens := [cs[8]?, cs[13]?, cs[18]?, cs[23]?]
  if cs.length = 36 && hyphens.all (· == some '-') then
    ofHexDigits? (cs.take 8 ++ (cs.drop 9).take 4 ++ (cs.drop 14).take 4 ++ (cs.drop 19).take 4 ++ cs.drop 24)
  else none

/-- The length of the longest text of an identifier, in bytes. -/
def longest : Nat := 45

/-- What is left of a text without braces or the name of the scheme around it. -/
structure Form where
  body : List Char
  /-- The length of the text, and what stands around the body, are those of digits in groups. -/
  grouped : Bool

/-- The form of a text of `total` bytes: in groups, which may stand in braces or behind the name of the scheme, or any
other. -/
def form (total : Nat) (cs : List Char) : Form :=
  if total = 36 then ⟨cs, true⟩
  else if total = 38 && cs.head? = some '\x7b' && cs.getLast? = some '\x7d' then ⟨cs.tail.dropLast, true⟩
  else if total = longest && (cs.take scheme.length).map Char.toLower = scheme then ⟨cs.drop scheme.length, true⟩
  else ⟨cs, false⟩

/-- The first character that is neither a digit nor a hyphen, with the number of bytes before it. -/
def stray : (position : Nat) → List Char → Option Flaw
  | _, [] => none
  | position, c :: rest =>
    if c = '-' || (hexDigit? c).isSome then stray (position + c.utf8Size) rest
    else some (.strayCharacter c position)

/-- Positions of the hyphens. -/
def hyphens (cs : List Char) : List Nat :=
  (cs.zip (List.range cs.length)).filterMap fun p => if p.1 = '-' then some p.2 else none

/-- Where the groups begin, with their lengths. -/
def groupStarts : List (Nat × Nat × Nat) := [(0, 0, 8), (1, 9, 4), (2, 14, 4), (3, 19, 4)]

/-- Why a text of a form is no identifier; `total` is the length of the whole text in bytes. -/
def flaw (total : Nat) (f : Form) : Flaw :=
  if total > longest then .length total
  else
    match stray 0 f.body with
    | some x => x
    | none =>
      let found := hyphens f.body
      if found.isEmpty && !f.grouped then .length total
      else if found.length ≠ 4 then .groupCount (found.length + 1)
      else
        match (groupStarts.zip found).find? fun p => p.1.2.1 + p.1.2.2 ≠ p.2 with
        | some ((group, start, length), hyphen) => .groupLength group length (hyphen - start)
        | none => .groupLength 4 12 (total - 24)

/-- Reads 32 digits, five groups with hyphens, or these in braces or behind the name of the scheme. -/
def ofText? (s : String) : Except Flaw Ident :=
  let f := form s.utf8ByteSize s.toList
  let number :=
    if f.grouped then ofGroups? f.body else if f.body.length = 32 then ofHexDigits? f.body else none
  match number with
  | some n => .ok (.given (BitVec.ofNat 128 n))
  | none => .error (flaw s.utf8ByteSize f)

end Ident
end Reconciliation
