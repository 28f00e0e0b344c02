/-!
# Whole numbers in text

* `digitsText` writes a natural number, `padded` with leading zeros, `intText` an integer.
* `Whole.ofText?` reads an unsigned number with an upper bound and says why a text is none.
-/

namespace Reconciliation.Number

/-- The bounds of signed integers of 32 and of 64 bits. -/
def minInt32 : Int := -2147483648

def maxInt32 : Int := 2147483647

def minInt64 : Int := -9223372036854775808

def maxInt64 : Int := 9223372036854775807

/-- The greatest unsigned integers of 16, 32 and 64 bits. -/
def maxUInt16 : Nat := 65535

def maxUInt32 : Nat := 4294967295

def maxUInt64 : Nat := 18446744073709551615

/-- The value of an ASCII digit. -/
def digit? (c : Char) : Option Nat := if c.isDigit then some (c.toNat - 48) else none

/-- A natural number in decimal digits. -/
def digitsText (n : Nat) : String := String.ofList (Nat.toDigits 10 n)

/-- Decimal digits, with zeros in front up to `width` of them. -/
def padded (width n : Nat) : String :=
  let digits := Nat.toDigits 10 n
  String.ofList (List.replicate (width - digits.length) '0' ++ digits)

/-- An integer in decimal digits, with a minus sign where it is negative. -/
def intText (i : Int) : String := if i < 0 then "-" ++ digitsText i.natAbs else digitsText i.natAbs

/-- Why a text is no unsigned number below a bound. -/
inductive Whole.Flaw where
  | empty
  | strayCharacter
  | tooLarge
  deriving Repr, DecidableEq

/-- The wording of a flaw. -/
def Whole.Flaw.message : Whole.Flaw → String
  | .empty => "cannot parse integer from empty string"
  | .strayCharacter => "invalid digit found in string"
  | .tooLarge => "number too large to fit in target type"

/-- Reads digits from the left; the first stray character or the first excess over `max` decides. -/
def Whole.ofDigits? (max : Nat) : (acc : Nat) → List Char → Except Whole.Flaw Nat
  | acc, [] => .ok acc
  | acc, c :: rest =>
    match digit? c with
    | none => .error .strayCharacter
    | some d => if acc * 10 + d ≤ max then Whole.ofDigits? max (acc * 10 + d) rest else .error .tooLarge

/-- An unsigned number of at most `max`, with an optional plus sign. -/
def Whole.ofText? (max : Nat) (s : String) : Except Whole.Flaw Nat :=
  match s.toList with
  | [] => .error .empty
  | ['+'] => .error .strayCharacter
  | '+' :: rest => Whole.ofDigits? max 0 rest
  | cs => Whole.ofDigits? max 0 cs

end Reconciliation.Number
