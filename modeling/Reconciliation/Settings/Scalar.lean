import Reconciliation.Ident
import Reconciliation.Json.Value
import Reconciliation.Number.Shortest

/-!
# Numbers and texts in settings

Settings are trees of JSON values, whatever the format of their file.

* `Settings.digits?` reads digits, and `Settings.decimal?` a decimal number.
* `Settings.float?` and `Settings.float` are the values that a decimal number stands for.
* `Settings.text?` is the text that a value stands for: of a number or a truth value, that is how it is written.
-/

namespace Reconciliation.Settings

open Json Number

/-! ### Reading -/

/-- Whether there is a minus sign, and what is behind the sign. -/
def signed : List Char → Bool × List Char
  | '-' :: rest => (true, rest)
  | '+' :: rest => (false, rest)
  | cs => (false, cs)

/-- The number that digits of a base make. -/
def digits? (base : Nat) (cs : List Char) : Option Nat :=
  if cs.isEmpty then none
  else cs.foldlM (fun n c => (Ident.hexDigit? c).bind fun d => if d < base then some (n * base + d) else none) 0

/-- An integer with or without a sign. -/
def integer? (base : Nat) (cs : List Char) : Option Int := do
  let (negative, magnitude) := signed cs
  let n ← digits? base magnitude
  pure (if negative then -(n : Int) else n)

/-- The number `digits * 10 ^ exponent`, with a sign. -/
structure DecimalNumber where
  negative : Bool
  digits : Nat
  exponent : Int
  deriving Repr, DecidableEq

/-- A decimal number: a sign, digits with a point or without, and an exponent, of which only digits have to be there. -/
def decimal? (cs : List Char) : Option DecimalNumber := do
  let (negative, magnitude) := signed cs
  let isExponent (c : Char) : Bool := c = 'e' || c = 'E'
  let mantissa := magnitude.takeWhile fun c => !isExponent c
  let front := mantissa.takeWhile (· ≠ '.')
  let fraction := mantissa.drop (front.length + 1)
  let n ← digits? 10 (front ++ fraction)
  let exponent ←
    match magnitude.drop mantissa.length with
    | [] => some 0
    | _ :: rest => integer? 10 rest
  pure ⟨negative, n, exponent - fraction.length⟩

/-! ### Values -/

/-- The number nearest to `digits * 10 ^ exponent`; nothing beyond the largest number. -/
def float? (negative : Bool) (digits : Nat) (exponent : Int) : Option Value :=
  (Binary64.ofDecimal digits exponent).map fun x => .number (.float (.ofMagnitude negative x))

/-- As `float?`, but a word stands for what is beyond the largest number. -/
def float (negative : Bool) (digits : Nat) (exponent : Int) : Value :=
  (float? negative digits exponent).getD (.string (if negative then "-inf" else "inf"))

/-- The value of a decimal number, with a word for what is beyond the largest number. -/
def DecimalNumber.value (d : DecimalNumber) : Value := float d.negative d.digits d.exponent

/-- The value of a decimal number that is not beyond the largest number. -/
def DecimalNumber.value? (d : DecimalNumber) : Option Value := float? d.negative d.digits d.exponent

/-- Integers of 64 bits with a sign. -/
def isInt64 (i : Int) : Bool := minInt64 ≤ i && i ≤ maxInt64

/-- An integer of 64 bits. -/
def int64? (base : Nat) (cs : List Char) : Option Int := (integer? base cs).filter isInt64

/-- The text of a number. -/
def numberText : Numeral → String
  | .integer i => intText i
  | .float x => x.positional

/-- The text that a value stands for. -/
def text? : Value → Option String
  | .string s => some s
  | .number n => some (numberText n)
  | .bool true => some "true"
  | .bool false => some "false"
  | .null | .array _ | .object _ => none

end Reconciliation.Settings
