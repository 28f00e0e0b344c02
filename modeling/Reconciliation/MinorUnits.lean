import Reconciliation.Failure
import Reconciliation.Number.Decimal
import Reconciliation.Text.Blank

/-!
# Minor units

The gateway counts amounts in the smallest unit of a currency, of which ten to some exponent make one whole.

* `MinorUnits.exponent` knows the exponents that differ from two.
* `MinorUnits.toAmount` and `MinorUnits.ofAmount` convert; halves are rounded away from zero.
-/

namespace Reconciliation.MinorUnits

open Number

/-- Currencies without smaller units. -/
def wholeCurrencies : List String :=
  ["BIF", "CLP", "DJF", "GNF", "ISK", "JPY", "KMF", "KRW", "PYG", "RWF", "UGX", "VND", "VUV", "XAF", "XOF", "XPF"]

/-- Currencies with thousandths. -/
def thousandthCurrencies : List String := ["BHD", "IQD", "JOD", "KWD", "LYD", "OMR", "TND"]

/-- The number of decimal places of the smallest unit; a currency may be written in either case. -/
def exponent (currency : String) : Nat :=
  let c := Text.upper currency
  if c ∈ wholeCurrencies then 0 else if c ∈ thousandthCurrencies then 3 else 2

theorem exponent_le (currency : String) : exponent currency ≤ 3 := by
  unfold exponent
  simp only
  split
  · omega
  · split <;> omega

theorem natAbs_toInt_lt (units : Int64) : units.toInt.natAbs < Decimal.bound := by
  have := units.le_toInt
  have := units.toInt_lt
  have : Decimal.bound = 79228162514264337593543950336 := by decide
  omega

/-- The amount of a number of units. -/
def toAmount (units : Int64) (currency : String) : Decimal where
  negative := units.toInt < 0
  digits := units.toInt.natAbs
  scale := exponent currency
  digits_lt := natAbs_toInt_lt units
  scale_le := Nat.le_trans (exponent_le currency) (by decide)

/-- Why an amount has no number of units. -/
inductive Flaw where
  /-- The number does not fit 64 bits. -/
  | outOfRange
  /-- The amount times the power of ten does not even fit a decimal; the calculation is aborted. -/
  | overflow
  deriving Repr, DecidableEq

/-- The power of ten of a currency. -/
def factor? (currency : String) : Option Decimal := Decimal.ofInt? (Nat.pow 10 (exponent currency))

/-- Whether an integer is a number of units. -/
def fits (n : Int) : Bool := minInt64 ≤ n && n ≤ maxInt64

/-- The number of units of an amount, halves rounded away from zero. -/
def ofAmount (amount : Decimal) (currency : String) : Except Flaw Int64 :=
  match (factor? currency).bind amount.mul? with
  | none => .error .overflow
  | some product => if fits product.rounded then .ok (Int64.ofInt product.rounded) else .error .outOfRange

/-- The failure to convert an amount that is out of range. -/
def outOfRange (amount : Decimal) (currency : String) : Failure :=
  .validation ("amount " ++ amount.text ++ " " ++ currency ++ " out of range")

/-- What an aborted calculation leaves behind. -/
def overflowMessage : String := "Multiplication overflowed"

end Reconciliation.MinorUnits
