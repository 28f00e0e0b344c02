/-!
# Binary floating point of 64 bits

A finite number is a sign, a significand below 2^53 and a power of two of at least -1074; numbers other
than the tiniest have a significand of at least 2^52.

* `nearest` rounds a ratio of natural numbers to such a number, halves to even, and gives nothing beyond
  the largest.
* `ofDecimal` rounds a decimal number once.
* `scaled` is a significand times or divided by a power of ten, each factor rounded and the result rounded
  again.
-/

namespace Reconciliation.Number

/-- A finite number: the significand times two to the exponent, with a sign; zero has one too. -/
structure Binary64 where
  negative : Bool
  significand : Nat
  exponent : Int
  deriving Repr, DecidableEq, Inhabited

/-- The quotient rounded to the nearest natural number, halves to even. -/
def roundHalfEven (num den : Nat) : Nat :=
  let q := num / den
  let r := num % den
  if 2 * r > den || (2 * r == den && q % 2 == 1) then q + 1 else q

namespace Binary64

/-- The exponent of the tiniest numbers. -/
def minExponent : Int := -1074

/-- The exponent of the largest numbers. -/
def maxExponent : Int := 971

/-- The least significand of 53 bits. -/
def leastSignificand : Nat := 0x10000000000000

/-- A magnitude without a sign: significand and exponent. -/
abbrev Magnitude := Nat × Int

def Magnitude.zero : Magnitude := (0, minExponent)

/-- `num / den ≥ 2 ^ k`, without a division. -/
def ratioAtLeast (num den : Nat) (k : Int) : Bool := den * Nat.pow 2 k.toNat ≤ num * Nat.pow 2 (-k).toNat

/-- The magnitude nearest to `num / den`, or nothing where that is beyond the largest. -/
def nearest (num den : Nat) : Option Magnitude :=
  if num == 0 then some Magnitude.zero
  else
    let k : Int := (num.log2 : Int) - den.log2
    let e := max (if ratioAtLeast num den k then k - 52 else k - 53) minExponent
    let q := roundHalfEven (num * Nat.pow 2 (-e).toNat) (den * Nat.pow 2 e.toNat)
    let (m, e) := if q == 2 * leastSignificand then (leastSignificand, e + 1) else (q, e)
    if e > maxExponent then none else some (m, e)

/-- The numerator of a magnitude as a ratio. -/
def Magnitude.num (x : Magnitude) : Nat := x.1 * Nat.pow 2 x.2.toNat

/-- The denominator of a magnitude as a ratio. -/
def Magnitude.den (x : Magnitude) : Nat := Nat.pow 2 (-x.2).toNat

/-- The product of two magnitudes, rounded. -/
def Magnitude.mul (x y : Magnitude) : Option Magnitude := nearest (x.num * y.num) (x.den * y.den)

/-- The quotient of two magnitudes, rounded; the divisor is not zero. -/
def Magnitude.div (x y : Magnitude) : Option Magnitude := nearest (x.num * y.den) (x.den * y.num)

/-- The largest power of ten that is used as a factor. -/
def maxPowerOfTen : Nat := 308

/-- Ten to the `n`, rounded, for `n` up to `maxPowerOfTen`. -/
def powerOfTen (n : Nat) : Magnitude := (nearest (Nat.pow 10 n) 1).getD Magnitude.zero

/-- Divides by ten to the `n`, in steps of at most `maxPowerOfTen`. Nothing is left after `fuel` steps but zero. -/
def divPowerOfTen : (fuel : Nat) → Magnitude → (n : Nat) → Option Magnitude
  | 0, _, _ => some Magnitude.zero
  | fuel + 1, x, n =>
    if n ≤ maxPowerOfTen then x.div (powerOfTen n)
    else if x.1 == 0 then some x
    else do divPowerOfTen fuel (← x.div (powerOfTen maxPowerOfTen)) (n - maxPowerOfTen)

/-- `significand` times ten to the `exponent`: the significand is rounded, then the power of ten, then the
product or quotient. Nothing where the result is too large. -/
def scaled (significand : Nat) (exponent : Int) : Option Magnitude := do
  let x ← nearest significand 1
  if exponent ≥ 0 then
    if exponent.toNat ≤ maxPowerOfTen then x.mul (powerOfTen exponent.toNat)
    else if x.1 == 0 then some x
    else none
  else divPowerOfTen 8 x (-exponent).toNat

/-- The magnitude nearest to `digits * 10 ^ exponent`, or nothing where that is beyond the largest. Far outside of
the range, no power of ten is calculated. -/
def ofDecimal (digits : Nat) (exponent : Int) : Option Magnitude :=
  let lead := exponent + (Nat.toDigits 10 digits).length
  if digits == 0 || lead < -330 then some Magnitude.zero
  else if lead > 310 then none
  else nearest (digits * Nat.pow 10 exponent.toNat) (Nat.pow 10 (-exponent).toNat)

/-- A magnitude with a sign. -/
def ofMagnitude (negative : Bool) (x : Magnitude) : Binary64 := ⟨negative, x.1, x.2⟩

def isZero (x : Binary64) : Bool := x.significand == 0

end Binary64
end Reconciliation.Number
