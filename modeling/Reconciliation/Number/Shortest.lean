import Reconciliation.Number.Binary64
import Reconciliation.Number.Whole

/-!
# The shortest decimal text of a floating point number

* `Binary64.shortest` is the decimal of fewest digits that rounds back to the number, the nearest of those.
* `Binary64.text` writes it with a point for decimal exponents from -5 to 15 and with a signed exponent
  otherwise; `Binary64.positional` never uses an exponent.
-/

namespace Reconciliation.Number

/-- The number `digits * 10 ^ exponent`. -/
structure Digits where
  digits : Nat
  exponent : Int
  deriving Repr, DecidableEq

namespace Binary64

/-- The bounds of the numbers that round to a magnitude, in quarters of its last place, and whether the
bounds themselves do. Below a power of two the numbers lie twice as close. -/
structure Interval where
  low : Nat
  mid : Nat
  high : Nat
  closed : Bool

def interval (m : Nat) (e : Int) : Interval where
  low := if m == leastSignificand && e > minExponent then 4 * m - 1 else 4 * m - 2
  mid := 4 * m
  high := 4 * m + 2
  closed := m % 2 == 0

/-- The factors that bring `c * 10 ^ k` and `q * 2 ^ f` to a common scale. -/
def decimalFactor (k f : Int) : Nat := Nat.pow 10 k.toNat * Nat.pow 2 (-f).toNat

def binaryFactor (k f : Int) : Nat := Nat.pow 2 f.toNat * Nat.pow 10 (-k).toNat

/-- The power of ten of the leading digit. -/
def leadingPower (m : Nat) (e : Int) : Int :=
  let guess := Int.fdiv (((m.log2 : Int) + e) * 30103) 100000
  let atLeast (p : Int) : Bool := decimalFactor p e ≤ m * binaryFactor p e
  if atLeast (guess + 1) then guess + 1 else if atLeast guess then guess else guess - 1

/-- The decimal with its last place at `10 ^ k` that lies in the interval and nearest to its middle; of two as
near the even one. -/
def onGrid (i : Interval) (k f : Int) : Option Nat :=
  let d := decimalFactor k f
  let b := binaryFactor k f
  let inside (c : Nat) : Bool :=
    if i.closed then i.low * b ≤ c * d && c * d ≤ i.high * b else i.low * b < c * d && c * d < i.high * b
  let below := i.mid * b / d
  let above := below + 1
  let toBelow := i.mid * b - below * d
  let toAbove := above * d - i.mid * b
  match inside below, inside above with
  | false, false => none
  | true, false => some below
  | false, true => some above
  | true, true =>
    if toBelow < toAbove || (toBelow == toAbove && below % 2 == 0) then some below else some above

/-- Tries grids of `n`, `n + 1`, … digits. -/
def search (i : Interval) (lead f : Int) : (fuel n : Nat) → Digits
  | 0, _ => ⟨0, 0⟩
  | fuel + 1, n =>
    let k := lead - n + 1
    match onGrid i k f with
    | some c => ⟨c, k⟩
    | none => search i lead f fuel (n + 1)

/-- Without zeros at the end of the digits. -/
def Digits.stripZeros : (fuel : Nat) → Digits → Digits
  | 0, d => d
  | fuel + 1, d => if d.digits != 0 && d.digits % 10 == 0 then stripZeros fuel ⟨d.digits / 10, d.exponent + 1⟩ else d

/-- The shortest decimal that rounds back; 17 digits always suffice. -/
def shortest (x : Binary64) : Digits :=
  if x.isZero then ⟨0, 0⟩
  else Digits.stripZeros 20 (search (interval x.significand x.exponent)
    (leadingPower x.significand x.exponent) (x.exponent - 2) 18 1)

/-- Digits with a point and no exponent; `whole` is written behind a number without a fraction. -/
def pointed (whole : String) (d : Digits) : String :=
  let digits := Nat.toDigits 10 d.digits
  if d.exponent ≥ 0 then String.ofList (digits ++ List.replicate d.exponent.toNat '0') ++ whole
  else
    let places := (-d.exponent).toNat
    let digits := List.replicate (places + 1 - digits.length) '0' ++ digits
    let cut := digits.length - places
    String.ofList (digits.take cut ++ '.' :: digits.drop cut)

/-- Digits with a point behind the first and an exponent with its sign. -/
def withExponent (d : Digits) : String :=
  let digits := Nat.toDigits 10 d.digits
  let e := d.exponent + (digits.length - 1)
  let head := match digits with
    | [] => "0"
    | [c] => String.ofList [c]
    | c :: rest => String.ofList (c :: '.' :: rest)
  head ++ "e" ++ (if e < 0 then "-" else "+") ++ digitsText e.natAbs

def signed (x : Binary64) (s : String) : String := if x.negative then "-" ++ s else s

/-- The shortest text, with an exponent outside of -5 to 15; whole numbers end in a point and a zero. -/
def text (x : Binary64) : String :=
  let d := x.shortest
  let e := d.exponent + ((Nat.toDigits 10 d.digits).length - 1)
  signed x (if -5 ≤ e && e ≤ 15 then pointed ".0" d else withExponent d)

/-- The shortest text without an exponent; whole numbers have no point. -/
def positional (x : Binary64) : String := signed x (pointed "" x.shortest)

end Binary64
end Reconciliation.Number
