import Reconciliation.Number.Binary64
import Reconciliation.Number.Shortest
import Reconciliation.Number.Whole

/-!
# Decimal amounts

A decimal is an integer of at most 96 bits divided by a power of ten of at most 28. The number of places is part of it,
so that 1.0 and 1.00 are two decimals, and so is the sign of zero.

* `Decimal.ofText?` reads positional and scientific texts; places that do not fit are rounded off.
* `Decimal.text` writes all places.
* `Decimal.mul?` multiplies exactly where the product fits and else gives up as few places as it can.
* `Decimal.rounded` is the nearest integer, halves away from zero.
-/

namespace Reconciliation.Number

/-- The numbers below which the digits of a decimal lie. -/
def Decimal.bound : Nat := 0x1000000000000000000000000

/-- The greatest number of places. -/
def Decimal.maxScale : Nat := 28

/-- The number `digits / 10 ^ scale`, or that with a minus sign. -/
structure Decimal where
  negative : Bool
  digits : Nat
  scale : Nat
  digits_lt : digits < Decimal.bound
  scale_le : scale ≤ Decimal.maxScale
  deriving Repr, DecidableEq

namespace Decimal

instance : Inhabited Decimal := ⟨⟨false, 0, 0, by decide, by decide⟩⟩

/-- A decimal, if digits and places fit. -/
def make? (negative : Bool) (digits scale : Nat) : Option Decimal :=
  if h : digits < bound ∧ scale ≤ maxScale then some ⟨negative, digits, scale, h.1, h.2⟩ else none

/-- As `make?`, but zero has no minus sign. -/
def ofParts? (negative : Bool) (digits scale : Nat) : Option Decimal :=
  make? (negative && digits != 0) digits scale

def signed (negative : Bool) (n : Nat) : Int := if negative then -n else n

/-- The integer that the power of ten divides. -/
def mantissa (d : Decimal) : Int := signed d.negative d.digits

/-! ### Text -/

/-- All places, with a point where there are any. -/
def text (d : Decimal) : String :=
  let digits := Nat.toDigits 10 d.digits
  let digits := List.replicate (d.scale + 1 - digits.length) '0' ++ digits
  let cut := digits.length - d.scale
  let body := if d.scale = 0 then digits else digits.take cut ++ '.' :: digits.drop cut
  String.ofList (if d.negative then '-' :: body else body)

/-- What has been read of a positional text. -/
structure Reading where
  negative : Bool
  digits : Nat
  scale : Nat
  pointed : Bool
  started : Bool

/-- The decimal read, if there was a digit. -/
def Reading.finish (r : Reading) : Option Decimal :=
  if r.started then ofParts? r.negative r.digits r.scale else none

/-- Ends where no more digits fit: the digits are rounded by the next one, a half upwards. Behind it there are only
digits and underscores. -/
def Reading.round (r : Reading) (rest : List Char) : Option Decimal :=
  match rest.dropWhile (· = '_') with
  | [] => r.finish
  | c :: rest => do
    let d ← digit? c
    let n := if d ≥ 5 then r.digits + 1 else r.digits
    let rounded : Reading :=
      if n < bound then ⟨r.negative, n, r.scale, r.pointed, true⟩
      else ⟨r.negative, (n + 4) / 10, r.scale - 1, r.pointed, true⟩
    let goesOn := rest.all fun c => c.isDigit || c = '_'
    if goesOn && (n < bound || r.scale ≠ 0) then rounded.finish else none

/-- Reads digits with at most one point; an underscore may stand behind any digit. -/
def Reading.go : Reading → List Char → Option Decimal
  | r, [] => r.finish
  | r, c :: rest =>
    if r.pointed && r.scale ≥ maxScale then r.round (c :: rest)
    else
      match digit? c with
      | some d =>
        if r.digits * 10 + d < bound then
          go { r with
            digits := r.digits * 10 + d
            scale := if r.pointed then r.scale + 1 else 0
            started := true } rest
        else if r.pointed then r.round (c :: rest)
        else none
      | none =>
        if c = '.' && !r.pointed then go { r with pointed := true } rest
        else if c = '_' && r.started then go r rest
        else none

/-- A decimal in positional digits, with an optional sign. -/
def ofPositional? (s : List Char) : Option Decimal :=
  match s with
  | '-' :: rest => Reading.go ⟨true, 0, 0, false, false⟩ rest
  | '+' :: rest => Reading.go ⟨false, 0, 0, false, false⟩ rest
  | _ => Reading.go ⟨false, 0, 0, false, false⟩ s

/-- The whole number nearest to `n / unit`, a half upwards. -/
def roundHalfUp (n unit : Nat) : Nat := if 2 * (n % unit) ≥ unit then n / unit + 1 else n / unit

/-- The decimal with fewer places, halves away from zero; the sign stays. -/
def withPlaces? (d : Decimal) (places : Nat) : Option Decimal :=
  make? d.negative (roundHalfUp d.digits (Nat.pow 10 (d.scale - places))) places

/-- A decimal divided by a power of ten. What does not fit 28 places is rounded off. -/
def shiftedDown? (d : Decimal) (exponent : Nat) : Option Decimal := do
  let d ← if d.scale + exponent > maxScale then d.withPlaces? (maxScale - exponent) else some d
  make? d.negative d.digits (d.scale + exponent)

/-- A decimal times a power of ten, if it fits. -/
def shiftedUp? (d : Decimal) (exponent : Nat) : Option Decimal :=
  if exponent ≤ d.scale then make? d.negative d.digits (d.scale - exponent)
  else make? d.negative (d.digits * Nat.pow 10 (exponent - d.scale)) 0

/-- A positional decimal times a power of ten between the -28th and the 28th. -/
def ofScientific? (s : List Char) : Option Decimal := do
  let isE (c : Char) : Bool := c = 'e' || c = 'E'
  let base ← ofPositional? (s.takeWhile (!isE ·))
  match s.dropWhile (!isE ·) with
  | [] => none
  | _ :: '-' :: digits => base.shiftedDown? (← (Whole.ofText? maxScale (String.ofList digits)).toOption)
  | _ :: digits => base.shiftedUp? (← (Whole.ofText? maxScale (String.ofList digits)).toOption)

/-- A decimal in either notation. -/
def ofText? (s : String) : Option Decimal := (ofPositional? s.toList).or (ofScientific? s.toList)

/-- An integer. -/
def ofInt? (i : Int) : Option Decimal := ofParts? (i < 0) i.natAbs 0

/-- A floating point number, by its shortest digits. -/
def ofBinary64? (x : Binary64) : Option Decimal := ofText? x.positional

/-! ### Products and rounding -/

/-- Drops `drop` places from `n / 10 ^ scale`, halves to even. -/
def dropPlaces (n drop : Nat) : Nat := roundHalfEven n (Nat.pow 10 drop)

/-- Gives up places until the digits fit; `drop` places are given up in the first attempt. Nothing where there
are not enough. -/
def fit (n scale : Nat) : (fuel drop : Nat) → Option (Nat × Nat)
  | 0, _ => none
  | fuel + 1, drop =>
    if drop > scale then none
    else if n / Nat.pow 10 drop < bound then
      let q := dropPlaces n drop
      if q < bound then some (q, scale - drop)
      else if drop = scale then none
      else some (roundHalfEven q 10, scale - drop - 1)
    else fit n scale fuel (drop + 1)

/-- The product. Places beyond 28, and places that do not fit 96 bits, are rounded off; nothing where the product
does not fit without places. -/
def mul? (a b : Decimal) : Option Decimal :=
  if a.digits = 0 || b.digits = 0 then ofParts? false 0 0
  else
    let scale := a.scale + b.scale
    match fit (a.digits * b.digits) scale (scale + 1) (scale - maxScale) with
    | some (n, scale) => ofParts? (a.negative != b.negative) n scale
    | none => none

/-- The nearest integer, halves away from zero. -/
def rounded (d : Decimal) : Int := signed d.negative (roundHalfUp d.digits (Nat.pow 10 d.scale))

end Decimal
end Reconciliation.Number
