/-!
# Base 64

Three bytes are written as four characters of an alphabet of 64; a last group of one or two bytes is filled up
with equals signs.

* `Base64.encode` writes bytes.
* `Base64.decode?` reads exactly the texts that `encode` writes: groups are filled up, and bits that stand for no
  byte are zero.
-/

namespace Reconciliation.Encoding.Base64

/-- The character of a number below 64. -/
def letter (n : Nat) : Char :=
  if n < 26 then Char.ofNat (65 + n)
  else if n < 52 then Char.ofNat (71 + n)
  else if n < 62 then Char.ofNat (n - 4)
  else if n = 62 then '+'
  else '/'

/-- The number of a character. -/
def number? (c : Char) : Option Nat :=
  if c.isUpper then some (c.toNat - 65)
  else if c.isLower then some (c.toNat - 71)
  else if c.isDigit then some (c.toNat + 4)
  else if c = '+' then some 62
  else if c = '/' then some 63
  else none

def encode : List UInt8 → List Char
  | [] => []
  | [a] => [letter (a.toNat / 4), letter (a.toNat % 4 * 16), '=', '=']
  | [a, b] =>
    [letter (a.toNat / 4), letter (a.toNat % 4 * 16 + b.toNat / 16), letter (b.toNat % 16 * 4), '=']
  | a :: b :: c :: rest =>
    letter (a.toNat / 4) :: letter (a.toNat % 4 * 16 + b.toNat / 16) ::
      letter (b.toNat % 16 * 4 + c.toNat / 64) :: letter (c.toNat % 64) :: encode rest

/-- A byte of the high bits that one character leaves and the low bits that the next one brings. -/
def byte (high low : Nat) : UInt8 := (high + low).toUInt8

def decode? : List Char → Option (List UInt8)
  | [] => some []
  | [a, b, '=', '='] => do
    let a ← number? a
    let b ← number? b
    if b % 16 = 0 then some [byte (a * 4) (b / 16)] else none
  | [a, b, c, '='] => do
    let a ← number? a
    let b ← number? b
    let c ← number? c
    if c % 4 = 0 then some [byte (a * 4) (b / 16), byte (b % 16 * 16) (c / 4)] else none
  | a :: b :: c :: d :: rest => do
    let a ← number? a
    let b ← number? b
    let c ← number? c
    let d ← number? d
    pure (byte (a * 4) (b / 16) :: byte (b % 16 * 16) (c / 4) :: byte (c % 4 * 64) d :: (← decode? rest))
  | _ => none

end Reconciliation.Encoding.Base64
