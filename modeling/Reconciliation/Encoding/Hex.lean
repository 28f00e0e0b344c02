/-!
# Hexadecimal digits

Two digits stand for a byte; letters may have either case.

* `Hex.decode?` reads bytes, and nothing where a character is no digit or one digit is left over.
-/

namespace Reconciliation.Encoding.Hex

/-- The value of a digit. -/
def digit? (c : Char) : Option UInt8 :=
  let n := c.toNat
  if 48 ≤ n && n ≤ 57 then some (n - 48).toUInt8
  else if 97 ≤ n && n ≤ 102 then some (n - 87).toUInt8
  else if 65 ≤ n && n ≤ 70 then some (n - 55).toUInt8
  else none

def decode? : List Char → Option (List UInt8)
  | [] => some []
  | [_] => none
  | a :: b :: rest => do
    let high ← digit? a
    let low ← digit? b
    pure ((high * 16 + low) :: (← decode? rest))

end Reconciliation.Encoding.Hex
