import Reconciliation.Ident
import Reconciliation.Text.Utf8

/-!
# Percent signs

In addresses a byte may be written as a percent sign and two hexadecimal digits.

* `escape` writes characters that may not stand somewhere in this way.
* `unescape` gives the bytes that a text stands for, `unescapeField` those of a name or a value in a query.
-/

namespace Reconciliation.Http

open Text

/-- A byte behind a percent sign. -/
def percent (b : UInt8) : List Char :=
  ['%', (Nat.digitChar (b.toNat / 16)).toUpper, (Nat.digitChar (b.toNat % 16)).toUpper]

/-- Blanks, control characters and what is beyond ASCII, with some characters more. -/
def isUnsafe (extra : List Char) (c : Char) : Bool := c.toNat ≤ 32 || c.toNat ≥ 127 || extra.contains c

/-- Writes unsafe characters by their bytes. -/
def escape (extra : List Char) (cs : List Char) : List Char :=
  cs.flatMap fun c => if isUnsafe extra c then (String.utf8EncodeChar c).flatMap percent else [c]

/-- The bytes that a text stands for; a percent sign without two digits stands for itself. -/
def unescape : List Char → Utf8.Bytes
  | '%' :: a :: b :: rest =>
    match Ident.hexDigit? a, Ident.hexDigit? b with
    | some x, some y => UInt8.ofNat (x * 16 + y) :: unescape rest
    | _, _ => 37 :: unescape (a :: b :: rest)
  | c :: rest => String.utf8EncodeChar c ++ unescape rest
  | [] => []
termination_by cs => cs.length

/-- As `unescape`, with plus signs for spaces. -/
def unescapeField (cs : List Char) : Utf8.Bytes := unescape (cs.map fun c => if c = '+' then ' ' else c)

end Reconciliation.Http
