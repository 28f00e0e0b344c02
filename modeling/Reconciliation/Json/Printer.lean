import Reconciliation.Json.Value

/-!
# Writing JSON texts

Values are written without blanks. In strings only quotes, backslashes and control characters are escaped.

* `Value.print` writes a value; `Members.print` writes members in the order given.
-/

namespace Reconciliation.Json

open Number Text

/-- A character between the quotes of a string. -/
def printChar (c : Char) : List Char :=
  if c = '"' then ['\\', '"']
  else if c = '\\' then ['\\', '\\']
  else if c.toNat = 8 then ['\\', 'b']
  else if c.toNat = 9 then ['\\', 't']
  else if c.toNat = 10 then ['\\', 'n']
  else if c.toNat = 12 then ['\\', 'f']
  else if c.toNat = 13 then ['\\', 'r']
  else if c.toNat < 32 then ['\\', 'u', '0', '0', (Nat.digitChar (c.toNat / 16)), (Nat.digitChar (c.toNat % 16))]
  else [c]

def printString (s : String) : String := String.ofList ('"' :: s.toList.flatMap printChar ++ ['"'])

def Numeral.print : Numeral → String
  | .integer i => intText i
  | .float x => x.text

mutual

/-- The text of a value. -/
def Value.print : Value → String
  | .null => "null"
  | .bool true => "true"
  | .bool false => "false"
  | .number n => n.print
  | .string s => printString s
  | .array items => "[" ++ ",".intercalate (Value.printItems items) ++ "]"
  | .object members => "\x7b" ++ ",".intercalate (Value.printMembers members) ++ "\x7d"

def Value.printItems : List Value → List String
  | [] => []
  | v :: rest => v.print :: Value.printItems rest

def Value.printMembers : List (String × Value) → List String
  | [] => []
  | (k, v) :: rest => (printString k ++ ":" ++ v.print) :: Value.printMembers rest

end

end Reconciliation.Json
