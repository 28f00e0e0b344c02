import Reconciliation.Number.Whole
import Reconciliation.Text.Utf8

/-!
# Faults of JSON texts and values

* `Cause` lists what can be wrong with a text, or with a value that was to become something else, and
  `Cause.message` words it.
* `Fault` adds the place, as the number of bytes behind it; `Fault.located` writes line and column.
-/

namespace Reconciliation.Json

open Number Text

inductive Cause where
  -- the text is no JSON
  | endInValue
  | endInList
  | endInObject
  | endInString
  | expectedValue
  | expectedWord
  | expectedColon
  | expectedListEnd
  | expectedObjectEnd
  | trailingComma
  | trailingCharacters
  | keyNotString
  | invalidNumber
  | numberOutOfRange
  | invalidEscape
  | unfinishedEscape
  | loneSurrogate
  | controlCharacter
  | invalidCharacter
  | tooDeep
  -- the value is none of the wanted kind
  | wrongType (found expected : String)
  | wrongValue (found expected : String)
  | wrongLength (length : Nat) (expected : String)
  | unknownVariant (name : String) (variants : List String)
  | missingField (name : String)
  | duplicateField (name : String)
  | other (text : String)
  deriving Repr, DecidableEq

/-- Names in backquotes: one, two with "or", or a list. -/
def oneOf : List String → String
  | [] => "there are no variants"
  | [a] => "expected `" ++ a ++ "`"
  | [a, b] => "expected `" ++ a ++ "` or `" ++ b ++ "`"
  | names => "expected one of " ++ ", ".intercalate (names.map fun n => "`" ++ n ++ "`")

/-- The wording of a cause. -/
def Cause.message : Cause → String
  | .endInValue => "EOF while parsing a value"
  | .endInList => "EOF while parsing a list"
  | .endInObject => "EOF while parsing an object"
  | .endInString => "EOF while parsing a string"
  | .expectedValue => "expected value"
  | .expectedWord => "expected ident"
  | .expectedColon => "expected `:`"
  | .expectedListEnd => "expected `,` or `]`"
  | .expectedObjectEnd => "expected `,` or `\x7d`"
  | .trailingComma => "trailing comma"
  | .trailingCharacters => "trailing characters"
  | .keyNotString => "key must be a string"
  | .invalidNumber => "invalid number"
  | .numberOutOfRange => "number out of range"
  | .invalidEscape => "invalid escape"
  | .unfinishedEscape => "unexpected end of hex escape"
  | .loneSurrogate => "lone leading surrogate in hex escape"
  | .controlCharacter => "control character (\\u0000-\\u001F) found while parsing a string"
  | .invalidCharacter => "invalid unicode code point"
  | .tooDeep => "recursion limit exceeded"
  | .wrongType found expected => "invalid type: " ++ found ++ ", expected " ++ expected
  | .wrongValue found expected => "invalid value: " ++ found ++ ", expected " ++ expected
  | .wrongLength n expected => "invalid length " ++ digitsText n ++ ", expected " ++ expected
  | .unknownVariant name variants => "unknown variant `" ++ name ++ "`, " ++ oneOf variants
  | .missingField name => "missing field `" ++ name ++ "`"
  | .duplicateField name => "duplicate field `" ++ name ++ "`"
  | .other text => text

/-- A cause and, where it was met in a text, the number of bytes from its place to the end of that text. -/
structure Fault where
  cause : Cause
  left : Option Nat
  deriving Repr, DecidableEq

def Fault.message (f : Fault) : String := f.cause.message

/-- A fault of a value, which has no place. -/
def Fault.ofCause (c : Cause) : Fault := ⟨c, none⟩

/-- The line of a position and the number of bytes before it in that line. -/
def lineAndColumn (before : List UInt8) : Nat × Nat :=
  (before.count 10 + 1, (before.reverse.takeWhile (· != 10)).length)

/-- The message with the place in the text it was found in. -/
def Fault.located (f : Fault) (text : List UInt8) : String :=
  match f.left with
  | none => f.message
  | some left =>
    let (line, column) := lineAndColumn (text.take (text.length - left))
    f.message ++ " at line " ++ digitsText line ++ " column " ++ digitsText column

end Reconciliation.Json
