import Reconciliation.Ident
import Reconciliation.Json.Decoder
import Reconciliation.Number.Decimal
import Reconciliation.Time.Instant

/-!
# Identifiers, amounts and times in JSON

Identifiers and times are strings. Amounts are written as strings, so that their places are kept, and read from
strings or numbers.
-/

namespace Reconciliation.Json

open Number Reader Time

/-! ### Amounts -/

def expectedDecimal : String := "a Decimal type representing a fixed-point number"

/-- The amount that a number or a string stands for. -/
def decimalOf (v : Value) : Except Cause Decimal :=
  let found := match v with
    | .string s => some (Decimal.ofText? s)
    | .number (.integer i) => some (Decimal.ofInt? i)
    | .number (.float x) => some (Decimal.ofBinary64? x)
    | _ => none
  match found with
  | some (some d) => .ok d
  | some none => .error (.wrongValue v.kind expectedDecimal)
  | none => .error (.wrongType v.kind expectedDecimal)

def Decoder.decimal : Decoder Decimal where
  ofText _ := do
    match ← peekSolid with
    | none => mismatch expectedDecimal
    | some b =>
      if b == 34 then do ofExcept (decimalOf (.string (← Reader.string)))
      else if b == ascii '-' || (digitByte? b).isSome then do ofExcept (decimalOf (.number (← number)))
      else mismatch expectedDecimal
  ofValue := decimalOf

def Value.ofDecimal (d : Decimal) : Value := .string d.text

/-! ### Identifiers -/

def Decoder.ident : Decoder Ident :=
  (Decoder.text "a formatted UUID string").refine fun s =>
    match Ident.ofText? s with
    | .ok i => .ok i
    | .error flaw => .error (.other ("UUID parsing failed: " ++ flaw.message))

def Value.ofIdent (i : Ident) : Value := .string i.text

/-! ### Times -/

/-- A time that was written down. -/
def Decoder.moment : Decoder Moment :=
  (Decoder.text "an RFC 3339 formatted date and time string").refine fun s =>
    match Instant.ofText? s with
    | .ok t => .ok (.recorded t)
    | .error flaw => .error (.other flaw.message)

def Value.ofMoment : Moment → Value
  | .recorded t => .string t.text
  | .live tick => .string ("live-" ++ digitsText tick)

end Reconciliation.Json
