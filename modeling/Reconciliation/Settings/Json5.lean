import Reconciliation.Settings.Scalar
import Reconciliation.Text.Blank
import Reconciliation.Text.Letter
import Reconciliation.Text.Reader

/-!
# JSON5

JSON as people write it: with comments, commas behind the last item, keys without quotes, and more ways to write a text
or a number.

* `Json5.quotedText`, `Json5.number` and `Json5.value` read what their names say.
* `Json5.parse` reads a text.
-/

namespace Reconciliation.Settings.Json5

open Json (Value)
open Number Text

/-! ### Between values -/

def isLineEnd (c : Char) : Bool := c = '\n' || c = '\r' || c.toNat = 0x2028 || c.toNat = 0x2029

def isSpace (c : Char) : Bool := (isBlank c && c.toNat ≠ 0x85) || c.toNat = 0xFEFF

/-- What is behind the end of a comment. -/
def afterComment : List Char → Option (List Char)
  | [] => none
  | '*' :: '/' :: rest => some rest
  | _ :: rest => afterComment rest

/-- Passes over spaces, ends of lines and comments. -/
def gapUpTo : (fuel : Nat) → Reader Unit
  | 0 => failure
  | fuel + 1 => do
    Reader.skip isSpace
    if ← Reader.startsWith ['/', '/'] then do
      Reader.skip fun c => !isLineEnd c
      gapUpTo fuel
    else if ← Reader.startsWith ['/', '*'] then do
      match afterComment ((← Reader.rest).drop 2) with
      | some rest => do
        set rest
        gapUpTo fuel
      | none => failure

def gap : Reader Unit := do gapUpTo (← Reader.steps)

/-! ### Texts -/

/-- A number of hexadecimal digits. -/
def hex (count : Nat) : Reader Nat := do
  let digits := (← Reader.rest).take count
  Reader.word digits
  match Ident.ofHexDigits? digits with
  | some n => if digits.length = count then pure n else failure
  | none => failure

/-- A character by its number in four digits, or by two numbers if it is beyond the basic plane. -/
def numbered : Reader Char := do
  let high ← hex 4
  let n ←
    if 0xD800 ≤ high && high < 0xDC00 then do
      Reader.word ['\\', 'u']
      let low ← hex 4
      if low < 0xDC00 then failure
      pure (0x10000 + (high - 0xD800) * 0x400 + (low - 0xDC00))
    else pure high
  if n.isValidChar then pure (Char.ofNat n) else failure

/-- What a character behind a backslash stands for. -/
def escaped (c : Char) : Reader Char :=
  match c with
  | 'b' => pure (Char.ofNat 8)
  | 'f' => pure (Char.ofNat 12)
  | 'n' => pure '\n'
  | 'r' => pure '\r'
  | 't' => pure '\t'
  | 'v' => pure (Char.ofNat 11)
  | '0' => pure (Char.ofNat 0)
  | 'x' => do pure (Char.ofNat (← hex 2))
  | 'u' => numbered
  | c => if c.isDigit then failure else pure c

/-- The rest of a text in quotes. A backslash at the end of a line joins the next one. -/
def quotedRest (quote : Char) : (fuel : Nat) → Reader (List Char)
  | 0 => failure
  | fuel + 1 => do
    let c ← Reader.any
    if c = quote then pure []
    else if c = '\n' || c = '\r' then failure
    else if c ≠ '\\' then do pure (c :: (← quotedRest quote fuel))
    else
      let c ← Reader.any
      if isLineEnd c then
        if c = '\r' && (← Reader.peek) = some '\n' then Reader.eat
        quotedRest quote fuel
      else
        let c ← escaped c
        pure (c :: (← quotedRest quote fuel))

/-- A text in quotes. -/
def quotedText : Reader String := do
  let quote ← Reader.any
  pure (String.ofList (← quotedRest quote (← Reader.steps)))

def isKeyStart (c : Char) : Bool := isLetter c || c = '$' || c = '_'

def isKeyPart (c : Char) : Bool := isWordPart c || c = '$' || c.toNat = 0x200C || c.toNat = 0x200D

/-- The characters of a key without quotes that are left; some may be given by their numbers. -/
def keyRest (first : Bool) : (fuel : Nat) → Reader (List Char)
  | 0 => failure
  | fuel + 1 => do
    match ← Reader.peek with
    | none => pure []
    | some c =>
      if c = '\\' then do
        Reader.word ['\\', 'u']
        let c ← numbered
        pure (c :: (← keyRest false fuel))
      else if if first then isKeyStart c else isKeyPart c then do
        Reader.eat
        pure (c :: (← keyRest false fuel))
      else pure []

/-- A key, with or without quotes. -/
def key : Reader String := do
  let next ← Reader.peek
  if next = some '"' || next = some '\'' then quotedText
  else
    let cs ← keyRest true (← Reader.steps)
    if cs.isEmpty then failure else pure (String.ofList cs)

/-! ### Numbers -/

/-- A sign, if there is one. -/
def sign : Reader (Option Char) := do
  match ← Reader.peek with
  | some c =>
    if c = '+' || c = '-' then do
      Reader.eat
      pure (some c)
    else pure none
  | none => pure none

/-- An integer in hexadecimal digits, which has no sign. -/
def hexNumber : Reader Value := do
  let cs ← Reader.take fun c => (Ident.hexDigit? c).isSome
  match digits? 16 cs with
  | some n => if n ≤ maxUInt32 then pure (.ofInt n) else failure
  | none => failure

/-- An exponent, if there is one. -/
def exponent : Reader (List Char) := do
  match ← Reader.peek with
  | some c =>
    if c = 'e' || c = 'E' then do
      Reader.eat
      let sign ← sign
      let digits ← Reader.take Char.isDigit
      if digits.isEmpty then failure
      pure ('e' :: sign.toList ++ digits)
    else pure []
  | none => pure []

/-- A number in decimal digits behind its sign. Without a point and an exponent it is an integer of 64 bits. -/
def decimal (sign : List Char) : Reader Value := do
  let front ← Reader.take Char.isDigit
  if front.length > 1 && front.head? = some '0' then failure
  let point ← if (← Reader.peek) = some '.' then Reader.take (· = '.') else pure []
  if point.length > 1 then failure
  let fraction ← if point.isEmpty then pure [] else Reader.take Char.isDigit
  let exponent ← exponent
  let v :=
    if point.isEmpty && exponent.isEmpty then (int64? 10 (sign ++ front)).map Value.ofInt
    else (decimal? (sign ++ front ++ point ++ fraction ++ exponent)).bind (·.value?)
  match v with
  | some v => pure v
  | none => failure

/-- A number, or a word for what is none. -/
def number : Reader Value := do
  let sign ← sign
  let cs ← Reader.rest
  match cs with
  | '0' :: 'x' :: rest | '0' :: 'X' :: rest => do
    set rest
    if sign.isSome then failure else hexNumber
  | _ =>
    if ← Reader.startsWith "Infinity".toList then do
      Reader.word "Infinity".toList
      if sign = some '+' then failure else pure (.string (if sign.isSome then "-inf" else "inf"))
    else if ← Reader.startsWith "NaN".toList then do
      Reader.word "NaN".toList
      if sign = some '+' then failure else pure (.string "NaN")
    else decimal sign.toList

/-! ### Values -/

/-- The value that a word stands for. -/
def wordFor (word : String) (v : Value) : Reader Value := do
  Reader.word word.toList
  pure v

/-- A key and its value. -/
def entry (value : Reader Value) : Reader (String × Value) := do
  let key ← key
  gap
  Reader.word [':']
  gap
  pure (key, ← value)

/-- A value with at most `levels` others around each other. -/
def value : (levels : Nat) → Reader Value
  | 0 => failure
  | levels + 1 => do
    match ← Reader.peek with
    | some '\x7b' => do
      Reader.eat
      pure (.ofPairs (← Reader.items gap '\x7d' (entry (value levels)) (← Reader.steps)))
    | some '[' => do
      Reader.eat
      pure (.array (← Reader.items gap ']' (value levels) (← Reader.steps)))
    | some '"' | some '\'' => do pure (.string (← quotedText))
    | some 'n' => wordFor "null" .null
    | some 't' => wordFor "true" (.bool true)
    | some 'f' => wordFor "false" (.bool false)
    | _ => number

/-- Reads a text. -/
def parse (text : String) : Option Value :=
  let whole : Reader Value := do
    gap
    let v ← value (← Reader.steps)
    gap
    pure v
  whole.run text.toList

end Reconciliation.Settings.Json5
