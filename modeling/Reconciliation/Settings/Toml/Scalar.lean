import Reconciliation.Ident
import Reconciliation.Settings.Scalar
import Reconciliation.Text.Blank
import Reconciliation.Text.Reader

/-!
# Texts, numbers and times of TOML

* `Toml.quotedText` reads a text in quotes, and `Toml.key` a key.
* `Toml.bareValue` reads what stands without quotes: truth values, numbers and times. A time is kept as a text.
-/

namespace Reconciliation.Settings.Toml

open Json (Value)
open Number Text

/-- Characters that may stand in a text or a comment. -/
def isAllowed (c : Char) : Bool := c = '\t' || (c.toNat ≥ 32 && c.toNat ≠ 127)

def isSpace (c : Char) : Bool := c = ' ' || c = '\t'

def spaces : Reader Unit := .skip isSpace

/-- The end of a line. -/
def lineEnd : Reader Unit := do
  match ← Reader.any with
  | '\n' => pure ()
  | '\r' => Reader.word ['\n']
  | _ => failure

/-- A comment, if there is one. -/
def comment : Reader Unit := do
  if (← Reader.peek) = some '#' then Reader.skip isAllowed

/-- Whether a line ends here. -/
def atLineEnd : Reader Bool := do
  match ← Reader.peek with
  | some '\n' | some '\r' => pure true
  | _ => pure false

/-- Spaces, comments and ends of lines. -/
def gap : (fuel : Nat) → Reader Unit
  | 0 => failure
  | fuel + 1 => do
    spaces
    comment
    if ← atLineEnd then do lineEnd; gap fuel

/-! ### Texts -/

/-- A character by its number in `count` hexadecimal digits. -/
def numbered (count : Nat) : Reader Char := do
  let digits := (← Reader.rest).take count
  Reader.word digits
  match Ident.ofHexDigits? digits with
  | some n => if digits.length = count && n.isValidChar then pure (Char.ofNat n) else failure
  | none => failure

/-- What stands behind a backslash. -/
def escaped : Reader Char := do
  match ← Reader.any with
  | 'b' => pure (Char.ofNat 8)
  | 't' => pure '\t'
  | 'n' => pure '\n'
  | 'f' => pure (Char.ofNat 12)
  | 'r' => pure '\r'
  | 'e' => pure (Char.ofNat 27)
  | '"' => pure '"'
  | '\\' => pure '\\'
  | 'x' => numbered 2
  | 'u' => numbered 4
  | 'U' => numbered 8
  | _ => failure

/-- The rest of a text on one line, up to the quote; `escapes` says that backslashes have a meaning. -/
def shortText (quote : Char) (escapes : Bool) : (fuel : Nat) → Reader (List Char)
  | 0 => failure
  | fuel + 1 => do
    let c ← Reader.any
    if c = quote then pure []
    else
      let c ← if c = '\\' && escapes then escaped else if isAllowed c then pure c else failure
      pure (c :: (← shortText quote escapes fuel))

/-- Whether a backslash stands at the end of a line. -/
def continues : Reader Bool := do
  match (← Reader.rest).dropWhile isSpace with
  | '\n' :: _ | '\r' :: '\n' :: _ => pure true
  | _ => pure false

/-- Passes over spaces and ends of lines. -/
def blankLines : (fuel : Nat) → Reader Unit
  | 0 => failure
  | fuel + 1 => do
    spaces
    if ← atLineEnd then do lineEnd; blankLines fuel

/-- The rest of a text on several lines, up to three quotes; one or two more belong to the text. -/
def longText (quote : Char) (escapes : Bool) : (fuel : Nat) → Reader (List Char)
  | 0 => failure
  | fuel + 1 => do
    if (← Reader.peek) = some quote then
      let quotes ← Reader.take (· = quote)
      if quotes.length < 3 then pure (quotes ++ (← longText quote escapes fuel))
      else if quotes.length ≤ 5 then pure (quotes.drop 3)
      else failure
    else if ← atLineEnd then do
      lineEnd
      pure ('\n' :: (← longText quote escapes fuel))
    else
      let c ← Reader.any
      if c = '\\' && escapes then
        if ← continues then do
          blankLines (← Reader.steps)
          longText quote escapes fuel
        else
          let c ← escaped
          pure (c :: (← longText quote escapes fuel))
      else if isAllowed c then pure (c :: (← longText quote escapes fuel))
      else failure

/-- A text on one line. -/
def lineText (quote : Char) : Reader String := do
  Reader.eat
  pure (String.ofList (← shortText quote (quote = '"') (← Reader.steps)))

/-- A text in quotes. A line that ends right behind three quotes is left out. -/
def quotedText (quote : Char) : Reader String := do
  if ← Reader.startsWith [quote, quote, quote] then
    Reader.word [quote, quote, quote]
    if ← atLineEnd then lineEnd
    pure (String.ofList (← longText quote (quote = '"') (← Reader.steps)))
  else lineText quote

/-! ### Keys -/

def isKeyChar (c : Char) : Bool := c.isAlphanum || c = '_' || c = '-'

/-- One part of a key. -/
def keyPart : Reader String := do
  match ← Reader.peek with
  | some '"' => lineText '"'
  | some '\'' => lineText '\''
  | _ =>
    let cs ← Reader.take isKeyChar
    if cs.isEmpty then failure else pure (String.ofList cs)

/-- The parts of a key that are left, and spaces around them. -/
def keyParts : (fuel : Nat) → Reader (List String)
  | 0 => failure
  | fuel + 1 => do
    spaces
    let part ← keyPart
    spaces
    if (← Reader.peek) = some '.' then do
      Reader.eat
      pure (part :: (← keyParts fuel))
    else pure [part]

/-- The number of parts that a key may have. -/
def maxParts : Nat := 80

/-- A key: parts with dots between them. -/
def key : Reader (List String) := do
  let parts ← keyParts (← Reader.steps)
  if parts.length ≤ maxParts then pure parts else failure

/-! ### Numbers -/

/-- Digits of a base; lines may divide them. -/
def digits (base : Nat) : (value : Nat) → List Char → Option Nat
  | _, [] => none
  | value, [c] => (Ident.hexDigit? c).bind fun d => if d < base then some (value * base + d) else none
  | value, c :: '_' :: rest =>
    (Ident.hexDigit? c).bind fun d => if d < base then digits base (value * base + d) rest else none
  | value, c :: rest =>
    (Ident.hexDigit? c).bind fun d => if d < base then digits base (value * base + d) rest else none

/-- A whole number without zeros in front. -/
def whole (cs : List Char) : Option Nat :=
  match cs with
  | '0' :: _ :: _ => none
  | _ => digits 10 0 cs

def kept (i : Int) : Option Value := if isInt64 i then some (.ofInt i) else none

def integer? (cs : List Char) : Option Value :=
  match cs with
  | '0' :: 'x' :: rest => do kept (← digits 16 0 rest)
  | '0' :: 'o' :: rest => do kept (← digits 8 0 rest)
  | '0' :: 'b' :: rest => do kept (← digits 2 0 rest)
  | _ => do
    let (negative, magnitude) := signed cs
    let n ← whole magnitude
    kept (if negative then -(n : Int) else n)

/-- A number with a fraction or an exponent. -/
def float? (cs : List Char) : Option Value := do
  let (negative, magnitude) := signed cs
  if magnitude = ['i', 'n', 'f'] then pure (.string (if negative then "-inf" else "inf"))
  else if magnitude = ['n', 'a', 'n'] then pure (.string "NaN")
  else
    let isExponent (c : Char) : Bool := c = 'e' || c = 'E'
    let mantissa := magnitude.takeWhile fun c => !isExponent c
    let front := mantissa.takeWhile (· ≠ '.')
    let fraction := mantissa.drop (front.length + 1)
    let _ ← whole front
    if mantissa.length > front.length then
      let _ ← digits 10 0 fraction
    let places := (fraction.filter (· ≠ '_')).length
    let n ← digits 10 0 (front ++ fraction)
    let exponent : Int ←
      match magnitude.drop mantissa.length with
      | [] => if fraction.isEmpty then none else pure 0
      | _ :: rest => do
        let (negative, cs) := signed rest
        let e ← digits 10 0 cs
        pure (if negative then -(e : Int) else e)
    Settings.float? negative n (exponent - places)

/-! ### Times -/

/-- Two digits of a number from `min` to `max`. -/
def part (min max : Nat) (cs : List Char) : Bool :=
  cs.length = 2 && cs.all Char.isDigit &&
    match Whole.ofDigits? max 0 cs with
    | .ok n => min ≤ n
    | .error _ => false

def monthLength (year month : Nat) : Nat :=
  if month = 2 then if year % 4 = 0 && (year % 100 ≠ 0 || year % 400 = 0) then 29 else 28
  else if month = 4 || month = 6 || month = 9 || month = 11 then 30
  else 31

/-- A day of a year. -/
def date? : List Char → Option (List Char)
  | [y₁, y₂, y₃, y₄, '-', m₁, m₂, '-', d₁, d₂] => do
    let year ← digits 10 0 [y₁, y₂, y₃, y₄]
    let month ← digits 10 0 [m₁, m₂]
    if [y₁, y₂, y₃, y₄].all Char.isDigit && part 1 12 [m₁, m₂] && part 1 (monthLength year month) [d₁, d₂] then
      pure [y₁, y₂, y₃, y₄, '-', m₁, m₂, '-', d₁, d₂]
    else none
  | _ => none

/-- A time of a day: nine places of a second count, and zeros at their end do not. -/
def clock? : List Char → Option (List Char)
  | h₁ :: h₂ :: ':' :: m₁ :: m₂ :: rest =>
    if part 0 23 [h₁, h₂] && part 0 59 [m₁, m₂] then
      match rest with
      | [] => some [h₁, h₂, ':', m₁, m₂]
      | ':' :: s₁ :: s₂ :: rest =>
        if part 0 60 [s₁, s₂] then
          let front := [h₁, h₂, ':', m₁, m₂, ':', s₁, s₂]
          match rest with
          | [] => some front
          | '.' :: fraction =>
            if !fraction.isEmpty && fraction.all Char.isDigit then
              let shown := ((fraction.take 9).reverse.dropWhile (· = '0')).reverse
              some (front ++ '.' :: if shown.isEmpty then ['0'] else shown)
            else none
          | _ => none
        else none
      | _ => none
    else none
  | _ => none

/-- The distance from the time of the prime meridian. -/
def offset? : List Char → Option (List Char)
  | ['Z'] | ['z'] => some ['Z']
  | [sign, h₁, h₂, ':', m₁, m₂] =>
    if (sign = '+' || sign = '-') && part 0 23 [h₁, h₂] && part 0 59 [m₁, m₂] then
      let sign := if [h₁, h₂, m₁, m₂].all (· = '0') then '+' else sign
      some [sign, h₁, h₂, ':', m₁, m₂]
    else none
  | _ => none

def isDateMark (c : Char) : Bool := c = 'T' || c = 't' || c = ' '

/-- A day, a time of a day, or both, then perhaps with an offset. -/
def time? (cs : List Char) : Option Value :=
  let text (cs : List Char) : Value := .string (String.ofList cs)
  match (clock? cs).or (date? cs) with
  | some cs => some (text cs)
  | none => do
    let day ← date? (cs.take 10)
    match cs.drop 10 with
    | mark :: rest =>
      if isDateMark mark then
        let clock := rest.takeWhile fun c => c.isDigit || c = ':' || c = '.'
        let shown ← clock? clock
        let zone ←
          match rest.drop clock.length with
          | [] => some []
          | zone => offset? zone
        pure (text (day ++ 'T' :: shown ++ zone))
      else none
    | [] => none

/-! ### Values without quotes -/

def isBareChar (c : Char) : Bool := c.isAlphanum || c = '_' || c = '-' || c = '+' || c = '.' || c = ':'

/-- The value that a word stands for. -/
def ofWord? (cs : List Char) : Option Value :=
  if cs = "true".toList then some (.bool true)
  else if cs = "false".toList then some (.bool false)
  else ((integer? cs).or (float? cs)).or (time? cs)

/-- Whether the text goes on with a space and a time of a day. -/
def goesOnWithClock : List Char → Bool
  | ' ' :: h₁ :: h₂ :: ':' :: _ => h₁.isDigit && h₂.isDigit
  | _ => false

/-- A value without quotes. -/
def bareValue : Reader Value := do
  let cs ← Reader.take isBareChar
  let cs ←
    if (date? cs).isSome && goesOnWithClock (← Reader.rest) then do
      Reader.eat
      pure (cs ++ ' ' :: (← Reader.take isBareChar))
    else pure cs
  match ofWord? cs with
  | some v => pure v
  | none => failure

end Reconciliation.Settings.Toml
