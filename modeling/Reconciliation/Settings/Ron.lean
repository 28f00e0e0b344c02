import Reconciliation.Settings.Scalar
import Reconciliation.Text.Letter
import Reconciliation.Text.Reader

/-!
# RON

Values with names: a structure is a name, which may be missing, and fields between parentheses.

* `Ron.key`, `Ron.number` and `Ron.value` read what their names say.
* `Ron.parse` reads a text. Structures with names for their fields are tables, others lists, and a name alone is null.
-/

namespace Reconciliation.Settings.Ron

open Json (Value)
open Number Text

/-! ### Between values -/

/-- White space that may stand between parts of a pattern. -/
def isSpace (c : Char) : Bool :=
  let n := c.toNat
  c = ' ' || (9 ≤ n && n ≤ 13) || n = 0x85 || n = 0x200E || n = 0x200F || n = 0x2028 || n = 0x2029

/-- What is behind the end of a comment; comments may lie within each other. -/
def afterComment : (levels : Nat) → List Char → Option (List Char)
  | 0, rest => some rest
  | _ + 1, [] => none
  | levels + 1, '/' :: '*' :: rest => afterComment (levels + 2) rest
  | levels + 1, '*' :: '/' :: rest => afterComment levels rest
  | levels + 1, _ :: rest => afterComment (levels + 1) rest

/-- Passes over spaces, ends of lines and comments. -/
def gapUpTo : (fuel : Nat) → Reader Unit
  | 0 => failure
  | fuel + 1 => do
    Reader.skip isSpace
    if ← Reader.startsWith ['/', '/'] then do
      Reader.skip (· ≠ '\n')
      gapUpTo fuel
    else if ← Reader.startsWith ['/', '*'] then do
      match afterComment 1 ((← Reader.rest).drop 2) with
      | some rest => do
        set rest
        gapUpTo fuel
      | none => failure

def gap : Reader Unit := do gapUpTo (← Reader.steps)

/-! ### Names -/

def isNameStart (c : Char) : Bool := isLetter c || c = '_'

def isRawPart (c : Char) : Bool := isWordPart c || c = '.' || c = '+' || c = '-'

/-- What no name starts with: texts as they are, and texts of bytes. -/
def textStarts : List (List Char) :=
  [['b', '"'], ['b', '\''], ['b', 'r', '#'], ['b', 'r', '"'], ['r', '"'], ['r', '#', '"'], ['r', '#', '#']]

/-- A name, if there is one. With a mark in front of it, it may have more characters; the second part of the result
says whether there is none. -/
def name? : Reader (Option (String × Bool)) := do
  let cs ← Reader.rest
  if textStarts.any (·.isPrefixOf cs) then pure none
  else
    match cs with
    | 'r' :: '#' :: rest =>
      let name := rest.takeWhile isRawPart
      if name.isEmpty then pure none
      else do
        Reader.word ('r' :: '#' :: name)
        pure (some (String.ofList name, false))
    | c :: _ =>
      if isNameStart c then do
        pure (some (String.ofList (← Reader.take isWordPart), true))
      else pure none
    | [] => pure none

/-- A name. -/
def name : Reader String := do
  match ← name? with
  | some (name, _) => pure name
  | none => failure

/-! ### Texts -/

/-- The digits of a character's number between braces, up to six. -/
def braced : Reader Char := do
  Reader.word ['\x7b']
  let digits ← Reader.take (· ≠ '\x7d')
  Reader.eat
  match digits? 16 digits with
  | some n => if digits.length ≤ 6 && n.isValidChar then pure (Char.ofNat n) else failure
  | none => failure

/-- What stands behind a backslash. -/
def escaped : Reader Char := do
  match ← Reader.any with
  | '\'' => pure '\''
  | '"' => pure '"'
  | '\\' => pure '\\'
  | 'n' => pure '\n'
  | 'r' => pure '\r'
  | 't' => pure '\t'
  | '0' => pure (Char.ofNat 0)
  | 'x' => do
    let digits := (← Reader.rest).take 2
    Reader.word digits
    match digits? 16 digits with
    | some n => if digits.length = 2 then pure (Char.ofNat n) else failure
    | none => failure
  | 'u' => braced
  | _ => failure

/-- The rest of a text in quotes. -/
def quotedRest : (fuel : Nat) → Reader (List Char)
  | 0 => failure
  | fuel + 1 => do
    let c ← Reader.any
    if c = '"' then pure []
    else
      let c ← if c = '\\' then escaped else pure c
      pure (c :: (← quotedRest fuel))

/-- The characters in front of the first place where `ending` stands, and those behind it. -/
def cutAt (ending : List Char) : List Char → Option (List Char × List Char)
  | [] => none
  | c :: rest =>
    if ending.isPrefixOf (c :: rest) then some ([], (c :: rest).drop ending.length)
    else (cutAt ending rest).map fun (front, behind) => (c :: front, behind)

/-- A text as it is, between quotes with number signs around them. -/
def rawText : Reader (List Char) := do
  Reader.word ['r']
  let signs ← Reader.take (· = '#')
  Reader.word ['"']
  match cutAt ('"' :: signs) (← Reader.rest) with
  | some (front, behind) => do
    set behind
    pure front
  | none => failure

/-- A text in quotes. -/
def quotedText : Reader String := do
  if (← Reader.peek) = some '"' then do
    Reader.eat
    pure (String.ofList (← quotedRest (← Reader.steps)))
  else do
    pure (String.ofList (← rawText))

/-- A character in quotes. -/
def character : Reader String := do
  Reader.word ['\'']
  let c ← Reader.any
  let c ← if c = '\\' then escaped else pure c
  Reader.word ['\'']
  pure (String.ofList [c])

/-- A text or a character, which may be the key of a table. -/
def key : Reader String := do
  if (← Reader.peek) = some '\'' then character else quotedText

/-! ### Numbers -/

def isFloatChar (c : Char) : Bool := c.isDigit || c = 'e' || c = 'E' || c = '.' || c = '+' || c = '-' || c = '_'

def isIntegerChar (c : Char) : Bool := (Ident.hexDigit? c).isSome || c = '_'

/-- The least and the greatest number of a type of integers. -/
def bounds? (type : String) (negative : Bool) : Option (Int × Int) :=
  match type with
  | "" => some (if negative then (minInt64, 0) else (0, maxUInt64))
  | "i8" => some (-128, 127)
  | "i16" => some (-32768, 32767)
  | "i32" => some (minInt32, maxInt32)
  | "i64" => some (minInt64, maxInt64)
  | "u8" => some (0, 255)
  | "u16" => some (0, maxUInt16)
  | "u32" => some (0, maxUInt32)
  | "u64" => some (0, maxUInt64)
  | _ => none

/-- An integer in front of other characters, and those. Lines may divide its digits. -/
def integerFront? (cs : List Char) : Option (Value × List Char) := do
  let (negative, magnitude) := signed cs
  let (base, body) :=
    match magnitude with
    | '0' :: 'x' :: rest => (16, rest)
    | '0' :: 'o' :: rest => (8, rest)
    | '0' :: 'b' :: rest => (2, rest)
    | _ => (10, magnitude)
  let digits := body.takeWhile isIntegerChar
  if digits.head? = some '_' then none
  let n ← digits? base (digits.filter (· ≠ '_'))
  let rest := body.drop digits.length
  let type := rest.takeWhile isWordPart
  let (least, most) ← bounds? (String.ofList type) negative
  let i : Int := if negative then -(n : Int) else n
  if least ≤ i && i ≤ most then some (.ofInt i, rest.drop type.length) else none

/-- Whether lines stand only behind digits, or behind other lines. -/
def hasLinesInPlace : (allowed : Bool) → List Char → Bool
  | _, [] => true
  | allowed, c :: rest =>
    if c = '_' then allowed && hasLinesInPlace allowed rest
    else if c = '+' || c = '-' then hasLinesInPlace allowed rest
    else hasLinesInPlace (c ≠ '.') rest

/-- A word for what is no number, with its sign. -/
def unusual? (cs : List Char) : Option (Value × List Char) :=
  let (negative, magnitude) := signed cs
  let word := String.ofList (magnitude.takeWhile isWordPart)
  let rest := magnitude.drop word.length
  if ["inf", "inff32", "inff64"].contains word then some (.string (if negative then "-inf" else "inf"), rest)
  else if ["NaN", "NaNf32", "NaNf64"].contains word then some (.string "NaN", rest)
  else none

/-- A number with a point or an exponent in front of other characters, and those. -/
def floatFront? (cs : List Char) : Option (Value × List Char) := do
  let digits := cs.takeWhile isFloatChar
  let d ← decimal? (digits.filter (· ≠ '_'))
  let rest := cs.drop digits.length
  let type := String.ofList (rest.takeWhile isWordPart)
  if hasLinesInPlace false digits && ["", "f32", "f64"].contains type then some (d.value, rest.drop type.length)
  else none

/-- A number. -/
def number : Reader Value := do
  let cs ← Reader.rest
  let magnitude := (signed cs).2
  let isFloat := (magnitude.takeWhile isFloatChar).length > (magnitude.takeWhile isIntegerChar).length
  let front := if isFloat then none else integerFront? cs
  match (front.or (unusual? cs)).or (floatFront? cs) with
  | some (v, rest) => do
    set rest
    pure v
  | none => failure

/-! ### Values -/

/-- What is behind a colon. -/
def behindColon (value : Reader Value) : Reader Value := do
  gap
  Reader.word [':']
  gap
  value

/-- A key and its value. -/
def entry (key : Reader String) (value : Reader Value) : Reader (String × Value) := do
  let key ← key
  pure (key, ← behindColon value)

/-- Whether a field with a name stands here. -/
def atField : Reader Bool := do
  let cs ← Reader.rest
  let field : Reader (Option Unit) := do
    gap
    let _ ← name
    gap
    pure (if (← Reader.peek) = some ':' then some () else none)
  pure ((StateT.run field cs).any (·.1.isSome))

/-- What stands behind a name; `item` is what may stand between parentheses. -/
def structure? (isOpen : Bool) (item : Reader Value) : Reader Value := do
  if (← Reader.peek) ≠ some '(' then pure .null
  else if !isOpen then failure
  else
    Reader.eat
    if ← atField then
      pure (.ofPairs (← Reader.items gap ')' (entry name item) (← Reader.steps)))
    else pure (.array (← Reader.items gap ')' item (← Reader.steps)))

/-- What a name stands for: a word with a meaning, or a structure. -/
def named (name : String) (isPlain isOpen : Bool) (item wrapped : Reader Value) : Reader Value := do
  if !isPlain then do
    gap
    structure? isOpen item
  else if name = "true" then pure (.bool true)
  else if name = "false" then pure (.bool false)
  else if name = "None" then pure .null
  else if "Some".toList.isPrefixOf name.toList then
    gap
    Reader.word ['(']
    if name ≠ "Some" || !isOpen then failure
    gap
    let v ← wrapped
    gap
    if (← Reader.peek) = some ',' then Reader.eat
    gap
    Reader.word [')']
    pure v
  else
    match unusual? name.toList with
    | some (v, _) => pure v
    | none => do
      gap
      structure? isOpen item

/-- A value; `isOpen` says whether anything may lie in it, `item` is what may lie in a list or a table, and `wrapped`
what may lie in an optional value. -/
def valueOf (isOpen : Bool) (item wrapped : Reader Value) : Reader Value := do
  match ← name? with
  | some (name, isPlain) => named name isPlain isOpen item wrapped
  | none =>
    match ← Reader.peek with
    | some '(' => do
      if ← Reader.startsWith ['(', ')'] then do
        Reader.word ['(', ')']
        pure .null
      else structure? isOpen item
    | some '[' => do
      if !isOpen then failure
      Reader.eat
      pure (.array (← Reader.items gap ']' item (← Reader.steps)))
    | some '\x7b' => do
      if !isOpen then failure
      Reader.eat
      pure (.ofPairs (← Reader.items gap '\x7d' (entry key item) (← Reader.steps)))
    | some '"' | some 'r' | some '\'' => do pure (.string (← key))
    | _ => number

/-- A value in which at most `levels` others lie within each other; a list or a table and an item of it are two. -/
def value : (levels : Nat) → Reader Value
  | 0 => valueOf false failure failure
  | 1 => valueOf true failure (value 0)
  | levels + 2 => valueOf true (value levels) (value (levels + 1))

/-- The number of values that may lie within each other. -/
def maxLevels : Nat := 128

/-! ### Texts -/

/-- What a text may be allowed. -/
def allowances : List String := ["unwrap_newtypes", "implicit_some", "unwrap_variant_newtypes", "explicit_struct_names"]

/-- A line that allows something. -/
def allowance : Reader Unit := do
  for part in ["#", "!", "[", "enable", "("] do
    Reader.word part.toList
    gap
  let names ← Reader.items gap ')' name (← Reader.steps)
  gap
  Reader.word [']']
  if names.isEmpty || !names.all allowances.contains then failure

/-- Passes over lines in front of the value that allow something. -/
def allowed : (fuel : Nat) → Reader Unit
  | 0 => failure
  | fuel + 1 => do
    gap
    if (← Reader.peek) = some '#' then do
      allowance
      allowed fuel

/-- Reads a text. -/
def parse (text : String) : Option Value :=
  let whole : Reader Value := do
    allowed (← Reader.steps)
    let v ← value maxLevels
    gap
    pure v
  whole.run text.toList

end Reconciliation.Settings.Ron
