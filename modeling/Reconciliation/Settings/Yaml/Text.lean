import Reconciliation.Ident
import Reconciliation.Number.Whole
import Reconciliation.Settings.Yaml.Cursor

/-!
# Texts of YAML

A text stands in quotes, without them, or in lines of its own. `indent` is the column of what the text belongs to.

* `Text.quoted` and `Text.plain` are texts whose lines are put together: the end of a line becomes a blank, and of more
  than one all but one remain.
* `Text.block` is a text in lines of its own behind a header, with or without putting lines together.
-/

namespace Reconciliation.Settings.Yaml.Text

open Reader

/-- What the ends of lines in a text become. -/
def folded (ends : Nat) : List Char := if ends = 1 then [' '] else List.replicate (ends - 1) '\n'

/-- Passes over ends of lines and blanks, and counts the ends; `tab` passes over a tabulator. -/
def lineEnds (tab : Reader Unit) : (fuel : Nat) → Reader Nat
  | 0 => failure
  | fuel + 1 => do
    match ← peek with
    | some '\n' => do eat; pure ((← lineEnds tab fuel) + 1)
    | some ' ' => do eat; lineEnds tab fuel
    | some '\t' => do tab; lineEnds tab fuel
    | _ => pure 0

/-! ### Texts in quotes -/

/-- A character by its number in `count` hexadecimal digits. -/
def numbered (count : Nat) : Reader Char := do
  let digits := (← rest).take count
  pass digits.length
  match Ident.ofHexDigits? digits with
  | some n => if digits.length = count && n.isValidChar then pure (Char.ofNat n) else failure
  | none => failure

/-- What characters behind a backslash stand for. -/
def escapes : List (Char × Nat) := [
  ('0', 0), ('a', 7), ('b', 8), ('t', 9), ('\t', 9), ('n', 10), ('v', 11), ('f', 12), ('r', 13), ('e', 27), (' ', 32),
  ('"', 34), ('/', 47), ('\\', 92), ('N', 0x85), ('_', 0xA0), ('L', 0x2028), ('P', 0x2029)]

def escaped : Reader Char := do
  match ← any with
  | 'x' => numbered 2
  | 'u' => numbered 4
  | 'U' => numbered 8
  | c =>
    match escapes.find? (·.1 == c) with
    | some e => pure (Char.ofNat e.2)
    | none => failure

/-- The characters up to a blank, the end of a line or the quote behind the text. An end of a line behind a backslash is
passed over too, and the second part of the result says so. -/
def quotedWord (quote : Char) : (fuel : Nat) → Reader (List Char × Bool)
  | 0 => failure
  | fuel + 1 => do
    let cs ← rest
    if endsWord cs then pure ([], false)
    else if cs.head? = some quote && !(quote = '\'' && cs[1]? = some quote) then pure ([], false)
    else if cs.head? = some '\\' && quote = '"' && cs[1]? = some '\n' then do
      pass 2
      pure ([], true)
    else
      let c ← any
      let c ← if c = quote then any else if c = '\\' && quote = '"' then escaped else pure c
      let (word, broken) ← quotedWord quote fuel
      pure (c :: word, broken)

/-- The rest of a text in quotes. Its lines are indented at least as much as what it belongs to. -/
def quotedRest (quote : Char) (indent : Int) : (fuel : Nat) → Reader (List Char)
  | 0 => failure
  | fuel + 1 => do
    let s ← get
    if s.rest.isEmpty || s.atMark || s.column < indent then failure
    let (word, broken) ← quotedWord quote (← steps)
    if (← peek) = some quote then do
      eat
      pure word
    else
      let blanks ← if broken then pure [] else take isSpace
      let tab : Reader Unit := do
        if (← get).column < indent then failure
        eat
      let ends ← lineEnds tab (← steps)
      let between :=
        if ends = 0 then blanks else if broken then List.replicate ends '\n' else folded ends
      pure (word ++ between ++ (← quotedRest quote indent fuel))

/-- A text in quotes, and what may end its line. Behind it, a colon may stand in the line where the text starts, and
between brackets in any line. -/
def quoted (inFlow : Bool) (indent : Int) : Reader String := do
  let start := (← get).line
  let quote ← any
  let cs ← quotedRest quote indent (← steps)
  let _ ← lineTail
  let s ← get
  let ended :=
    match s.rest with
    | [] => true
    | c :: _ =>
      c = '\n' || (c = ':' && (inFlow || s.line = start)) || (inFlow && (c = ',' || c = ']' || c = '\x7d'))
  if ended then pure (String.ofList cs) else failure

/-! ### Texts without quotes -/

/-- The characters up to a blank, the end of a line, a colon at the end of a word or a divider. -/
def plainWord (inFlow : Bool) : List Char → List Char
  | [] => []
  | c :: rest =>
    if isSpace c || c = '\n' || (c = ':' && endsFlowWord inFlow rest) || (inFlow && isDivider c) then []
    else c :: plainWord inFlow rest

/-- The rest of a text without quotes. Outside of brackets, its lines stand in a column of at least `least`. -/
def plainRest (inFlow : Bool) (least : Int) : (fuel : Nat) → Reader (List Char)
  | 0 => failure
  | fuel + 1 => do
    let s ← get
    if s.atMark || s.rest.head? = some '#' then pure []
    else if inFlow && s.rest.head? = some '-' && s.rest.tail.head?.any isDivider then failure
    else
      let word := plainWord inFlow s.rest
      pass word.length
      let blanks ← take isSpace
      let tab : Reader Unit := do
        if (← get).column < least then do
          let _ ← lineTail
          if (← peek) ≠ some '\n' then failure
        else eat
      let ends ← lineEnds tab (← steps)
      if (blanks.isEmpty && ends = 0) || (!inFlow && (← get).column < least) then pure word
      else
        let more ← plainRest inFlow least fuel
        let between := if ends = 0 then blanks else folded ends
        pure (if more.isEmpty then word else word ++ between ++ more)

/-- A text without quotes. -/
def plain (inFlow : Bool) (indent : Int) : Reader String := do
  if inFlow && (← get).column < indent + 1 then failure
  pure (String.ofList (← plainRest inFlow (indent + 1) (← steps)))

/-! ### Texts in lines of their own -/

/-- What becomes of the ends of lines behind a text: one remains, none, or all. -/
inductive Ending where
  | clip
  | strip
  | keep
  deriving Repr, DecidableEq

/-- The sign of an ending, if there is one. -/
def ending? : Reader (Option Ending) := do
  match ← peek with
  | some '+' => do eat; pure (some .keep)
  | some '-' => do eat; pure (some .strip)
  | _ => pure none

/-- How much more the text is indented, if that is said; a text is indented by one column at least. -/
def increment? : Reader (Option Nat) := do
  match (← peek).bind Number.digit? with
  | none => pure none
  | some 0 => failure
  | some n => do eat; pure (some n)

/-- What stands behind the sign of a text: an ending and an increment, in any order. -/
def header : Reader (Ending × Option Nat) := do
  let ending ← ending?
  let increment ← increment?
  match ending with
  | some ending => pure (ending, increment)
  | none => do pure ((← ending?).getD .clip, increment)

/-- Passes over empty lines, and over blanks in front of column `limit`. The result is the largest column that was
reached, and the number of lines. -/
def emptyLines (limit : Option Nat) : (fuel : Nat) → Reader (Nat × Nat)
  | 0 => failure
  | fuel + 1 => do
    let s ← get
    let blanks := (s.rest.takeWhile (· = ' ')).length
    pass (match limit with | some limit => min blanks (limit - s.column) | none => blanks)
    let column := (← get).column
    if (← peek) = some '\n' then do
      eat
      let (most, ends) ← emptyLines limit fuel
      pure (max column most, ends + 1)
    else pure (column, 0)

/-- What was read of a text: its characters, whether the end of its last line is not among them yet, and the number of
empty lines behind. -/
structure Lines where
  chars : List Char
  pending : Bool
  ends : Nat
  deriving Repr, DecidableEq

/-- The lines of a text in a column. `before` says of the line before whether it starts with a blank, and `ends` is the
number of empty lines behind that one. Lines that start with blanks are not put together with others. -/
def lines (folds : Bool) (column : Nat) : (fuel : Nat) → (before : Option Bool) → (ends : Nat) → Reader Lines
  | 0, _, _ => failure
  | fuel + 1, before, ends => do
    let s ← get
    if s.column ≠ column || s.rest.isEmpty || s.atMark then pure ⟨[], before.isSome, ends⟩
    else
      let blank := s.rest.head?.any isSpace
      let between :=
        if folds && before = some false && !blank then folded (ends + 1)
        else List.replicate (ends + if before.isSome then 1 else 0) '\n'
      let line ← take (· ≠ '\n')
      if (← rest).isEmpty then pure ⟨between ++ line, false, 0⟩
      else
        eat
        let (_, ends) ← emptyLines (some column) (← steps)
        let more ← lines folds column fuel (some blank) ends
        pure { more with chars := between ++ line ++ more.chars }

/-- The text of a block without lines. -/
def noLines (ending : Ending) (broken : Bool) (ends : Nat) : List Char :=
  if ending = .strip || !broken then []
  else if ending = .clip || ends = 0 then ['\n']
  else List.replicate ends '\n'

/-- A text in lines of its own, from its sign on. -/
def block (folds : Bool) (indent : Int) : Reader String := do
  eat
  let (ending, increment) ← header
  let _ ← lineTail
  let broken := !(← rest).isEmpty
  if broken then
    if (← any) ≠ '\n' then failure
  if (← peek) = some '\t' then failure
  let given := increment.map fun n => (max indent 0).toNat + n
  let (most, ends) ← emptyLines given (← steps)
  let column := given.getD (max most (indent + 1).toNat)
  let s ← get
  if s.rest.isEmpty then pure (String.ofList (noLines ending broken ends))
  else if s.column < column && indent < s.column then failure
  else
    let text ← lines folds column (← steps) none ends
    let s ← get
    let last := if text.pending then ['\n'] else []
    let cut := if s.rest.isEmpty && s.column ≥ max column 1 then ['\n'] else []
    pure (String.ofList (text.chars ++
      match ending with
      | .strip => []
      | .clip => last ++ cut
      | .keep => last ++ cut ++ List.replicate text.ends '\n'))

end Reconciliation.Settings.Yaml.Text
