import Reconciliation.Settings.Yaml.Tag
import Reconciliation.Settings.Yaml.Text

/-!
# Tokens of YAML

Indentation becomes tokens that open and close blocks. Whether a text, or what stands between brackets, is a key shows
only at the colon behind it, so the token of a key is put in front of others that were found before.

* `Token` is what a document consists of.
* `Lexer.step` finds the tokens that the next characters of a text make.
* `Token.ofText?` is the tokens of a text.
-/

namespace Reconciliation.Settings.Yaml

inductive Token where
  | directive (d : Directive)
  | startMark
  | endMark
  | openSequence
  | openMapping
  | closeBlock
  | item
  | key
  | value
  | openList
  | closeList
  | openTable
  | closeTable
  | comma
  | anchor (name : String)
  | reference (name : String)
  | tag (t : Tag)
  /-- A text; a plain one has no quotes and stands in no lines of its own. -/
  | text (isPlain : Bool) (s : String)
  deriving Repr, DecidableEq, Inhabited

/-- What turns out to be a key if a colon follows. -/
structure Candidate where
  /-- A colon has to follow: nothing else can stand in this column. -/
  required : Bool
  /-- The number of tokens in front of it. -/
  place : Nat
  index : Nat
  line : Nat
  column : Nat
  deriving Repr, DecidableEq

/-- An indentation that others lie within. -/
structure Level where
  /-- The column around this level. -/
  outer : Int
  /-- It belongs to a sequence or a mapping; else, only to what stands behind a sign of one. -/
  isBlock : Bool
  deriving Repr, DecidableEq

structure Lexer where
  cursor : Cursor
  tokens : Array Token
  /-- The column of the last token, if that is an anchor or a tag. -/
  propertyColumn : Option Nat
  indent : Int
  /-- The innermost level first. -/
  levels : List Level
  /-- For each bracket that is open, and for what is around them, the key that may be meant; the innermost first. -/
  candidates : List (Option Candidate)
  keyAllowed : Bool
  /-- Between brackets, a colon here needs no blank behind it. -/
  adjacent : Nat
  /-- A table was opened, or a key named by its sign, since a pair in a list ended. -/
  inTable : Bool
  /-- For each list that is open whether a pair without braces is open in it; the innermost first. -/
  pairs : List Bool
  deriving Repr

abbrev Lexing := StateT Lexer Option

namespace Lexer

def ofChars (cs : List Char) : Lexer where
  cursor := .ofChars cs
  tokens := #[]
  propertyColumn := none
  indent := -1
  levels := []
  candidates := [none]
  keyAllowed := true
  adjacent := 0
  inTable := false
  pairs := []

/-- The number of brackets that may be open. -/
def maxBrackets : Nat := 255

/-- Whether a bracket is open. -/
def inFlow (s : Lexer) : Bool := s.candidates.length > 1

def column (s : Lexer) : Int := s.cursor.column

/-- Whether the innermost level belongs to a sequence or a mapping. -/
def inBlock (s : Lexer) : Bool := s.levels.head?.any (·.isBlock)

/-- Reads characters. -/
def reading {α : Type} (r : Reader α) : Lexing α := fun s =>
  match r.run s.cursor with
  | some (a, cursor) => some (a, { s with cursor := cursor })
  | none => none

def push (t : Token) : Lexing Unit := modify fun s => { s with tokens := s.tokens.push t, propertyColumn := none }

/-- Adds an anchor or a tag that started in a column. -/
def pushProperty (column : Nat) (t : Token) : Lexing Unit := do
  push t
  modify fun s => { s with propertyColumn := some column }

/-- Puts a token in front of others. -/
def insert (place : Nat) (t : Token) : Lexing Unit :=
  modify fun s => { s with tokens := s.tokens.insertIdxIfInBounds place t }

def allowKey (b : Bool) : Lexing Unit := modify fun s => { s with keyAllowed := b }

/-- Passes over what may stand between tokens. Outside of brackets, a key may stand in a new line. -/
def skipGap : Lexing Unit := do
  let ended ← reading (Reader.gap (← get).indent)
  if ended && !(← get).inFlow then allowKey true

/-! ### Indentation -/

/-- Outside of brackets, a block in a column starts here or at a place among the tokens, unless it lies in one. -/
def indentTo (column : Int) (start : Token) (place : Option Nat) : Lexing Unit := do
  if !(← get).inFlow then
    modify fun s =>
      match s.levels with
      | level :: outer =>
        if s.indent ≤ column && !level.isBlock then { s with indent := level.outer, levels := outer } else s
      | [] => s
    if (← get).indent < column then
      modify fun s => { s with indent := column, levels := ⟨s.indent, true⟩ :: s.levels }
      match place with
      | some place => insert place start
      | none => push start

/-- What follows in a block is indented by one column more. -/
def indentOne : Lexing Unit :=
  modify fun s =>
    if !s.inFlow && s.inBlock then { s with indent := s.indent + 1, levels := ⟨s.indent, false⟩ :: s.levels } else s

/-- Leaves the innermost levels that are no blocks. -/
def leaveInner : Lexing Unit :=
  modify fun s =>
    let inner := s.levels.takeWhile fun level => !level.isBlock
    match inner.getLast? with
    | some level => { s with indent := level.outer, levels := s.levels.drop inner.length }
    | none => s

/-- Outside of brackets, leaves the levels that a column does not belong to. -/
def leaveTo (column : Int) : Lexing Unit :=
  modify fun s =>
    if s.inFlow then s else go s s.levels
where
  go (s : Lexer) : List Level → Lexer
    | [] => s
    | level :: outer =>
      if s.indent > column then
        let tokens := if level.isBlock then s.tokens.push .closeBlock else s.tokens
        let property := if level.isBlock then none else s.propertyColumn
        go { s with indent := level.outer, levels := outer, tokens := tokens, propertyColumn := property } outer
      else s

/-! ### Keys without a sign -/

def setCandidate (c : Option Candidate) : Lexing Unit :=
  modify fun s => { s with candidates := c :: s.candidates.tail }

/-- What follows may be a key. -/
def markCandidate : Lexing Unit := do
  let s ← get
  if s.keyAllowed then
    setCandidate (some {
      required := !s.inFlow && s.indent = s.column && s.inBlock
      place := s.tokens.size
      index := s.cursor.index
      line := s.cursor.line
      column := s.cursor.column })

/-- What was read since is no key. -/
def dropCandidate : Lexing Unit := do
  if (← get).candidates.head?.join.any (·.required) then failure
  setCandidate none

/-- The number of characters that a key may have. -/
def maxKeyLength : Nat := 1024

/-- Outside of brackets, a key and its colon stand in one line and not far from each other. -/
def dropStale : Lexing Unit := do
  let s ← get
  match s.candidates with
  | [some c] =>
    if c.line < s.cursor.line || c.index + maxKeyLength < s.cursor.index then dropCandidate
  | _ => pure ()

/-! ### Signs -/

/-- Ends a pair without braces in a list. -/
def endPair : Lexing Unit := do
  if (← get).pairs.head? = some true then
    modify fun s => { s with inTable := false, pairs := false :: s.pairs.tail }
    push .closeTable

def openBracket (t : Token) : Lexing Unit := do
  markCandidate
  indentOne
  if (← get).candidates.length > maxBrackets then failure
  modify fun s => { s with candidates := none :: s.candidates, keyAllowed := true }
  if t = .openTable then modify fun s => { s with inTable := true }
  else modify fun s => { s with pairs := false :: s.pairs }
  reading do
    Reader.eat
    let _ ← Reader.lineTail
  push t

def closeBracket (t : Token) : Lexing Unit := do
  if !(← get).inFlow then failure
  dropCandidate
  modify fun s => { s with candidates := s.candidates.tail, keyAllowed := false }
  if t = .closeList then
    endPair
    modify fun s => { s with pairs := s.pairs.tail }
  reading do
    Reader.eat
    let _ ← Reader.lineTail
  modify fun s => if s.inFlow then { s with adjacent := s.cursor.index } else s
  push t

def comma : Lexing Unit := do
  dropCandidate
  allowKey true
  endPair
  reading do
    Reader.eat
    let _ ← Reader.lineTail
  push .comma

/-- A hyphen in front of an item of a sequence. An anchor or a tag in the first column belongs to no such item. -/
def hyphen : Lexing Unit := do
  let s ← get
  if s.inFlow || !s.keyAllowed then failure
  if s.column = 0 && s.propertyColumn = some 0 && s.indent > -1 then failure
  reading Reader.eat
  indentTo s.column .openSequence none
  let blanks ← reading Reader.lineTail
  let next ← reading Reader.rest
  if blanks.contains '\t' && next.head? = some '-' && endsWord next.tail then failure
  if next.head?.any fun c => c = '\n' || isDivider c then indentOne
  dropCandidate
  allowKey true
  push .item

/-- Passes over what stands behind the sign of a key: blanks, ends of lines and comments, but not comments alone. -/
def keyGap : (fuel : Nat) → (spaced : Bool) → Reader Unit
  | 0, _ => failure
  | fuel + 1, spaced => do
    match ← Reader.peek with
    | some ' ' | some '\n' => do Reader.eat; keyGap fuel true
    | some '#' => do Reader.line; keyGap fuel spaced
    | c => if !spaced || c = some '\t' then failure

/-- The sign of a key. -/
def keySign : Lexing Unit := do
  let s ← get
  if s.inFlow then modify fun s => { s with inTable := true }
  else
    if !s.keyAllowed then failure
    indentTo s.column .openMapping none
  dropCandidate
  allowKey !s.inFlow
  reading do
    Reader.eat
    keyGap (← Reader.steps) false
  push .key

/-- A colon behind a key, or behind nothing. In a list, a pair starts there unless braces are open. -/
def colon : Lexing Unit := do
  let s ← get
  let isPair := !s.pairs.isEmpty && !s.inTable
  if isPair then modify fun s => { s with pairs := true :: s.pairs.tail }
  reading do
    Reader.eat
    if (← Reader.peek) = some '\t' then
      let blanks ← Reader.lineTail
      if !blanks.contains ' ' && (← Reader.peek).any Tag.isNameChar then failure
  match s.candidates.head?.join with
  | some c =>
    insert c.place .key
    if isPair then
      if c.line < s.cursor.line then failure
      insert c.place .openTable
    indentTo c.column .openMapping (some c.place)
    indentOne
    setCandidate none
    allowKey false
  | none =>
    if isPair then push .openTable
    if !s.inFlow then
      if !s.keyAllowed then failure
      indentTo s.column .openMapping none
    indentOne
    allowKey !s.inFlow
  push .value

/-! ### Nodes -/

/-- Reads an anchor or a tag. -/
def property (r : Reader Token) : Lexing Unit := do
  markCandidate
  allowKey false
  let column := (← get).cursor.column
  pushProperty column (← reading r)

/-- A sign and the name of an anchor before it. -/
def reference : Lexing Unit := do
  markCandidate
  allowKey false
  push (.reference (← reading Tag.name))

/-- A text in lines of its own. -/
def blockText (folds : Bool) : Lexing Unit := do
  markCandidate
  allowKey true
  leaveInner
  push (.text false (← reading (Text.block folds (← get).indent)))

/-- A text in quotes. What may stand behind it is passed over; between brackets, a colon may follow. -/
def quotedText : Lexing Unit := do
  markCandidate
  allowKey false
  let s ← get
  let text ← reading (Text.quoted s.inFlow s.indent)
  skipGap
  modify fun s => { s with adjacent := s.cursor.index }
  push (.text false text)

def plainText : Lexing Unit := do
  markCandidate
  allowKey false
  leaveInner
  let s ← get
  let text ← reading (Text.plain s.inFlow s.indent)
  if (← get).cursor.fresh then allowKey true
  push (.text true text)

/-! ### Lines between documents -/

/-- Ends all blocks. -/
def leaveAll : Lexing Unit := do
  leaveTo (-1)
  dropCandidate
  allowKey false

def directive : Lexing Unit := do
  leaveAll
  push (.directive (← reading Directive.read))

def mark (t : Token) : Lexing Unit := do
  leaveAll
  reading (Reader.pass 3)
  push t
  if t = .endMark then
    let _ ← reading Reader.lineTail
    if !endsLine (← reading Reader.rest) then failure

/-! ### All tokens -/

/-- A token that starts with a character; `rest` is what stands behind it. -/
def node (c : Char) (rest : List Char) : Lexing Unit := do
  let s ← get
  let atFlowColon := s.inFlow && (rest.head?.any isDivider || s.cursor.index = s.adjacent)
  match c with
  | '[' => openBracket .openList
  | '\x7b' => openBracket .openTable
  | ']' => closeBracket .closeList
  | '\x7d' => closeBracket .closeTable
  | ',' => comma
  | '-' => if endsWord rest then hyphen else plainText
  | '?' => if endsWord rest then keySign else plainText
  | ':' => if endsWord rest || atFlowColon then colon else plainText
  | '*' => reference
  | '&' => property (do pure (.anchor (← Tag.name)))
  | '!' => property (do pure (.tag (← Tag.read s.inFlow)))
  | '|' => if s.inFlow then plainText else blockText false
  | '>' => if s.inFlow then plainText else blockText true
  | '\'' | '"' => quotedText
  | '%' | '@' | '\x60' => failure
  | _ => plainText

/-- Finds the tokens that the next characters make; says whether there are more. -/
def step : Lexing Bool := do
  skipGap
  dropStale
  leaveTo (← get).column
  let s ← get
  match s.cursor.rest with
  | [] => do
    if s.candidates.any fun c => c.any (·.required) then failure
    leaveTo (-1)
    pure false
  | c :: rest => do
    if s.column = 0 && c = '%' then directive
    else if s.cursor.isMark '-' then mark .startMark
    else if s.cursor.isMark '.' then mark .endMark
    else if s.column < s.indent then failure
    else node c rest
    pure true

def run : (fuel : Nat) → Lexing Unit
  | 0 => failure
  | fuel + 1 => do
    if ← step then run fuel

end Lexer

/-- The tokens of a text. -/
def Token.ofText? (cs : List Char) : Option (List Token) :=
  match (Lexer.run (cs.length + 1)).run (.ofChars cs) with
  | some ((), s) => some s.tokens.toList
  | none => none

end Reconciliation.Settings.Yaml
