/-!
# Places in a text

Where a node starts decides what it belongs to, so a reader of YAML knows its line and its column. Lines end with line
feeds.

* `Cursor` is a place in a text, and `Cursor.next` the place behind its next character.
* `Reader.take` and `Reader.pass` pass over characters, `Reader.lineTail` over what may end a line, `Reader.gap` over
  what may stand between nodes.
-/

namespace Reconciliation.Settings.Yaml

structure Cursor where
  rest : List Char
  index : Nat
  line : Nat
  column : Nat
  /-- Nothing but blanks stands before in this line. -/
  fresh : Bool
  deriving Repr, DecidableEq

abbrev Reader := StateT Cursor Option

/-! ### Characters -/

def isSpace (c : Char) : Bool := c = ' ' || c = '\t'

/-- Characters that divide nodes between brackets. -/
def isDivider (c : Char) : Bool := c = ',' || c = '[' || c = ']' || c = '\x7b' || c = '\x7d'

/-- Whether a line ends before these characters. -/
def endsLine : List Char → Bool
  | [] => true
  | c :: _ => c = '\n'

/-- Whether a word ends before these characters. -/
def endsWord : List Char → Bool
  | [] => true
  | c :: _ => isSpace c || c = '\n'

/-- Whether a word ends before these characters; between brackets, dividers end it too. -/
def endsFlowWord (inFlow : Bool) (cs : List Char) : Bool := endsWord cs || (inFlow && cs.head?.any isDivider)

/-! ### Places -/

namespace Cursor

def ofChars (cs : List Char) : Cursor := ⟨cs, 0, 0, 0, true⟩

/-- The place behind the next character. -/
def next (s : Cursor) : Cursor :=
  match s.rest with
  | [] => s
  | c :: rest =>
    if c = '\n' then ⟨rest, s.index + 1, s.line + 1, 0, true⟩
    else ⟨rest, s.index + 1, s.line, s.column + 1, s.fresh && isSpace c⟩

/-- Whether three characters that stand between documents stand here. -/
def isMark (s : Cursor) (c : Char) : Bool := s.column = 0 && [c, c, c].isPrefixOf s.rest && endsWord (s.rest.drop 3)

/-- Whether a document starts or ends here. -/
def atMark (s : Cursor) : Bool := s.isMark '-' || s.isMark '.'

end Cursor

/-! ### Readers -/

namespace Reader

def rest : Reader (List Char) := do pure (← get).rest

def peek : Reader (Option Char) := do pure (← rest).head?

def eat : Reader Unit := modify Cursor.next

/-- The next character. -/
def any : Reader Char := do
  match ← peek with
  | none => failure
  | some c => do eat; pure c

/-- Passes over some characters. -/
def pass : Nat → Reader Unit
  | 0 => pure ()
  | n + 1 => do eat; pass n

/-- Takes characters as long as they have a property. -/
def take (p : Char → Bool) : Reader (List Char) := do
  let front := (← rest).takeWhile p
  pass front.length
  pure front

/-- Passes over the rest of a line. -/
def line : Reader Unit := do
  let _ ← take (· ≠ '\n')

/-- One more than the number of characters that are left. -/
def steps : Reader Nat := do pure ((← rest).length + 1)

/-- Passes over blanks and a comment, which stands behind a blank. The blanks are the result. -/
def lineTail : Reader (List Char) := do
  let blanks ← take isSpace
  if (← peek) = some '#' then
    if blanks.isEmpty then failure
    line
  pure blanks

/-- Passes over blanks, ends of lines and comments, and says whether a line ended. What stands in a line in front of
column `least` is not indented by tabulators. -/
def gapUpTo (least : Int) : (fuel : Nat) → Reader Bool
  | 0 => failure
  | fuel + 1 => do
    let s ← get
    match s.rest.head? with
    | some '\t' =>
      if s.fresh && s.column < least then do
        let _ ← lineTail
        if endsLine (← rest) then gapUpTo least fuel else failure
      else do eat; gapUpTo least fuel
    | some ' ' => do eat; gapUpTo least fuel
    | some '\n' => do
      eat
      let _ ← gapUpTo least fuel
      pure true
    | some '#' => do line; gapUpTo least fuel
    | _ => pure false

def gap (least : Int) : Reader Bool := do gapUpTo least (← steps)

end Reader
end Reconciliation.Settings.Yaml
