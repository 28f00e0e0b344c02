import Reconciliation.Ident
import Reconciliation.Settings.Path
import Reconciliation.Text.Blank
import Reconciliation.Text.Reader

/-!
# INI files

A file is a sequence of keys with texts. Those behind a header belong to the section that it names. A section whose
header stands there again starts anew.

* `Ini.piece` reads characters, with backslashes in front of some, and `Ini.value` the text of a key.
* `Ini.parse` reads a file: its keys in front of all headers, and its sections as tables.
-/

namespace Reconciliation.Settings.Ini

open Json (Members Value)
open Text

/-! ### Texts -/

/-- What a letter behind a backslash stands for; other characters stand for themselves. -/
def unescaped (c : Char) : Char :=
  match c with
  | '0' => Char.ofNat 0
  | 'a' => Char.ofNat 7
  | 'b' => Char.ofNat 8
  | 't' => '\t'
  | 'r' => '\r'
  | 'n' => '\n'
  | c => c

/-- A character by its number in four places: hexadecimal digits, or a plus sign and three of them. -/
def numbered : Reader Char := do
  let cs := (← Reader.rest).take 4
  Reader.word cs
  let digits := if cs.head? = some '+' then cs.tail else cs
  match Ident.ofHexDigits? digits with
  | some n => if cs.length = 4 && n.isValidChar then pure (Char.ofNat n) else failure
  | none => failure

/-- Characters up to one that ends them. The end of the file ends them too if `mayStop` says so. A backslash joins the
next line. -/
def piece (ends : Char → Bool) (mayStop : Bool) : (fuel : Nat) → Reader (List Char)
  | 0 => failure
  | fuel + 1 => do
    match ← Reader.peek with
    | none => if mayStop then pure [] else failure
    | some c =>
      if ends c then pure []
      else
        Reader.eat
        if c = '\\' then
          match ← Reader.peek with
          | none => if mayStop then pure ['\\'] else failure
          | some '\n' => do
            Reader.eat
            piece ends mayStop fuel
          | some 'x' => do
            Reader.eat
            let c ← numbered
            pure (c :: (← piece ends mayStop fuel))
          | some c => do
            Reader.eat
            pure (unescaped c :: (← piece ends mayStop fuel))
        else pure (c :: (← piece ends mayStop fuel))

def isLineEnd (c : Char) : Bool := c = '\n' || c = '\r'

/-- The rest of a text up to the end of its line. Quotes stand in front of what has no other quotes before it. -/
def valueRest (first : Bool) : (fuel : Nat) → Reader (List Char)
  | 0 => failure
  | fuel + 1 => do
    match ← Reader.peek with
    | none => pure []
    | some c =>
      if c = '"' || c = '\'' then do
        Reader.eat
        let inner ← piece (· = c) false (← Reader.steps)
        Reader.eat
        pure (inner ++ (← valueRest false fuel))
      else do
        let cs ← piece isLineEnd true (← Reader.steps)
        let cs := if first then trimStart cs else cs
        pure (cs.reverse.dropWhile isBlank).reverse

/-- The text of a key. -/
def value : Reader String := do
  Reader.skip fun c => isBlank c && !isLineEnd c
  pure (String.ofList (← valueRest true (← Reader.steps)))

/-- A name up to one of the characters behind it, which is passed over. -/
def name (ends : Char → Bool) : Reader String := do
  let cs ← piece ends false (← Reader.steps)
  Reader.eat
  pure (String.ofList (stripBoth isBlank cs))

/-! ### Files -/

/-- What was read of a file: all keys, and the section that keys belong to. -/
structure Builder where
  root : Members
  current : Option String

def Builder.openSection (b : Builder) (name : String) : Builder := ⟨b.root.insert name (.object []), some name⟩

def Builder.add (b : Builder) (key text : String) : Builder :=
  match b.current with
  | none => { b with root := b.root.insert key (.string text) }
  | some name =>
    let table := membersOf ((b.root.get? name).getD .null)
    { b with root := b.root.insert name (.object (table.insert key (.string text))) }

/-- The lines of a file that are left. A comment starts with its line; `fresh` says that a line starts here. -/
def lines : (fuel : Nat) → (fresh : Bool) → Builder → Reader Builder
  | 0, _, _ => failure
  | fuel + 1, fresh, b => do
    let blanks ← Reader.take isBlank
    let fresh := match blanks.getLast? with | some c => c = '\n' | none => fresh
    match ← Reader.peek with
    | none => pure b
    | some c =>
      if c = ';' || c = '#' then
        if !fresh then failure
        Reader.skip (· ≠ '\n')
        Reader.eat
        lines fuel true b
      else if c = '[' then do
        Reader.eat
        let name ← name (· = ']')
        lines fuel false (b.openSection name)
      else do
        let key ← name fun c => c = '=' || c = ':'
        if key.isEmpty then failure
        let text ← value
        lines fuel false (b.add key text)

/-- Reads a file. -/
def parse (text : String) : Option Value :=
  (Reader.run (do lines (← Reader.steps) true ⟨[], none⟩) text.toList).map fun b => .object b.root

end Reconciliation.Settings.Ini
