import Reconciliation.Settings.Toml.Scalar
import Reconciliation.Settings.Toml.Table

/-!
# TOML documents

A document is a sequence of lines: headers, which name a table, and entries, which give keys of that table values.

* `Toml.value` reads a value, and `Toml.line` a line.
* `Builder.take` adds a line to what was built so far.
* `Toml.parse` reads a document. A document with a key that has two values is refused.
-/

namespace Reconciliation.Settings.Toml

open Json (Value)
open Text

/-! ### Values -/

/-- The number of lists and tables that may lie within each other. -/
def maxLevels : Nat := 80

/-- The table of keys and values. -/
def table? (entries : List (List String × Value)) : Option Table :=
  entries.foldlM (fun t (path, v) =>
    match path.getLast? with
    | some key => t.assign key v path.dropLast
    | none => none) []

/-- A key and its value; `blank` passes over what may stand around the sign between them. -/
def entry (blank : Reader Unit) (value : Reader Value) : Reader (List String × Value) := do
  let path ← key
  blank
  Reader.word ['=']
  blank
  pure (path, ← value)

/-- A value, given readers of what stands behind an opening bracket or brace. -/
def valueOf (list table : Reader Value) : Reader Value := do
  match ← Reader.peek with
  | some '"' => do pure (.string (← quotedText '"'))
  | some '\'' => do pure (.string (← quotedText '\''))
  | some '[' => do Reader.eat; list
  | some '\x7b' => do Reader.eat; table
  | _ => bareValue

/-- A value with at most `levels` lists and tables within each other. -/
def value : (levels : Nat) → Reader Value
  | 0 => valueOf failure failure
  | levels + 1 =>
    let blank : Reader Unit := do gap (← Reader.steps)
    let list : Reader Value := do pure (.array (← Reader.items blank ']' (value levels) (← Reader.steps)))
    let table : Reader Value := do
      match table? (← Reader.items blank '\x7d' (entry blank (value levels)) (← Reader.steps)) with
      | some t => pure t.value
      | none => failure
    valueOf list table

/-! ### Lines -/

inductive Line where
  /-- Entries that follow belong to the table with this path. -/
  | header (path : List String)
  /-- Entries that follow belong to a new table in the row with this path. -/
  | row (path : List String)
  | entry (path : List String) (v : Value)
  deriving Repr, DecidableEq

/-- A line that is not blank. -/
def line : Reader Line := do
  if ← Reader.startsWith ['[', '['] then
    Reader.word ['[', '[']
    let path ← key
    Reader.word [']', ']']
    pure (.row path)
  else if (← Reader.peek) = some '[' then
    Reader.eat
    let path ← key
    Reader.word [']']
    pure (.header path)
  else
    let (path, v) ← entry spaces (value maxLevels)
    pure (.entry path v)

/-- The lines that are left. -/
def lines : (fuel : Nat) → Reader (List Line)
  | 0 => failure
  | fuel + 1 => do
    gap (← Reader.steps)
    if (← Reader.peek).isNone then pure []
    else
      let first ← line
      spaces
      comment
      if (← Reader.peek).isNone then pure [first]
      else do
        lineEnd
        pure (first :: (← lines fuel))

/-! ### Building -/

/-- The table that entries belong to. -/
inductive Place where
  | root
  | table (path : List String) (key : String)
  | row (path : List String) (key : String)
  deriving Repr, DecidableEq

/-- What was built so far: the document without the table that entries belong to, and that table. -/
structure Builder where
  document : Table
  place : Place
  entries : Table

namespace Builder

def empty : Builder := ⟨[], .root, []⟩

/-- The document with the table that entries belong to. -/
def finish (b : Builder) : Option Table :=
  match b.place with
  | .root => some b.entries
  | .table path key => (b.document.descend (Table.close key b.entries) path).map (·.2)
  | .row path key => (b.document.descend (Table.append key b.entries) path).map (·.2)

/-- Adds a line. -/
def take (b : Builder) : Line → Option Builder
  | .entry path v => do
    let key ← path.getLast?
    pure { b with entries := ← b.entries.assign key v path.dropLast }
  | .header path => do
    let key ← path.getLast?
    let (entries, document) ← (← b.finish).descend (Table.opened key) path.dropLast
    pure ⟨document, .table path.dropLast key, entries⟩
  | .row path => do
    let key ← path.getLast?
    let (_, document) ← (← b.finish).descend (Table.row key) path.dropLast
    pure ⟨document, .row path.dropLast key, []⟩

end Builder

/-- The table that lines make. -/
def build (ls : List Line) : Option Table := do (← ls.foldlM Builder.take .empty).finish

/-- Reads a document; a byte order mark may stand before it. -/
def parse (text : String) : Option Value := do
  let ls ← (do lines (← Reader.steps) : Reader (List Line)).run (withoutMark text.toList)
  pure (← build ls).value

end Reconciliation.Settings.Toml
