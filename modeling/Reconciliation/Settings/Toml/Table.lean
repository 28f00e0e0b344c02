import Reconciliation.Json.Value

/-!
# Tables of TOML

A table comes to be by a header of its own, by a key with dots, or only because something lies in it. Where it came
from decides whether it may still grow.

* `Table.descend` changes the table at the end of a path; tables on the way are added where they are missing.
* `Table.assign` gives a key a value, and a key has one value at most.
* `Table.value` forgets how the tables came to be.
-/

namespace Reconciliation.Settings.Toml

open Json

/-- How a table came to be. -/
inductive Origin where
  /-- A header names it. -/
  | header
  /-- Keys with dots name it. -/
  | dotted
  /-- Headers name something in it. -/
  | implied
  deriving Repr, DecidableEq

/-- What a key stands for. -/
inductive Node where
  /-- A value that nothing can be added to. -/
  | closed (v : Value)
  | table (origin : Origin) (entries : List (String × Node))
  /-- Tables in a row, the last first. -/
  | rows (tables : List (List (String × Node)))
  deriving Repr, Inhabited

abbrev Table := List (String × Node)

namespace Table

def get? (t : Table) (key : String) : Option Node := (t.find? (·.1 == key)).map (·.2)

/-- Gives a key a node; the node it had gives way. -/
def insert (key : String) (n : Node) : Table → Table
  | [] => [(key, n)]
  | (k, m) :: rest => if k = key then (k, n) :: rest else (k, m) :: insert key n rest

/-- Looks at the table at the end of the path of a header and changes it. -/
def descend {α : Type} (f : Table → Option (α × Table)) : List String → Table → Option (α × Table)
  | [], t => f t
  | key :: path, t => do
    match t.get? key with
    | none =>
      let (a, entries) ← descend f path []
      pure (a, t.insert key (.table .implied entries))
    | some (.table origin entries) =>
      let (a, entries) ← descend f path entries
      pure (a, t.insert key (.table origin entries))
    | some (.rows (last :: before)) =>
      let (a, last) ← descend f path last
      pure (a, t.insert key (.rows (last :: before)))
    | some (.rows []) | some (.closed _) => none

/-- Gives a new key a value. -/
def add (key : String) (v : Value) (t : Table) : Option Table :=
  if (t.get? key).isSome then none else some (t.insert key (.closed v))

/-- Gives the key at the end of a path a value. The path may pass tables that no header names. -/
def assign (key : String) (v : Value) : (path : List String) → Table → Option Table
  | [], t => t.add key v
  | k :: path, t => do
    match t.get? k with
    | none => pure (t.insert k (.table .dotted (← assign key v path [])))
    | some (.table .dotted entries) => pure (t.insert k (.table .dotted (← assign key v path entries)))
    | some (.table .implied entries) => pure (t.insert k (.table .implied (← assign key v path entries)))
    | _ => none

/-- The entries that a header finds under its key: those of a table that was only implied. -/
def opened (key : String) (t : Table) : Option (Table × Table) :=
  match t.get? key with
  | none => some ([], t)
  | some (.table .implied entries) => some (entries, t)
  | _ => none

/-- Puts the table of a header under its key. -/
def close (key : String) (entries : Table) (t : Table) : Option (Unit × Table) :=
  some ((), t.insert key (.table .header entries))

/-- The tables in a row under a key. -/
def row (key : String) (t : Table) : Option (List Table × Table) :=
  match t.get? key with
  | none => some ([], t)
  | some (.rows tables) => some (tables, t)
  | _ => none

/-- Adds a table to those in a row. -/
def append (key : String) (entries : Table) (t : Table) : Option (Unit × Table) := do
  let (tables, t) ← t.row key
  pure ((), t.insert key (.rows (entries :: tables)))

end Table

/-! ### Values -/

mutual

def Node.value : Node → Value
  | .closed v => v
  | .table _ entries => .ofPairs (values entries)
  | .rows tables => .array (rowValues tables).reverse

/-- The keys with their values. -/
def values : List (String × Node) → List (String × Value)
  | [] => []
  | (key, n) :: rest => (key, n.value) :: values rest

def rowValues : List (List (String × Node)) → List Value
  | [] => []
  | t :: rest => .ofPairs (values t) :: rowValues rest

end

def Table.value (t : Table) : Value := .ofPairs (values t)

end Reconciliation.Settings.Toml
