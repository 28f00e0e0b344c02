import Reconciliation.Json.Value
import Reconciliation.Number.Whole
import Reconciliation.Text.Blank

/-!
# Paths into settings

The key `a.b[2]` names a place: the third item of the list `b` of the table `a`; `a.b[-1]` is the last one. A key that
is written in another way names the member with that key.

* `Path.ofKey` reads a key.
* `Settings.put` puts a value in the place that a key names. Tables are merged, everything else gives way.
-/

namespace Reconciliation.Settings

open Json Number

inductive Step where
  | member (name : String)
  /-- An item of a list, counted from its end where the number is negative. -/
  | item (index : Int)
  deriving Repr, DecidableEq

abbrev Path := List Step

namespace Path

def isNameChar (c : Char) : Bool := c.isAlphanum || c = '_' || c = '-'

def isSpace (c : Char) : Bool := c = ' ' || c = '\t'

/-- The number between brackets. -/
def index? (cs : List Char) : Option Int :=
  match Text.stripBoth isSpace cs with
  | '-' :: digits => (magnitude? minInt64.natAbs digits).map (-·)
  | digits => magnitude? maxInt64.toNat digits
where
  magnitude? (max : Nat) (digits : List Char) : Option Int :=
    if digits.isEmpty then none else ((Whole.ofDigits? max 0 digits).toOption).map Int.ofNat

/-- The steps behind the first name. -/
def steps? : (fuel : Nat) → List Char → Option Path
  | _, [] => some []
  | 0, _ => none
  | fuel + 1, '.' :: rest => do
    let name := rest.takeWhile isNameChar
    if name.isEmpty then none else pure (.member (String.ofList name) :: (← steps? fuel (rest.drop name.length)))
  | fuel + 1, '[' :: rest => do
    let inner := rest.takeWhile (· ≠ ']')
    match rest.drop inner.length, index? inner with
    | ']' :: rest, some index => pure (.item index :: (← steps? fuel rest))
    | _, _ => none
  | _, _ => none

/-- The path that a key names. -/
def ofKey (key : String) : Path :=
  let cs := key.toList
  let name := cs.takeWhile isNameChar
  match steps? cs.length (cs.drop name.length) with
  | some steps => if name.isEmpty then [.member key] else .member (String.ofList name) :: steps
  | none => [.member key]

end Path

/-- The members of a table; anything else has none. -/
def membersOf : Value → Members
  | .object members => members
  | _ => []

/-- The items of a list; anything else has none. -/
def itemsOf : Value → List Value
  | .array items => items
  | _ => []

/-- A list that has an item with this number, and where that item is. Items that are missing are null: they are added
behind the others, or in front of them where the number is negative. -/
def reaching (index : Int) (items : List Value) : List Value × Nat :=
  if index < 0 then (List.replicate (index.natAbs - items.length) .null ++ items, items.length - index.natAbs)
  else (items ++ List.replicate (index.toNat + 1 - items.length) .null, index.toNat)

/-- Changes the value in a place. What is missing on the way there is added, and what has no such place gives way. -/
def update (f : Value → Value) : Path → Value → Value
  | [], v => f v
  | .member name :: path, v =>
    let members := membersOf v
    .object (members.insert name (update f path ((members.get? name).getD .null)))
  | .item index :: path, v =>
    let (items, place) := reaching index (itemsOf v)
    .array (items.set place (update f path (items[place]?.getD .null)))

mutual

/-- A value in the place of an older one: the members of tables are put together, and a table without members changes
nothing. -/
def merge : Value → (older : Value) → Value
  | .object members, older =>
    if members.isEmpty && older ≠ .null then older else .object (mergeMembers members (membersOf older))
  | v, _ => v

def mergeMembers : List (String × Value) → (older : Members) → Members
  | [], older => older
  | (key, v) :: rest, older => mergeMembers rest (older.insert key (merge v ((older.get? key).getD .null)))

end

/-- Puts a value in the place that a key names. -/
def put (root : Value) (key : String) (v : Value) : Value := update (merge v) (Path.ofKey key) root

end Reconciliation.Settings
