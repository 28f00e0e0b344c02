import Reconciliation.Number.Binary64
import Reconciliation.Number.Shortest
import Reconciliation.Number.Whole
import Reconciliation.Text.Quoted

/-!
# JSON values

A number is an integer of 64 bits, signed or unsigned, or a binary floating point number. The members of an
object are kept in ascending order of their keys, each key once.

* `Members.insert` puts a member in its place and replaces the one with the same key.
* `Value.kind` says in an error text what was found.
-/

namespace Reconciliation.Json

open Number Text

inductive Numeral where
  | integer (i : Int)
  | float (x : Binary64)
  deriving Repr, DecidableEq

inductive Value where
  | null
  | bool (b : Bool)
  | number (n : Numeral)
  | string (s : String)
  | array (items : List Value)
  | object (members : List (String × Value))
  deriving Repr, Inhabited

/-- Keys with their values, in ascending order of the keys. -/
abbrev Members := List (String × Value)

/-! ### Equality -/

mutual

def Value.decideEq : (a b : Value) → Decidable (a = b)
  | .null, .null => isTrue rfl
  | .bool a, .bool b => decidable_of_iff (a = b) (by simp)
  | .number a, .number b => decidable_of_iff (a = b) (by simp)
  | .string a, .string b => decidable_of_iff (a = b) (by simp)
  | .array a, .array b =>
    match Value.decideEqItems a b with
    | isTrue h => isTrue (by rw [h])
    | isFalse h => isFalse (by simpa using h)
  | .object a, .object b =>
    match Value.decideEqMembers a b with
    | isTrue h => isTrue (by rw [h])
    | isFalse h => isFalse (by simpa using h)
  | .null, .bool _ | .null, .number _ | .null, .string _ | .null, .array _ | .null, .object _
  | .bool _, .null | .bool _, .number _ | .bool _, .string _ | .bool _, .array _ | .bool _, .object _
  | .number _, .null | .number _, .bool _ | .number _, .string _ | .number _, .array _ | .number _, .object _
  | .string _, .null | .string _, .bool _ | .string _, .number _ | .string _, .array _ | .string _, .object _
  | .array _, .null | .array _, .bool _ | .array _, .number _ | .array _, .string _ | .array _, .object _
  | .object _, .null | .object _, .bool _ | .object _, .number _ | .object _, .string _ | .object _, .array _ =>
    isFalse (by simp)

def Value.decideEqItems : (a b : List Value) → Decidable (a = b)
  | [], [] => isTrue rfl
  | [], _ :: _ | _ :: _, [] => isFalse (by simp)
  | a :: as, b :: bs =>
    match Value.decideEq a b, Value.decideEqItems as bs with
    | isTrue h, isTrue hs => isTrue (by rw [h, hs])
    | isFalse h, _ => isFalse (by simp [h])
    | _, isFalse h => isFalse (by simp [h])

def Value.decideEqMembers : (a b : List (String × Value)) → Decidable (a = b)
  | [], [] => isTrue rfl
  | [], _ :: _ | _ :: _, [] => isFalse (by simp)
  | (k, a) :: as, (l, b) :: bs =>
    match decEq k l, Value.decideEq a b, Value.decideEqMembers as bs with
    | isTrue hk, isTrue h, isTrue hs => isTrue (by rw [hk, h, hs])
    | isFalse h, _, _ => isFalse (by simp [h])
    | _, isFalse h, _ => isFalse (by simp [h])
    | _, _, isFalse h => isFalse (by simp [h])

end

instance : DecidableEq Value := Value.decideEq

/-! ### Members -/

namespace Members

/-- Puts a member in its place; a member with the same key gives way. -/
def insert (key : String) (value : Value) : Members → Members
  | [] => [(key, value)]
  | (k, v) :: rest =>
    if key < k then (key, value) :: (k, v) :: rest
    else if key = k then (key, value) :: rest
    else (k, v) :: insert key value rest

/-- The value of a key. -/
def get? (members : Members) (key : String) : Option Value := (members.find? (·.1 == key)).map (·.2)

/-- All members but the one with this key. -/
def erase (members : Members) (key : String) : Members := members.filter (·.1 != key)

/-- Members in the order of their keys; the last of equal keys stays. -/
def ofList (pairs : List (String × Value)) : Members := pairs.foldl (fun m p => insert p.1 p.2 m) []

end Members

/-! ### Looking into a value -/

namespace Value

/-- The member of an object. -/
def get? (v : Value) (key : String) : Option Value :=
  match v with
  | .object members => Members.get? members key
  | _ => none

def asString? : Value → Option String
  | .string s => some s
  | _ => none

/-- An object of the given pairs. -/
def ofPairs (pairs : List (String × Value)) : Value := .object (Members.ofList pairs)

/-- A value that may be absent; `null` stands for absence. -/
def ofOption {α : Type} (write : α → Value) : Option α → Value
  | none => .null
  | some a => write a

/-- A value that may be absent, as it is. -/
def orNull (v : Option Value) : Value := v.getD .null

def ofString? (s : Option String) : Value := ofOption .string s

def ofInt (i : Int) : Value := .number (.integer i)

end Value

/-- What a number is called in an error text. -/
def Numeral.kind : Numeral → String
  | .integer i => "integer `" ++ intText i ++ "`"
  | .float x => "floating point `" ++ x.text ++ "`"

/-- What a value is called in an error text. -/
def Value.kind : Value → String
  | .null => "null"
  | .bool true => "boolean `true`"
  | .bool false => "boolean `false`"
  | .number n => n.kind
  | .string s => "string " ++ quoted s
  | .array _ => "sequence"
  | .object _ => "map"

end Reconciliation.Json
