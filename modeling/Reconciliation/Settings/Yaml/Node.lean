import Reconciliation.Settings.Scalar
import Reconciliation.Settings.Yaml.Tag

/-!
# Nodes of YAML

* `Node.ofText` is the node that a text stands for: a plain text without a tag may be a number, a truth value or null.
* `Node.ofParts?` puts keys and values together. No key may be there twice.
* `Node.value?` is a node as a value of settings, whose keys are texts.
-/

namespace Reconciliation.Settings.Yaml

open Json Number

inductive Node where
  | null
  | bool (b : Bool)
  | integer (i : Int)
  /-- A number that is no integer, as it is written. -/
  | real (s : String)
  | text (s : String)
  | list (items : List Node)
  | table (members : List (Node × Node))
  /-- A text that is not what its tag says, or a node that has no end yet. -/
  | unknown
  deriving Repr, BEq, Inhabited

namespace Node

/-! ### Plain texts -/

/-- Words for what is beyond all numbers, and for what is no number. -/
def words : List String :=
  ["", "+", "-"].flatMap (fun sign => [".inf", ".Inf", ".INF"].map (sign ++ ·)) ++ [".nan", ".NaN", ".NAN"]

def isReal (s : String) : Bool := words.contains s || (decimal? s.toList).isSome

/-- An integer with the mark of its base, or with a plus sign. -/
def marked? : List Char → Option Int
  | '0' :: 'x' :: rest => int64? 16 rest
  | '0' :: 'o' :: rest => int64? 8 rest
  | '+' :: rest => int64? 10 rest
  | _ => none

/-- The node that a plain text without a tag stands for. -/
def ofPlain (s : String) : Node :=
  if ["", "~", "null", "Null", "NULL"].contains s then .null
  else if ["true", "True", "TRUE"].contains s then .bool true
  else if ["false", "False", "FALSE"].contains s then .bool false
  else
    match (marked? s.toList).or (int64? 10 s.toList) with
    | some i => .integer i
    | none => if isReal s then .real s else .text s

/-- The node that a plain text stands for if one of the standard tags says so. -/
def ofStandard (kind s : String) : Node :=
  match kind with
  | "bool" => if s = "true" then .bool true else if s = "false" then .bool false else .unknown
  | "int" =>
    match int64? 10 s.toList with
    | some i => .integer i
    | none => .unknown
  | "float" => if isReal s then .real s else .unknown
  | "null" => if s = "~" || s = "null" then .null else .unknown
  | _ => .text s

/-- The node that a text stands for. -/
def ofText (tag : Option Tag) (isPlain : Bool) (s : String) : Node :=
  if !isPlain then .text s
  else
    match tag with
    | none => ofPlain s
    | some t => if t.handle = Tag.standard then ofStandard t.suffix s else .text s

/-! ### Tables -/

/-- Keys with their values, from both in turn. The node behind an unknown key takes its place. -/
def pairs : (key : Node) → List Node → List (Node × Node)
  | _, [] => []
  | key, n :: rest => if key == .unknown then pairs n rest else (key, n) :: pairs .unknown rest

def areDistinct : List Node → Bool
  | [] => true
  | n :: rest => !rest.contains n && areDistinct rest

/-- The table of keys and values, which are given in turn. -/
def ofParts? (parts : List Node) : Option Node :=
  let members := pairs .unknown parts
  if areDistinct (members.map (·.1)) then some (.table members) else none

/-! ### Values -/

/-- The key of settings that a node makes. -/
def keyText? : Node → Option String
  | .text s | .real s => some s
  | .integer i => some (intText i)
  | .bool b => some (if b then "true" else "false")
  | .null | .unknown | .list _ | .table _ => none

mutual

/-- A node as a value of settings, which have no words for what is no number. -/
def value? : Node → Option Value
  | .null | .unknown => some .null
  | .bool b => some (.bool b)
  | .integer i => some (.ofInt i)
  | .real s => (decimal? s.toList).map (·.value)
  | .text s => some (.string s)
  | .list items => do pure (.array (← values? items))
  | .table members => do pure (.object (← members? [] members))

def values? : List Node → Option (List Value)
  | [] => some []
  | n :: rest => do pure ((← value? n) :: (← values? rest))

/-- Members with others in front of them; of two with one key, the last stays. -/
def members? (front : Members) : List (Node × Node) → Option Members
  | [] => some front
  | (key, n) :: rest => do members? (front.insert (← keyText? key) (← value? n)) rest

end

end Node
end Reconciliation.Settings.Yaml
