import Reconciliation.Json.Embedded
import Reconciliation.Settings.Environment
import Reconciliation.Settings.Ini
import Reconciliation.Settings.Json5
import Reconciliation.Settings.Path
import Reconciliation.Settings.Ron
import Reconciliation.Settings.Toml.Document
import Reconciliation.Settings.Yaml.Document
import Reconciliation.Text.Blank

/-!
# Sources of settings

* `Format.read` reads a text in a format, and `Format.ofFile?` knows the formats of files.
* `overridden` puts in the place of settings what environment variables say instead.
-/

namespace Reconciliation.Settings

open Json Text

/-- How settings are written. -/
inductive Format where
  | toml
  | json
  | yaml
  | ini
  | ron
  | json5
  deriving Repr, DecidableEq

namespace Format

/-- The format that the extension of a file names: what is behind the last dot of its name. -/
def ofFile? (name : String) : Option Format :=
  match String.ofList (name.toList.reverse.takeWhile (· ≠ '.')).reverse with
  | "toml" => some .toml
  | "json" => some .json
  | "yaml" | "yml" => some .yaml
  | "ini" => some .ini
  | "ron" => some .ron
  | "json5" => some .json5
  | _ => none

/-- The value that a text stands for. -/
def value? (f : Format) (text : String) : Option Value :=
  match f with
  | .toml => Toml.parse text
  | .json => (Json.parse (Utf8.encode text)).toOption
  | .yaml => Yaml.parse text
  | .ini => Ini.parse text
  | .ron => Ron.parse text
  | .json5 => Json5.parse text

/-- Settings in a format: a table, whose keys name places. -/
def read (f : Format) (text : String) : Option Value := do
  match ← f.value? text with
  | .object members => pure (members.foldl (fun root m => put root m.1 m.2) (.object []))
  | _ => none

/-- Settings in a file, which may start with a byte order mark. -/
def readFile (f : Format) (content : String) : Option Value :=
  f.read (String.ofList (withoutMark content.toList))

end Format

/-- What the names of variables with settings start with. -/
def variablePrefix : String := "bridge__"

/-- Dots for dividers. -/
def dotted : List Char → List Char
  | '_' :: '_' :: rest => '.' :: dotted rest
  | c :: rest => c :: dotted rest
  | [] => []

/-- A letter in lower case, for what can stand in a key: the Kelvin sign is a capital k. -/
def lowerCase (c : Char) : Char := if c.toNat = 0x212A then 'k' else c.toLower

/-- The key of the settings that a variable is about. -/
def keyOf? (name : String) : Option String :=
  let name := name.toList.map lowerCase
  let start := variablePrefix.toList
  if start.isPrefixOf name then some (String.ofList (dotted (name.drop start.length))) else none

/-- Settings with what variables say instead. -/
def overridden (root : Value) (env : Environment) : Value :=
  env.bindings.foldl (fun root v =>
    match keyOf? v.1 with
    | some key => put root key (.string v.2)
    | none => root) root

end Reconciliation.Settings
