import Reconciliation.Ident
import Reconciliation.Settings.Yaml.Cursor

/-!
# What stands in front of nodes and documents

A tag says what kind of node follows. It is written with a handle, which a directive in front of the document may give a
meaning, and what stands behind the handle.

* `Tag.read` reads a tag, `Tag.name` the name of an anchor.
* `Directive.read` reads a directive.
* `Tag.resolve?` is a tag with the meaning of its handle.
-/

namespace Reconciliation.Settings.Yaml

structure Tag where
  handle : String
  suffix : String
  deriving Repr, DecidableEq

/-- What is said in front of a document. -/
inductive Directive where
  | version
  /-- What a handle stands for. -/
  | handle (name meaning : String)
  deriving Repr, DecidableEq

namespace Tag

open Reader

/-! ### Characters -/

def isNameChar (c : Char) : Bool := c.isAlphanum || c = '_' || c = '-'

/-- Punctuation that may stand in an address. -/
def marks : List Char := "#;/?:@&=+$,_.!~*'()[]%-".toList

def isUriChar (c : Char) : Bool := c.isAlphanum || marks.contains c

/-- Characters of a tag behind its handle. -/
def isTagChar (c : Char) : Bool := isUriChar c && !isDivider c && c ≠ '!'

/-- Two hexadecimal digits behind a percent sign. -/
def byte : Reader Nat := do
  let cs := (← rest).take 3
  pass cs.length
  match cs with
  | ['%', a, b] =>
    match Ident.ofHexDigits? [a, b] with
    | some n => pure n
    | none => failure
  | _ => failure

/-- A character whose number is written in one byte or in two, of which the second is in the upper half. -/
def escapedChar : Reader Char := do
  let n ← byte
  if n < 0x80 then pure (Char.ofNat n)
  else if 0xC0 ≤ n && n < 0xE0 then do
    let low ← byte
    let code := n * 0x100 + low
    if 0x80 ≤ low && low < 0xC0 && code.isValidChar then pure (Char.ofNat code) else failure
  else failure

/-- Characters with a property; a percent sign stands in front of numbers. -/
def uri (p : Char → Bool) : (fuel : Nat) → Reader (List Char)
  | 0 => failure
  | fuel + 1 => do
    match ← peek with
    | none => pure []
    | some c =>
      if !p c then pure []
      else
        let c ← if c = '%' then escapedChar else any
        pure (c :: (← uri p fuel))

/-! ### Tags -/

/-- A handle: an exclamation mark, or a name between two of them. In a tag, the second one may be missing. -/
def readHandle (closed : Bool) : Reader (List Char) := do
  if (← any) ≠ '!' then failure
  let name ← take isNameChar
  if (← peek) = some '!' then do
    eat
    pure ('!' :: name ++ ['!'])
  else if closed && !name.isEmpty then failure
  else pure ('!' :: name)

/-- A tag that has no handle: an address between angle brackets. -/
def verbatim : Reader Tag := do
  pass 2
  let cs ← uri isUriChar (← steps)
  if (← any) ≠ '>' then failure
  pure ⟨"", String.ofList cs⟩

/-- A tag with a handle. An exclamation mark alone is a tag without handle. -/
def shorthand : Reader Tag := do
  let handle ← readHandle false
  let suffix ← uri isTagChar (← steps)
  if handle.length ≥ 2 && handle.getLast? = some '!' then
    if suffix.isEmpty then failure else pure ⟨String.ofList handle, String.ofList suffix⟩
  else
    let suffix := handle.tail ++ suffix
    pure (if suffix.isEmpty then ⟨"", "!"⟩ else ⟨"!", String.ofList suffix⟩)

/-- A tag; a word ends behind it. -/
def read (inFlow : Bool) : Reader Tag := do
  let tag ← if ['!', '<'].isPrefixOf (← rest) then verbatim else shorthand
  if endsFlowWord inFlow (← rest) then pure tag else failure

/-- The name of an anchor, behind its sign. -/
def name : Reader String := do
  eat
  let cs ← take fun c => !(isSpace c || c = '\n' || isDivider c || c.toNat = 0xFEFF)
  if cs.isEmpty then failure else pure (String.ofList cs)

/-- What an unknown handle of two exclamation marks stands for. -/
def standard : String := "tag:yaml.org,2002:"

/-- A tag with the meaning of its handle, given what handles stand for. A handle with a name has to be known. -/
def resolve? (handles : List (String × String)) (t : Tag) : Option Tag :=
  match handles.find? (·.1 == t.handle) with
  | some (_, meaning) => some ⟨meaning, t.suffix⟩
  | none =>
    if t.handle = "!!" then some ⟨standard, t.suffix⟩
    else if t.handle.length ≥ 2 then none
    else some t

end Tag

/-! ### Directives -/

namespace Directive

open Reader Tag

/-- A number with nine digits at most. -/
def number : Reader Unit := do
  let digits ← take Char.isDigit
  if digits.isEmpty || digits.length > 9 then failure

/-- A version, any one. -/
def readVersion : Reader Directive := do
  let _ ← take isSpace
  number
  if (← any) ≠ '.' then failure
  number
  pure .version

/-- A handle and what it stands for: an address, or the start of one. -/
def readMeaning : Reader Directive := do
  let _ ← take isSpace
  let handle ← readHandle true
  let _ ← take isSpace
  let first ← rest
  if !first.head?.any (fun c => c = '!' || isTagChar c) then failure
  let meaning ← uri isUriChar (← steps)
  pure (.handle (String.ofList handle) (String.ofList meaning))

/-- A directive up to the end of its line, from its percent sign on. An unknown one says nothing about any handle. -/
def read : Reader Directive := do
  eat
  let name ← take isNameChar
  if name.isEmpty || !endsWord (← rest) then failure
  let d ←
    match String.ofList name with
    | "YAML" => readVersion
    | "TAG" => readMeaning
    | _ => do
      line
      pure (.handle "" "")
  let _ ← lineTail
  if endsLine (← rest) then do
    eat
    pure d
  else failure

end Directive
end Reconciliation.Settings.Yaml
