import Reconciliation.Json.Reader

/-!
# Texts within values

A value may hold a text of JSON instead of a part of itself: an object whose first key is `embeddedKey` stands for the
value of the text behind that key.

* `Reader.value` reads a value and the texts within it, `parse` one that is a whole text.
* `Value.settled` puts values in the place of the texts within a value that was read before.
-/

namespace Reconciliation.Json

open Text

/-- The key of a text that is part of a value. -/
def embeddedKey : String := "$serde_json::private::RawValue"

/-- What belongs behind that key. -/
def embeddedText : String := "raw value"

namespace Reader

/-- The text behind its key, from the colon on. -/
def embedded : Reader String := do
  colon
  if (← peekSolid) == some 34 then string
  else
    let v ← valueOf (fail (.wrongType "sequence" embeddedText)) (fail (.wrongType "map" embeddedText))
    fail (.wrongType v.kind embeddedText)

/-- An object, from its opening brace on, or what it stands for; `resolve` reads a text within. -/
def openObject (resolve : String → Except Cause Value) (item : Reader Value) : Reader Value := do
  eat
  if ← objectGoesOn true then
    let key ← string
    let v ←
      if key = embeddedKey then
        match resolve (← embedded) with
        | .ok v => pure v
        | .error c => refuse c
      else do
        let first ← addMember item key []
        pure (.object (← members (addMember item) (← steps) false first))
    endObject
    pure v
  else
    endObject
    pure (.object [])

end Reader

/-- The value of a text with at most `fuel` texts within each other. A fault is named with its place in the text that it
was found in. -/
def resolveUpTo : (fuel : Nat) → String → Except Cause Value
  | 0, _ => .error .tooDeep
  | fuel + 1, s =>
    let bytes := Utf8.encode s
    match (Reader.valueWith (Reader.openObject (resolveUpTo fuel)) maxLevels).run bytes with
    | .ok v => .ok v
    | .error f => .error (.other (f.located bytes))

/-- The value of a text within a value; each text within it is shorter than the one around it. -/
def resolve (s : String) : Except Cause Value := resolveUpTo (s.utf8ByteSize + 1) s

/-- A value with at most `levels` lists and objects within each other. -/
def Reader.value (levels : Nat) : Reader Value := Reader.valueWith (Reader.openObject resolve) levels

/-- The value a text holds. -/
def parse (text : Utf8.Bytes) : Except Fault Value := (Reader.value maxLevels).run text

/-! ### Values that were read before -/

mutual

/-- A value with the values of the texts within it. -/
def Value.settled : Value → Except Cause Value
  | .array items => do pure (.array (← settledItems items))
  | .object members =>
    match members with
    | (key, .string s) :: rest => do
      if key = embeddedKey then
        let v ← resolve s
        if rest.isEmpty then pure v
        else .error (.wrongLength members.length "fewer elements in map")
      else pure (.object (← settledMembers members))
    | (key, v) :: _ => do
      if key = embeddedKey then .error (.wrongType v.kind embeddedText)
      else pure (.object (← settledMembers members))
    | [] => .ok (.object [])
  | v => .ok v

def settledItems : List Value → Except Cause (List Value)
  | [] => .ok []
  | v :: rest => do
    let v ← v.settled
    pure (v :: (← settledItems rest))

/-- Members with their values settled. -/
def settledMembers : List (String × Value) → Except Cause Members
  | [] => .ok []
  | (key, v) :: rest => do
    let v ← v.settled
    pure ((key, v) :: (← settledMembers rest))

end

end Reconciliation.Json
