import Reconciliation.Json.Embedded

/-!
# Decoding values into types

A decoder reads a value of some type straight from a text, or from a JSON value that was read before. The two
differ where a text has more to say: it may hold a key twice, and faults are met in the order of the text,
while the members of a value come in the order of their keys.

* `Decoder.string`, `Decoder.bool`, `Decoder.int`, `Decoder.choice` are for single values, `Decoder.optional` and
  `Decoder.list` for what is built of them.
* `Record` lists the fields of a structure; it is read from an object, or from an array in the order of the
  fields.
-/

namespace Reconciliation.Json

/-- Reads a value of type `α`, from a text with a number of levels left or from a value. -/
structure Decoder (α : Type) where
  ofText : (levels : Nat) → Reader α
  ofValue : Value → Except Cause α

namespace Reader

variable {α : Type}

/-- Refuses whatever comes next as not being what was expected; a scalar is read first, and its own faults come
first. -/
def mismatch (expected : String) : Reader α := do
  let v ← valueOf (fail (.wrongType "sequence" expected)) (fail (.wrongType "map" expected))
  fail (.wrongType v.kind expected)

/-- The result of a check of what was read last. -/
def ofExcept : Except Cause α → Reader α
  | .ok a => pure a
  | .error c => fail c

/-- A fault of an object that is met behind a key; its place is behind blanks and a brace that closes the object. -/
def failBehindKey (c : Cause) : Reader α := do
  if (← peekSolid) == some (ascii '\x7d') then eat
  fail c

end Reader

namespace Decoder

open Reader

variable {α β : Type}

/-- Decodes, then checks and converts. -/
def refine (d : Decoder α) (f : α → Except Cause β) : Decoder β where
  ofText levels := do ofExcept (f (← d.ofText levels))
  ofValue v := do f (← d.ofValue v)

/-- Decodes and converts. -/
def map (d : Decoder α) (f : α → β) : Decoder β where
  ofText levels := do pure (f (← d.ofText levels))
  ofValue v := do pure (f (← d.ofValue v))

/-- Any value, with the values of the texts within it. -/
def any : Decoder Value where
  ofText := value
  ofValue := Value.settled

/-- Any value as it stands. -/
def tree : Decoder Value where
  ofText := Reader.tree
  ofValue := .ok

/-- A string; `expected` names what it stands for. -/
def text (expected : String) : Decoder String where
  ofText _ := do if (← peekSolid) == some 34 then Reader.string else mismatch expected
  ofValue
    | .string s => .ok s
    | v => .error (.wrongType v.kind expected)

def string : Decoder String := text "a string"

def bool : Decoder Bool where
  ofText _ := do
    let next ← peekSolid
    if next == some (ascii 't') then do eat; word ['r', 'u', 'e']; pure true
    else if next == some (ascii 'f') then do eat; word ['a', 'l', 's', 'e']; pure false
    else mismatch "a boolean"
  ofValue
    | .bool b => .ok b
    | v => .error (.wrongType v.kind "a boolean")

/-- An integer of a range. -/
def checkInt (low high : Int) (expected : String) : Numeral → Except Cause Int
  | .integer i =>
    if low ≤ i && i ≤ high then .ok i else .error (.wrongValue (Numeral.integer i).kind expected)
  | .float x => .error (.wrongType (Numeral.float x).kind expected)

/-- An integer from `low` to `high`. -/
def int (low high : Int) (expected : String) : Decoder Int where
  ofText _ := do
    match ← peekSolid with
    | none => mismatch expected
    | some b =>
      if b == ascii '-' || (digitByte? b).isSome then do ofExcept (checkInt low high expected (← number))
      else mismatch expected
  ofValue
    | .number n => checkInt low high expected n
    | v => .error (.wrongType v.kind expected)

def int64 : Decoder Int := int Number.minInt64 Number.maxInt64 "i64"

/-- A value that may be `null`. -/
def optional (d : Decoder α) : Decoder (Option α) where
  ofText levels := do
    if (← peekSolid) == some (ascii 'n') then do eat; word ['u', 'l', 'l']; pure none
    else do pure (some (← d.ofText levels))
  ofValue
    | .null => .ok none
    | v => do pure (some (← d.ofValue v))

/-- A list of values. -/
def list (d : Decoder α) : Decoder (List α) where
  ofText levels := do
    if (← peekSolid) == some (ascii '[') then deeper levels fun n => listOf (d.ofText n)
    else mismatch "a sequence"
  ofValue
    | .array items => items.mapM d.ofValue
    | v => .error (.wrongType v.kind "a sequence")

/-- An object with any members. -/
def object : Decoder Members where
  ofText levels := do
    if (← peekSolid) == some (ascii '\x7b') then
      deeper levels fun n => objectOf (addMember (value n)) []
    else mismatch "a map"
  ofValue
    | .object members => settledMembers members
    | v => .error (.wrongType v.kind "a map")

/-! ### One of several names -/

/-- Looks a name up. -/
def variant (options : List (String × α)) (name : String) : Except Cause α :=
  match options.find? (·.1 == name) with
  | some o => .ok o.2
  | none => .error (.unknownVariant name (options.map (·.1)))

def expectedName : String := "variant identifier"

/-- One of several names: a string, or an object with the name as its only key and `null` as its value. -/
def choice (options : List (String × α)) : Decoder α where
  ofText levels := do
    match ← peekSolid with
    | none => failNext .endInValue
    | some b =>
      if b == 34 then do ofExcept (variant options (← Reader.string))
      else if b == ascii '\x7b' then do
        let a ← deeper levels fun n => do
          eat
          let a ← ofExcept (variant options (← (text expectedName).ofText n))
          colon
          match ← peekSolid with
          | none => failNext .endInValue
          | some b => if b == ascii 'n' then do eat; word ['u', 'l', 'l'] else mismatch "unit"
          pure a
        match ← peekSolid with
        | none => fail .endInObject
        | some b => if b == ascii '\x7d' then eat else fail .expectedValue
        pure a
      else failNext .expectedValue
  ofValue
    | .string s => variant options s
    | .object [(name, v)] => do
      let a ← variant options name
      if v = .null then pure a else .error (.wrongType v.kind "unit")
    | .object _ => .error (.wrongValue "map" "map with a single key")
    | v => .error (.wrongType v.kind "string or map")

end Decoder

/-! ### Structures -/

/-- A field: its key, how its value is read, and what stands for it where an object has no such key or an array
ends before it. -/
structure Field (α : Type) where
  name : String
  decoder : Decoder α
  absent : Option α
  trailing : Option α

namespace Field

variable {α : Type}

/-- A field that has to be there. -/
def required (name : String) (d : Decoder α) : Field α := ⟨name, d, none, none⟩

/-- A field that is `null` where an object leaves it out. -/
def optional (name : String) (d : Decoder α) : Field (Option α) := ⟨name, d.optional, some none, none⟩

/-- A field with a default. -/
def defaulted (name : String) (d : Decoder α) (default : α) : Field α := ⟨name, d, some default, some default⟩

end Field

/-- The fields of a structure. -/
inductive Record : List Type → Type 1 where
  | nil : Record []
  | cons {α : Type} {ts : List Type} (field : Field α) (rest : Record ts) : Record (α :: ts)

/-- One value for each field. -/
def Row : List Type → Type
  | [] => Unit
  | α :: ts => α × Row ts

/-- The values found so far. -/
def Slots : List Type → Type
  | [] => Unit
  | α :: ts => Option α × Slots ts

namespace Record

open Reader

variable {ts : List Type}

def size : {ts : List Type} → Record ts → Nat
  | _, .nil => 0
  | _, .cons _ rest => size rest + 1

/-- No value found yet. -/
def start : {ts : List Type} → Record ts → Slots ts
  | _, .nil => ()
  | _, .cons _ rest => (none, start rest)

/-- Takes the value behind a key out of a text; other keys are passed over. -/
def takeText (levels : Nat) (key : String) : {ts : List Type} → Record ts → Slots ts → Reader (Slots ts)
  | _, .nil, slots => do colon; skip; pure slots
  | _, .cons field rest, (slot, slots) =>
    if field.name = key then
      if slot.isSome then failBehindKey (.duplicateField key)
      else do colon; pure (some (← field.decoder.ofText levels), slots)
    else do pure (slot, ← takeText levels key rest slots)

/-- Takes a member of an object; members with other keys count for nothing. -/
def takeMember (key : String) (value : Value) :
    {ts : List Type} → Record ts → Slots ts → Except Cause (Slots ts)
  | _, .nil, slots => .ok slots
  | _, .cons field rest, (slot, slots) =>
    if field.name = key then do pure (some (← field.decoder.ofValue value), slots)
    else do pure (slot, ← takeMember key value rest slots)

/-- The row of the values found; fields without one take what stands for absence. -/
def close : {ts : List Type} → Record ts → Slots ts → Except Cause (Row ts)
  | _, .nil, _ => .ok ()
  | _, .cons field rest, (slot, slots) =>
    match slot.or field.absent with
    | none => .error (.missingField field.name)
    | some a => do pure (a, ← close rest slots)

/-- What an array that is too short should have been. -/
def expectedLength (name : String) (n : Nat) : String :=
  name ++ " with " ++ Number.digitsText n ++ (if n = 1 then " element" else " elements")

/-- The items of an array in a text, from field number `i` on. -/
def itemsText (levels : Nat) (expected : String) :
    {ts : List Type} → Record ts → (i : Nat) → Reader (Row ts)
  | _, .nil, _ => pure ()
  | _, .cons field rest, i => do
    let a ←
      if ← listGoesOn (i == 0) then field.decoder.ofText levels
      else
        match field.trailing with
        | some a => pure a
        | none => do
          eat
          fail (.wrongLength i expected)
    pure (a, ← itemsText levels expected rest (i + 1))

/-- The items of an array, from field number `i` on, and the items that are left over. -/
def itemsValue (expected : String) :
    {ts : List Type} → Record ts → (i : Nat) → List Value → Except Cause (Row ts × List Value)
  | _, .nil, _, items => .ok ((), items)
  | _, .cons field rest, i, items => do
    let (a, items) ←
      match items, field.trailing with
      | v :: items, _ => do pure (← field.decoder.ofValue v, items)
      | [], some a => pure (a, [])
      | [], none => .error (.wrongLength i expected)
    let (row, items) ← itemsValue expected rest (i + 1) items
    pure ((a, row), items)

/-- The row of an object. -/
def ofMembers (fields : Record ts) (members : Members) : Except Cause (Row ts) := do
  let slots ← members.foldlM (fun slots m => fields.takeMember m.1 m.2 slots) fields.start
  fields.close slots

/-- The row of an array. -/
def ofItems (name : String) (fields : Record ts) (items : List Value) : Except Cause (Row ts) := do
  let (row, left) ← fields.itemsValue (expectedLength name fields.size) 0 items
  if left.isEmpty then pure row else .error (.wrongLength items.length "fewer elements in array")

/-- A structure called `name` in error texts. -/
def decoder (name : String) (fields : Record ts) : Decoder (Row ts) where
  ofText levels := do
    match ← peekSolid with
    | none => mismatch name
    | some b =>
      if b == ascii '[' then
        deeper levels fun n => do
          eat
          let row ← fields.itemsText n (expectedLength name fields.size) 0
          endList
          pure row
      else if b == ascii '\x7b' then
        deeper levels fun n => do
          let slots ← objectOf (fun key slots => fields.takeText n key slots) fields.start
          ofExcept (fields.close slots)
      else mismatch name
  ofValue
    | .array items => fields.ofItems name items
    | .object members => fields.ofMembers members
    | v => .error (.wrongType v.kind name)

end Record

/-! ### Whole texts -/

/-- Decodes a text that holds one value. -/
def Decoder.parse {α : Type} (d : Decoder α) (text : Text.Utf8.Bytes) : Except Fault α :=
  (d.ofText maxLevels).run text

end Reconciliation.Json
