import Reconciliation.Json.Fault
import Reconciliation.Json.Value
import Reconciliation.Text.Utf8

/-!
# Reading JSON texts

A reader takes bytes off the front of a text and says what it read, or which fault it met first.

* `Reader.tree` reads any value as it stands; lists and objects may lie within each other up to a number of levels.
* `Reader.skip` passes over a value without looking into its strings and numbers, to any depth.
* `Reader.run` reads a text that holds nothing else but blanks.
-/

namespace Reconciliation.Json

open Number Text
open Text.Utf8 (Bytes)

abbrev Reader := StateT Bytes (Except Fault)

/-- The number of lists and objects that may lie within each other. -/
def maxLevels : Nat := 127

/-- The byte of an ASCII character. -/
def ascii (c : Char) : UInt8 := c.toNat.toUInt8

/-- The value of a byte that is a decimal digit. -/
def digitByte? (b : UInt8) : Option Nat := if 48 ≤ b && b ≤ 57 then some (b.toNat - 48) else none

/-- The value of a byte that is a hexadecimal digit. -/
def hexByte? (b : UInt8) : Option Nat :=
  if 48 ≤ b && b ≤ 57 then some (b.toNat - 48)
  else if 97 ≤ b && b ≤ 102 then some (b.toNat - 87)
  else if 65 ≤ b && b ≤ 70 then some (b.toNat - 55)
  else none

namespace Reader

variable {α : Type}

/-- A fault placed behind the last byte that was read. -/
def fail (c : Cause) : Reader α := fun s => .error ⟨c, some s.length⟩

/-- A fault placed behind the byte that comes next. -/
def failNext (c : Cause) : Reader α := fun s => .error ⟨c, some (s.length - 1)⟩

/-- A fault of a text within the value that was read, which tells its place itself. -/
def refuse (c : Cause) : Reader α := fun _ => .error (Fault.ofCause c)

/-- The byte that comes next. -/
def peek : Reader (Option UInt8) := fun s => .ok (s.head?, s)

/-- Passes over one byte. -/
def eat : Reader Unit := fun s => .ok ((), s.tail)

def isBlankByte (b : UInt8) : Bool := b == 32 || b == 10 || b == 9 || b == 13

def skipBlanks : Reader Unit := fun s => .ok ((), s.dropWhile isBlankByte)

/-- The byte that comes next after blanks. -/
def peekSolid : Reader (Option UInt8) := do skipBlanks; peek

/-- The number of steps that suffices for any loop that takes a byte at each step. -/
def steps : Reader Nat := fun s => .ok (s.length + 1, s)

/-- The rest of a word whose first letter told it from others. -/
def word : List Char → Reader Unit
  | [] => pure ()
  | c :: rest => fun s =>
    match s with
    | [] => fail .endInValue s
    | b :: s => if b == ascii c then word rest s else fail .expectedWord s

/-! ### Strings -/

/-- Four hexadecimal digits. -/
def hex4 : Reader Nat := fun s =>
  match s with
  | a :: b :: c :: d :: rest =>
    match hexByte? a, hexByte? b, hexByte? c, hexByte? d with
    | some a, some b, some c, some d => .ok (((a * 16 + b) * 16 + c) * 16 + d, rest)
    | _, _, _, _ => fail .invalidEscape rest
  | _ => fail .endInString []

def isHighSurrogate (n : Nat) : Bool := 0xD800 ≤ n && n ≤ 0xDBFF

def isLowSurrogate (n : Nat) : Bool := 0xDC00 ≤ n && n ≤ 0xDFFF

/-- The byte that must follow the first half of a surrogate pair. -/
def pairByte (c : Char) : Reader Unit := fun s =>
  match s with
  | [] => fail .endInString s
  | b :: rest => if b == ascii c then .ok ((), rest) else fail .unfinishedEscape rest

/-- The character of an escape by number; one beyond the basic plane takes a pair of numbers. -/
def unicodeEscape : Reader Bytes := do
  let n ← hex4
  if isLowSurrogate n then fail .loneSurrogate
  else if isHighSurrogate n then do
    pairByte '\\'
    pairByte 'u'
    let m ← hex4
    if isLowSurrogate m then
      pure (String.utf8EncodeChar (Char.ofNat ((n - 0xD800) * 0x400 + (m - 0xDC00) + 0x10000)))
    else fail .loneSurrogate
  else pure (String.utf8EncodeChar (Char.ofNat n))

/-- The letter of a short escape and the byte it stands for. -/
def shortEscapes : List (Char × UInt8) :=
  [('"', 34), ('\\', 92), ('/', 47), ('b', 8), ('f', 12), ('n', 10), ('r', 13), ('t', 9)]

/-- What follows a backslash. -/
def escape : Reader Bytes := fun s =>
  match s with
  | [] => fail .endInString s
  | b :: rest =>
    if b == ascii 'u' then unicodeEscape rest
    else
      match shortEscapes.find? (ascii ·.1 == b) with
      | some e => .ok ([e.2], rest)
      | none => fail .invalidEscape rest

/-- The bytes of a string up to its closing quote, behind those in `acc`, which is reversed. -/
def stringBytes : (fuel : Nat) → (acc : Bytes) → Reader Bytes
  | 0, _ => fail .endInString
  | fuel + 1, acc => fun s =>
    match s with
    | [] => fail .endInString s
    | b :: rest =>
      if b == 34 then .ok (acc.reverse, rest)
      else if b == 92 then
        match escape rest with
        | .ok (bytes, rest) => stringBytes fuel (bytes.reverse ++ acc) rest
        | .error f => .error f
      else if b < 32 then fail .controlCharacter rest
      else stringBytes fuel (b :: acc) rest

/-- A string, from its opening quote on. -/
def string : Reader String := do
  eat
  let bytes ← stringBytes (← steps) []
  match Utf8.decode? bytes with
  | some s => pure s
  | none => fail .invalidCharacter

/-! ### Numbers -/

/-- Appends digits to a number as long as it fits 64 bits; the number, the count of digits and the rest. -/
def takeDigits : (number count : Nat) → Bytes → Nat × Nat × Bytes
  | n, count, [] => (n, count, [])
  | n, count, b :: rest =>
    match digitByte? b with
    | some d => if n * 10 + d ≤ maxUInt64 then takeDigits (n * 10 + d) (count + 1) rest else (n, count, b :: rest)
    | none => (n, count, b :: rest)

def digitNext (s : Bytes) : Bool := (s.head?.bind digitByte?).isSome

def dropDigits (s : Bytes) : Bytes := s.dropWhile fun b => (digitByte? b).isSome

def exponentNext (s : Bytes) : Bool := s.head? == some (ascii 'e') || s.head? == some (ascii 'E')

/-- A floating point number, if it is not too large. -/
def float (negative : Bool) (significand : Nat) (exponent : Int) : Reader Numeral :=
  match Binary64.scaled significand exponent with
  | some x => pure (.float (Binary64.ofMagnitude negative x))
  | none => fail .numberOutOfRange

/-- The largest exponent that is counted exactly. -/
def maxExponent : Nat := maxInt32.toNat

/-- The digits of an exponent; nothing where it is beyond `maxExponent`. -/
def exponentDigits : (n : Nat) → Bytes → Option Nat × Bytes
  | n, [] => (some n, [])
  | n, b :: rest =>
    match digitByte? b with
    | some d => if n * 10 + d ≤ maxExponent then exponentDigits (n * 10 + d) rest else (none, rest)
    | none => (some n, b :: rest)

/-- A number from its `e` on; `exponent` belongs to the digits before. -/
def exponentPart (negative : Bool) (significand : Nat) (exponent : Int) : Reader Numeral := do
  eat
  let down := (← peek) == some (ascii '-')
  if down || (← peek) == some (ascii '+') then eat
  match ← peek with
  | none => fail .endInValue
  | some b =>
    eat
    match digitByte? b with
    | none => fail .invalidNumber
    | some d => fun s =>
      match exponentDigits d s with
      | (some e, s) => float negative significand (if down then exponent - e else exponent + e) s
      | (none, s) =>
        if significand != 0 && !down then fail .numberOutOfRange s
        else .ok (.float (Binary64.ofMagnitude negative Binary64.Magnitude.zero), dropDigits s)

/-- The end of a number with a fraction or a long one. -/
def floatEnd (negative : Bool) (significand : Nat) (exponent : Int) : Reader Numeral := fun s =>
  if exponentNext s then exponentPart negative significand exponent s else float negative significand exponent s

/-- A number from its point on; digits beyond 64 bits are dropped. -/
def fractionPart (negative : Bool) (significand : Nat) (exponent : Int) : Reader Numeral := do
  eat
  fun s =>
    let (n, count, s) := takeDigits significand 0 s
    if digitNext s then floatEnd negative n (exponent - count) (dropDigits s)
    else if count == 0 then failNext (if s.isEmpty then .endInValue else .invalidNumber) s
    else floatEnd negative n (exponent - count) s

/-- What follows the digits before the point. -/
def integerEnd (negative : Bool) (n : Nat) : Reader Numeral := fun s =>
  if s.head? == some (ascii '.') then fractionPart negative n 0 s
  else if exponentNext s then exponentPart negative n 0 s
  else if !negative then .ok (.integer n, s)
  else if n == 0 || n > minInt64.natAbs then float true n 0 s
  else .ok (.integer (-(n : Int)), s)

/-- A number behind its sign. -/
def unsigned (negative : Bool) : Reader Numeral := fun s =>
  match s with
  | [] => fail .endInValue s
  | b :: rest =>
    match digitByte? b with
    | none => fail .invalidNumber rest
    | some 0 => if digitNext rest then failNext .invalidNumber rest else integerEnd negative 0 rest
    | some d =>
      let (n, _, s) := takeDigits d 1 rest
      if digitNext s then
        let rest := dropDigits s
        let dropped : Int := s.length - rest.length
        if rest.head? == some (ascii '.') then fractionPart negative n dropped rest
        else floatEnd negative n dropped rest
      else integerEnd negative n s

/-- A number from its sign or first digit on. -/
def number : Reader Numeral := do
  if (← peek) == some (ascii '-') then eat; unsigned true else unsigned false

/-! ### Lists and objects -/

/-- Whether a list goes on; the comma between items is passed over. -/
def listGoesOn (first : Bool) : Reader Bool := do
  match ← peekSolid with
  | none => failNext .endInList
  | some b =>
    if b == ascii ']' then pure false
    else if first then pure true
    else if b == ascii ',' then do
      eat
      match ← peekSolid with
      | none => failNext .endInValue
      | some b => if b == ascii ']' then failNext .trailingComma else pure true
    else failNext .expectedListEnd

/-- The closing bracket of a list, where no further item is wanted. -/
def endList : Reader Unit := do
  match ← peekSolid with
  | none => failNext .endInList
  | some b =>
    if b == ascii ']' then eat
    else if b == ascii ',' then do
      eat
      if (← peekSolid) == some (ascii ']') then failNext .trailingComma else failNext .trailingCharacters
    else failNext .trailingCharacters

/-- Whether an object goes on; its next byte is then the quote of a key. -/
def objectGoesOn (first : Bool) : Reader Bool := do
  match ← peekSolid with
  | none => failNext .endInObject
  | some b =>
    if b == ascii '\x7d' then pure false
    else if first then if b == 34 then pure true else failNext .keyNotString
    else if b == ascii ',' then do
      eat
      match ← peekSolid with
      | none => failNext .endInValue
      | some b =>
        if b == 34 then pure true
        else if b == ascii '\x7d' then failNext .trailingComma
        else failNext .keyNotString
    else failNext .expectedObjectEnd

/-- The colon between a key and its value. -/
def colon : Reader Unit := do
  match ← peekSolid with
  | none => failNext .endInObject
  | some b => if b == ascii ':' then eat else failNext .expectedColon

/-- The closing brace of an object. -/
def endObject : Reader Unit := do
  match ← peekSolid with
  | none => failNext .endInObject
  | some b =>
    if b == ascii '\x7d' then eat
    else if b == ascii ',' then failNext .trailingComma
    else failNext .trailingCharacters

/-- The items of a list, behind those in `acc`, which is reversed. -/
def items (item : Reader α) : (fuel : Nat) → (first : Bool) → (acc : List α) → Reader (List α)
  | 0, _, acc => pure acc.reverse
  | fuel + 1, first, acc => fun s =>
    match listGoesOn first s with
    | .error f => .error f
    | .ok (false, s) => .ok (acc.reverse, s)
    | .ok (true, s) =>
      match item s with
      | .error f => .error f
      | .ok (a, s) => items item fuel false (a :: acc) s

/-- A list, from its opening bracket on. -/
def listOf (item : Reader α) : Reader (List α) := do
  eat
  let as ← items item (← steps) true []
  endList
  pure as

/-- Takes the members of an object one by one into a state; the reader of a member starts at its colon. -/
def members (member : String → α → Reader α) : (fuel : Nat) → (first : Bool) → (state : α) → Reader α
  | 0, _, state => pure state
  | fuel + 1, first, state => fun s =>
    match objectGoesOn first s with
    | .error f => .error f
    | .ok (false, s) => .ok (state, s)
    | .ok (true, s) =>
      match (do let key ← string; member key state) s with
      | .error f => .error f
      | .ok (state, s) => members member fuel false state s

/-- An object, from its opening brace on. -/
def objectOf (member : String → α → Reader α) (start : α) : Reader α := do
  eat
  let state ← members member (← steps) true start
  endObject
  pure state

/-! ### Values -/

/-- A value, given readers of lists and objects. -/
def valueOf (list : Reader (List Value)) (object : Reader Value) : Reader Value := do
  match ← peekSolid with
  | none => failNext .endInValue
  | some b =>
    if b == ascii 'n' then do eat; word ['u', 'l', 'l']; pure .null
    else if b == ascii 't' then do eat; word ['r', 'u', 'e']; pure (.bool true)
    else if b == ascii 'f' then do eat; word ['a', 'l', 's', 'e']; pure (.bool false)
    else if b == ascii '-' || (digitByte? b).isSome then do pure (.number (← number))
    else if b == 34 then do pure (.string (← string))
    else if b == ascii '[' then do pure (.array (← list))
    else if b == ascii '\x7b' then object
    else failNext .expectedValue

/-- One level down, or a fault where none is left. -/
def deeper (levels : Nat) (reader : Nat → Reader α) : Reader α :=
  match levels with
  | 0 => failNext .tooDeep
  | n + 1 => reader n

/-- A value with at most `levels` lists and objects within each other; `object` makes a reader of objects of one of
their values. -/
def valueWith (object : Reader Value → Reader Value) : (levels : Nat) → Reader Value
  | 0 => valueOf (failNext .tooDeep) (failNext .tooDeep)
  | n + 1 => valueOf (listOf (valueWith object n)) (object (valueWith object n))

/-- Adds a member to others; its value is read from the colon on. -/
def addMember (item : Reader Value) (key : String) (members : Members) : Reader Members := do
  colon
  pure (members.insert key (← item))

/-- A value as it stands. -/
def tree : (levels : Nat) → Reader Value :=
  valueWith fun item => do pure (.object (← objectOf (addMember item) []))

/-- Nothing but blanks up to the end of the text. -/
def finish : Reader Unit := do
  if (← peekSolid).isSome then failNext .trailingCharacters

/-! ### Values that are not needed -/

/-- An open list or object. -/
inductive Bracket where
  | list
  | object
  deriving Repr, DecidableEq

def Bracket.closer : Bracket → UInt8
  | .list => ascii ']'
  | .object => ascii '\x7d'

/-- Passes over a string behind its opening quote. -/
def skipString : (fuel : Nat) → Reader Unit
  | 0 => fail .endInString
  | fuel + 1 => fun s =>
    match s with
    | [] => fail .endInString s
    | b :: rest =>
      if b == 34 then .ok ((), rest)
      else if b == 92 then
        match rest with
        | [] => fail .endInString rest
        | e :: rest =>
          if e == ascii 'u' then
            match hex4 rest with
            | .ok (_, rest) => skipString fuel rest
            | .error f => .error f
          else if shortEscapes.any (ascii ·.1 == e) then skipString fuel rest
          else fail .invalidEscape rest
      else if b < 32 then fail .controlCharacter (b :: rest)
      else skipString fuel rest

/-- Passes over the exponent of a number. -/
def skipExponent : Reader Unit := do
  eat
  let sign ← peek
  if sign == some (ascii '-') || sign == some (ascii '+') then eat
  fun s => if digitNext s then .ok ((), dropDigits s) else fail .invalidNumber s.tail

/-- Passes over a number behind its sign. -/
def skipNumber : Reader Unit := fun s =>
  if !digitNext s then fail .invalidNumber s.tail
  else
    let rest := if s.head? == some (ascii '0') then s.tail else dropDigits s
    if digitNext rest then failNext .invalidNumber rest
    else if rest.head? == some (ascii '.') then
      let fraction := rest.tail
      if !digitNext fraction then failNext .invalidNumber fraction
      else
        let rest := dropDigits fraction
        if exponentNext rest then skipExponent rest else .ok ((), rest)
    else if exponentNext rest then skipExponent rest
    else .ok ((), rest)

/-- Passes over a value without parts, or over the opening of one with parts. -/
def skipItem : Reader (Option Bracket) := do
  match ← peekSolid with
  | none => failNext .endInValue
  | some b =>
    if b == ascii 'n' then do eat; word ['u', 'l', 'l']; pure none
    else if b == ascii 't' then do eat; word ['r', 'u', 'e']; pure none
    else if b == ascii 'f' then do eat; word ['a', 'l', 's', 'e']; pure none
    else if b == ascii '-' then do eat; skipNumber; pure none
    else if (digitByte? b).isSome then do skipNumber; pure none
    else if b == 34 then do eat; skipString (← steps); pure none
    else if b == ascii '[' then do eat; pure (some .list)
    else if b == ascii '\x7b' then do eat; pure (some .object)
    else failNext .expectedValue

/-- Closes the brackets that end here, innermost first, and passes over the comma behind an item; what stays
open is returned. -/
def skipClosers : (afterItem : Bool) → List Bracket → Reader (List Bracket)
  | _, [] => pure []
  | afterItem, b :: outer => do
    match ← peekSolid with
    | none => failNext (match b with | .list => .endInList | .object => .endInObject)
    | some c =>
      if c == ascii ',' && afterItem then do eat; pure (b :: outer)
      else if c == b.closer then do eat; skipClosers true outer
      else if afterItem then failNext (match b with | .list => .expectedListEnd | .object => .expectedObjectEnd)
      else pure (b :: outer)

/-- Passes over a key and its colon. -/
def skipKey : Reader Unit := do
  match ← peekSolid with
  | none => failNext .endInObject
  | some b => if b == 34 then eat else failNext .keyNotString
  skipString (← steps)
  colon

/-- Passes over the items that the open brackets wait for. -/
def skipOpen : (fuel : Nat) → List Bracket → Reader Unit
  | 0, _ => pure ()
  | fuel + 1, outer => fun s =>
    match (do
      let opened ← skipItem
      let outer ← match opened with
        | some b => skipClosers false (b :: outer)
        | none => skipClosers true outer
      if outer.head? == some .object then skipKey
      pure outer : Reader (List Bracket)) s with
    | .error f => .error f
    | .ok ([], s) => .ok ((), s)
    | .ok (b :: outer, s) => skipOpen fuel (b :: outer) s

/-- Passes over one value. -/
def skip : Reader Unit := do skipOpen (← steps) []

/-- Applies a reader to a whole text. -/
def run (reader : Reader α) (text : Bytes) : Except Fault α :=
  match (do let a ← reader; finish; pure a) text with
  | .ok (a, _) => .ok a
  | .error f => .error f

end Reader

end Reconciliation.Json
