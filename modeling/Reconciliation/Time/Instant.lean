import Reconciliation.Number.Whole
import Reconciliation.Text.Blank

/-!
# Instants

An instant is a number of seconds since the start of 1970, in universal time without leap seconds, and a number of
nanoseconds. In a leap second the nanoseconds run on beyond one second.

* `Instant.ofText?` reads a calendar date, a time of day and an offset; `Instant.text` writes them in universal
  time.
* `Moment` adds the times at which things happen while the program runs, which lie behind all instants.
-/

namespace Reconciliation.Time

open Number Text

structure Instant where
  seconds : Int
  nanos : Nat
  deriving Repr, DecidableEq, Inhabited

/-! ### The calendar -/

/-- Days from the start of 1970 to a date of the proleptic Gregorian calendar. Years are counted from March, in
eras of 400. -/
def daysOfDate (year : Int) (month day : Nat) : Int :=
  let y := if month ≤ 2 then year - 1 else year
  let era := y.fdiv 400
  let yearOfEra := y - era * 400
  let monthFromMarch : Int := if month > 2 then month - 3 else month + 9
  let dayOfYear := (153 * monthFromMarch + 2).fdiv 5 + day - 1
  let dayOfEra := yearOfEra * 365 + yearOfEra.fdiv 4 - yearOfEra.fdiv 100 + dayOfYear
  era * 146097 + dayOfEra - 719468

/-- The date of a number of days from the start of 1970. -/
def dateOfDays (days : Int) : Int × Nat × Nat :=
  let z := days + 719468
  let era := z.fdiv 146097
  let dayOfEra := z - era * 146097
  let yearOfEra :=
    (dayOfEra - dayOfEra.fdiv 1460 + dayOfEra.fdiv 36524 - dayOfEra.fdiv 146096).fdiv 365
  let dayOfYear := dayOfEra - (365 * yearOfEra + yearOfEra.fdiv 4 - yearOfEra.fdiv 100)
  let monthFromMarch := (5 * dayOfYear + 2).fdiv 153
  let day := dayOfYear - (153 * monthFromMarch + 2).fdiv 5 + 1
  let month := if monthFromMarch < 10 then monthFromMarch + 3 else monthFromMarch - 9
  let year := yearOfEra + era * 400
  (if month ≤ 2 then year + 1 else year, month.toNat, day.toNat)

def isLeapYear (year : Int) : Bool := year.fmod 4 == 0 && (year.fmod 100 != 0 || year.fmod 400 == 0)

def daysInMonth (year : Int) (month : Nat) : Nat :=
  if month = 2 then (if isLeapYear year then 29 else 28)
  else if month = 4 || month = 6 || month = 9 || month = 11 then 30
  else 31

/-- The first and the last year that can be told. -/
def firstYear : Int := -262143

def lastYear : Int := 262142

def secondsPerDay : Int := 86400

/-- The first and the last second that can be told. -/
def firstSecond : Int := daysOfDate firstYear 1 1 * secondsPerDay

def lastSecond : Int := (daysOfDate lastYear 12 31 + 1) * secondsPerDay - 1

namespace Instant

/-! ### Writing -/

/-- A year: four digits, or a sign and at least four digits beyond these. -/
def yearText (year : Int) : String :=
  if 0 ≤ year && year ≤ 9999 then padded 4 year.toNat
  else (if year < 0 then "-" else "+") ++ padded 4 year.natAbs

/-- A point and three, six or nine digits of a second, as many as are needed; nothing for a full second. -/
def fractionText (nanos : Nat) : String :=
  if nanos = 0 then ""
  else if nanos % 1000000 = 0 then "." ++ padded 3 (nanos / 1000000)
  else if nanos % 1000 = 0 then "." ++ padded 6 (nanos / 1000)
  else "." ++ padded 9 nanos

/-- Date and time of day in universal time; a leap second is second 60. -/
def text (t : Instant) : String :=
  let days := t.seconds.fdiv secondsPerDay
  let second := (t.seconds - days * secondsPerDay).toNat
  let (year, month, day) := dateOfDays days
  let leap := t.nanos ≥ 1000000000
  yearText year ++ "-" ++ padded 2 month ++ "-" ++ padded 2 day ++ "T" ++
    padded 2 (second / 3600) ++ ":" ++ padded 2 (second / 60 % 60) ++ ":" ++
    padded 2 (second % 60 + if leap then 1 else 0) ++
    fractionText (if leap then t.nanos - 1000000000 else t.nanos) ++ "Z"

/-! ### Reading -/

/-- Why a text is no instant. -/
inductive Flaw where
  | outOfRange
  | impossible
  | invalid
  | tooShort
  | tooLong
  deriving Repr, DecidableEq

def Flaw.message : Flaw → String
  | .outOfRange => "input is out of range"
  | .impossible => "no possible date and time matching input"
  | .invalid => "input contains invalid characters"
  | .tooShort => "premature end of input"
  | .tooLong => "trailing input"

abbrev Scan := StateT (List Char) (Except Flaw)

namespace Scan

def skipBlanks : Scan Unit := modify trimStart

/-- The digits at the front, at most `max` of them. -/
def digits (max : Nat) : Scan (List Nat) := fun s =>
  let found := (s.take max).takeWhile Char.isDigit
  match found, s with
  | [], [] => .error .tooShort
  | [], _ :: _ => .error .invalid
  | _, _ => .ok (found.filterMap digit?, s.drop found.length)

def numberOf (ds : List Nat) : Nat := ds.foldl (fun n d => n * 10 + d) 0

/-- A number of at most `max` digits and of 63 bits. -/
def number (max : Nat) : Scan Nat := do
  let n := numberOf (← digits max)
  if n ≤ maxInt64.toNat then pure n else throw .outOfRange

/-- A number between bounds, blanks before it. -/
def field (low high : Nat) : Scan Nat := do
  skipBlanks
  let n ← number 2
  if low ≤ n && n ≤ high then pure n else throw .outOfRange

/-- A year of up to four digits, or of any number behind a sign. -/
def year : Scan Int := do
  skipBlanks
  let s ← get
  let y : Int ←
    match s with
    | '-' :: rest => do set rest; pure (-((← number rest.length.succ : Nat) : Int))
    | '+' :: rest => do set rest; pure (← number rest.length.succ : Nat)
    | _ => do pure (← number 4 : Nat)
  if minInt32 ≤ y && y ≤ maxInt32 then pure y else throw .outOfRange

/-- A character that has to be there, blanks before it. -/
def sign (c : Char) : Scan Unit := do
  skipBlanks
  match ← get with
  | [] => throw .tooShort
  | d :: rest => if d = c then set rest else throw .invalid

/-- Digits of a second behind a point; those behind the ninth do not count. -/
def fraction : Scan Nat := do
  match ← get with
  | '.' :: rest =>
    set rest
    let ds ← digits 9
    modify fun s => s.dropWhile Char.isDigit
    pure (numberOf ds * Nat.pow 10 (9 - ds.length))
  | _ => pure 0

/-- Two digits of an offset. -/
def offsetDigits (highest : Nat) : Scan Nat := do
  match ← get with
  | a :: b :: rest =>
    match digit? a, digit? b with
    | some a, some b => if a ≤ highest then do set rest; pure (a * 10 + b) else throw .outOfRange
    | _, _ => throw .invalid
  | [a] => if a.utf8Size ≥ 2 then throw .invalid else throw .tooShort
  | [] => throw .tooShort

/-- The offset from universal time in seconds. -/
def offset : Scan Int := do
  skipBlanks
  let s ← get
  if (s.take 3).map Char.toUpper = ['U', 'T', 'C'] then set (s.drop 3); pure 0
  else
    match s with
    | [] => throw .tooShort
    | c :: rest =>
      set rest
      if c = 'Z' || c = 'z' then pure 0
      else if c = '+' || c = '-' || c.toNat = 0x2212 then do
        let hours ← offsetDigits 9
        modify fun s => s.dropWhile fun c => c = ':' || isBlank c
        let minutes ← offsetDigits 5
        let seconds : Int := hours * 3600 + minutes * 60
        pure (if c = '+' then seconds else -seconds)
      else throw .invalid

/-- What stands between date and time of day. -/
def separator : Scan Unit := do
  match ← get with
  | [] => throw .tooShort
  | c :: rest => if c = 't' || c = 'T' || c = ' ' then set rest else throw .invalid

end Scan

/-- A date, a time of day and an offset, put together. -/
def ofParts? (year : Int) (month day hour minute second nanos : Nat) (offset : Int) : Except Flaw Instant := do
  if year < firstYear || lastYear < year || daysInMonth year month < day then throw .outOfRange
  let leap := second = 60
  let second := if leap then 59 else second
  let nanos := if leap then nanos + 1000000000 else nanos
  if secondsPerDay ≤ offset.natAbs then throw .outOfRange
  let local' := daysOfDate year month day * secondsPerDay + (hour * 3600 + minute * 60 + second : Nat)
  let seconds := local' - offset
  if seconds < firstSecond || lastSecond < seconds then throw .impossible
  pure ⟨seconds, nanos⟩

open Scan in
/-- Reads a whole text. -/
def scan : Scan (Except Flaw Instant) := do
  let y ← year
  sign '-'
  let month ← field 1 12
  sign '-'
  let day ← field 1 31
  separator
  let hour ← field 0 23
  sign ':'
  let minute ← field 0 59
  sign ':'
  let second ← field 0 60
  let nanos ← fraction
  let off ← offset
  skipBlanks
  if (← get).isEmpty then pure (ofParts? y month day hour minute second nanos off) else throw .tooLong

/-- Reads a date, a time of day and an offset; blanks may stand around the parts of date and time. -/
def ofText? (s : String) : Except Flaw Instant := do
  let (t, _) ← scan s.toList
  t

/-- One instant is not after another. -/
def notAfter (s t : Instant) : Bool := s.seconds < t.seconds || (s.seconds == t.seconds && s.nanos ≤ t.nanos)

end Instant

/-- When something happened: at an instant that was given, or at the `tick`-th event of this run. -/
inductive Moment where
  | recorded (t : Instant)
  | live (tick : Nat)
  deriving Repr, DecidableEq

namespace Moment

instance : Inhabited Moment := ⟨.live 0⟩

/-- One moment is not after another; the events of this run come last. -/
def notAfter : Moment → Moment → Bool
  | .recorded s, .recorded t => s.notAfter t
  | .recorded _, .live _ => true
  | .live _, .recorded _ => false
  | .live i, .live j => i ≤ j

/-- The tick of an event of this run. -/
def tick : Moment → Nat
  | .recorded _ => 0
  | .live n => n

end Moment
end Reconciliation.Time
