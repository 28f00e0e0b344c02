/-!
# Names beyond ASCII in ASCII

A text with other characters may be written in ASCII: first its ASCII characters, then, behind a hyphen, numbers that
say which characters belong where. Each number is the distance to the place of the next character, in digits of base 36
whose weights depend on the numbers before.

* `Punycode.decode?` reads such a text.
-/

namespace Reconciliation.Http.Punycode

/-- The value of a digit. -/
def digit? (c : Char) : Option Nat :=
  if 'a' ≤ c && c ≤ 'z' then some (c.toNat - 97)
  else if 'A' ≤ c && c ≤ 'Z' then some (c.toNat - 65)
  else if c.isDigit then some (c.toNat - 22)
  else none

/-- The bias of a distance that was scaled; `shift` counts how often it was divided. -/
def biasFrom (distance shift : Nat) : Nat :=
  if distance > 455 then biasFrom (distance / 35) (shift + 36) else shift + 36 * distance / (distance + 38)
termination_by distance

/-- The bias for the next number, given the last distance and the number of characters. -/
def nextBias (distance count : Nat) (first : Bool) : Nat :=
  let scaled := if first then distance / 700 else distance / 2
  biasFrom (scaled + scaled / count) 0

/-- Between the digits of numbers. -/
structure State where
  done : List Char
  /-- The code point of the last character that was added. -/
  code : Nat
  /-- Where that character went, one further. -/
  start : Nat
  bias : Nat
  /-- The number read so far, from `start` on. -/
  place : Nat
  weight : Nat
  position : Nat

def State.initial (basic : List Char) : State := ⟨basic, 128, 0, 72, 0, 1, 36⟩

/-- The least digit that is not the last one of a number. -/
def State.threshold (s : State) : Nat :=
  if s.position ≤ s.bias then 1 else if s.position ≥ s.bias + 26 then 26 else s.position - s.bias

/-- Takes a digit. -/
def State.take (s : State) (d : Nat) : Option State :=
  let place := s.place + d * s.weight
  if d < s.threshold then
    let count := s.done.length + 1
    let code := s.code + place / count
    let index := place % count
    if code.isValidChar then
      some ⟨s.done.insertIdx index (Char.ofNat code), code, index + 1, nextBias (place - s.start) count (s.start == 0),
        index + 1, 1, 36⟩
    else none
  else some { s with place, weight := s.weight * (36 - s.threshold), position := s.position + 36 }

/-- Reads a text. The part without digits ends at the last hyphen. -/
def decode? (cs : List Char) : Option (List Char) := do
  let digits := (cs.reverse.takeWhile (· ≠ '-')).reverse
  let basic := cs.take (cs.length - digits.length - 1)
  let s ← digits.foldlM (fun s c => (digit? c).bind s.take) (State.initial basic)
  if s.position = 36 then some s.done else none

end Reconciliation.Http.Punycode
