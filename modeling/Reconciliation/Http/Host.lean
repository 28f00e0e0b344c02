import Reconciliation.Http.Escape
import Reconciliation.Http.Punycode
import Reconciliation.Number.Whole
import Reconciliation.Text.Unprintable

/-!
# Hosts

A host is given by a number in brackets, by a name of the domain system, which may be a number of four bytes, or by a
name of its own.

* `Host.isEightGroups` and `Host.isFourBytes` are the numbers of hosts.
* `Host.domain?` and `Host.opaque?` read a host where names are of the domain system and where they are not.
-/

namespace Reconciliation.Http.Host

open Number Text

/-- Why a text names no host. -/
inductive Flaw where
  | empty
  /-- What stands in brackets is no number. -/
  | brackets
  /-- A name that ends in a number is none. -/
  | number
  /-- A name of the domain system has a part that is none. -/
  | name
  /-- A name of its own has a character that may not stand there. -/
  | character
  deriving Repr, DecidableEq

def Flaw.message : Flaw → String
  | .empty => "empty host"
  | .brackets => "invalid IPv6 address"
  | .number => "invalid IPv4 address"
  | .name => "invalid international domain name"
  | .character => "invalid domain character"

/-- The parts that a separator divides. -/
def splitAt (separator : Char) : List Char → List (List Char)
  | [] => [[]]
  | c :: rest =>
    match splitAt separator rest with
    | [] => [[c]]
    | part :: more => if c = separator then [] :: part :: more else (c :: part) :: more

/-! ### Numbers -/

/-- A number of one byte without leading zeros. -/
def isByte (cs : List Char) : Bool :=
  match Whole.ofDigits? 255 0 cs with
  | .ok _ => !cs.isEmpty && (cs.length = 1 || cs.head? ≠ some '0')
  | .error _ => false

/-- Four numbers with dots between them. -/
def isFourBytes (cs : List Char) : Bool :=
  let parts := splitAt '.' cs
  parts.length = 4 && parts.all isByte

def isGroup (cs : List Char) : Bool :=
  1 ≤ cs.length && cs.length ≤ 4 && cs.all fun c => (Ident.hexDigit? c).isSome

/-- The number of groups with colons between them; four bytes at the end stand for two groups. -/
def groupCount (cs : List Char) : Option Nat :=
  if cs.isEmpty then some 0
  else
    let parts := splitAt ':' cs
    match parts.getLast? with
    | some last =>
      if parts.all isGroup then some parts.length
      else if parts.dropLast.all isGroup && isFourBytes last then some (parts.length + 1)
      else none
    | none => none

/-- What is before and behind the first pair of colons. -/
def colonPair? : List Char → Option (List Char × List Char)
  | ':' :: ':' :: rest => some ([], rest)
  | c :: rest => (colonPair? rest).map fun (before, behind) => (c :: before, behind)
  | [] => none

/-- Eight groups, or fewer with a pair of colons for the missing ones. -/
def isEightGroups (cs : List Char) : Bool :=
  match colonPair? cs with
  | none => groupCount cs = some 8
  | some (before, behind) =>
    match groupCount before, groupCount behind with
    | some n, some m => n + m ≤ 7 && !before.contains '.'
    | _, _ => false

/-- The number in brackets. -/
def inBrackets? (rest : List Char) : Except Flaw (List Char) :=
  if rest.getLast? = some ']' && isEightGroups rest.dropLast then .ok ('[' :: rest) else .error .brackets

/-- A number of digits of a base; no digits are zero. -/
def ofDigits? (base : Nat) (cs : List Char) : Option Nat :=
  cs.foldlM (fun n c => (Ident.hexDigit? c).bind fun d => if d < base then some (n * base + d) else none) 0

/-- A part of a number, in one of three bases. -/
def part? : List Char → Option Nat
  | [] => none
  | '0' :: 'x' :: digits | '0' :: 'X' :: digits => ofDigits? 16 digits
  | '0' :: d :: digits => ofDigits? 8 (d :: digits)
  | digits => ofDigits? 10 digits

/-- The parts of a name; a dot at the end counts for nothing. -/
def parts (name : List Char) : List (List Char) :=
  let ps := splitAt '.' name
  if ps.getLast? = some [] then ps.dropLast else ps

/-- Whether a name ends as a number does. -/
def endsInNumber (name : List Char) : Bool :=
  match (parts name).getLast? with
  | some last => !last.isEmpty && (last.all Char.isDigit || (part? last).isSome)
  | none => false

/-- Whether a name is a number: up to four parts, the last of which fills the bytes that are left. -/
def isNumber (name : List Char) : Bool :=
  match (parts name).mapM part? with
  | some ns =>
    match ns.reverse with
    | last :: front => ns.length ≤ 4 && front.all (· ≤ 255) && last < Nat.pow 256 (4 - front.length)
    | [] => false
  | none => false

/-! ### Names of the domain system -/

/-- Characters of ASCII that may not stand in a name, apart from blanks and control characters. -/
def denied : List Char := ['%', '#', '/', ':', '<', '>', '?', '@', '[', '\\', ']', '^', '|']

/-- A character of ASCII in lower case, if it may stand in a name. -/
def ascii? (c : Char) : Option (List Char) :=
  if c.toNat ≤ 32 || c.toNat = 127 || denied.contains c then none else some [c.toLower]

def isIn (ranges : List (Nat × Nat)) (c : Char) : Bool := ranges.any fun r => r.1 ≤ c.toNat && c.toNat ≤ r.2

/-- Characters that are left out of a name. -/
def ignored : List (Nat × Nat) := [
  (0xAD, 0xAD), (0x34F, 0x34F), (0x180B, 0x180D), (0x180F, 0x180F), (0x200B, 0x200B), (0x2060, 0x2060),
  (0x2064, 0x2064), (0xFE00, 0xFE0F), (0xFEFF, 0xFEFF), (0x1BCA0, 0x1BCA3), (0xE0100, 0xE01EF)]

/-- Dots of other scripts. -/
def dots : List (Nat × Nat) := [(0x3002, 0x3002), (0xFF61, 0xFF61)]

/-- Wide forms of the characters of ASCII, which lie `wideOffset` before them. -/
def wide : List (Nat × Nat) := [(0xFF01, 0xFF5E)]

def wideOffset : Nat := 0xFEE0

/-- Visible characters that stand for blanks or for other things that may not stand in a name. -/
def refused : List (Nat × Nat) := [
  (0xA8, 0xA8), (0xAF, 0xAF), (0xB4, 0xB4), (0xB8, 0xB8), (0x2D8, 0x2DD), (0x37A, 0x37A), (0x384, 0x385),
  (0x1806, 0x1806), (0x1FBD, 0x1FBD), (0x1FBF, 0x1FC1), (0x1FCD, 0x1FCF), (0x1FDD, 0x1FDF), (0x1FED, 0x1FEE),
  (0x1FFD, 0x1FFE), (0x200C, 0x200D), (0x2017, 0x2017), (0x2024, 0x2026), (0x203E, 0x203E), (0x2047, 0x2049),
  (0x2100, 0x2101), (0x2105, 0x2106), (0x2488, 0x249B), (0x2A74, 0x2A74), (0x2FF0, 0x2FFF), (0x309B, 0x309C),
  (0x33C2, 0x33C2), (0x33C7, 0x33C7), (0x33D8, 0x33D8), (0xFC5E, 0xFC63), (0xFDFA, 0xFDFB), (0xFE12, 0xFE13),
  (0xFE16, 0xFE16), (0xFE19, 0xFE19), (0xFE30, 0xFE30), (0xFE47, 0xFE4C), (0xFE52, 0xFE52), (0xFE55, 0xFE56),
  (0xFE5F, 0xFE5F), (0xFE64, 0xFE65), (0xFE68, 0xFE68), (0xFE6A, 0xFE6B), (0xFE70, 0xFE70), (0xFE72, 0xFE72),
  (0xFE74, 0xFE74), (0xFE76, 0xFE76), (0xFE78, 0xFE78), (0xFE7A, 0xFE7A), (0xFE7C, 0xFE7C), (0xFE7E, 0xFE7E),
  (0xFFE3, 0xFFE3), (0xFFFC, 0xFFFD), (0x1F100, 0x1F100)]

/-- What a character of a name is taken for; nothing where it may not stand there. -/
def folded? (c : Char) : Option (List Char) :=
  if c.toNat < 128 then ascii? c
  else if isIn wide c then ascii? (Char.ofNat (c.toNat - wideOffset))
  else if isIn dots c then some ['.']
  else if isIn ignored c then some []
  else if isIn refused c || isSilent c then none
  else some [c]

/-- Whether a part of a name begins with a character of its own. -/
def beginsWell : List Char → Bool
  | [] => true
  | c :: _ => !isExtending c

/-- Whether a text may stand between dots. What is written in ASCII has to stand for something else. -/
def isLabel : List Char → Bool
  | 'x' :: 'n' :: '-' :: '-' :: code =>
    match Punycode.decode? code with
    | some cs => beginsWell cs && cs.any (·.toNat ≥ 128) && cs.all fun c => folded? c = some [c]
    | none => false
  | cs => beginsWell cs

/-- Reads a host that is a number in brackets or a name of the domain system. -/
def domain? (host : List Char) : Except Flaw (List Char) :=
  match host with
  | '[' :: rest => inBrackets? rest
  | _ =>
    match (Utf8.decodeLossy (unescape host)).mapM folded? with
    | none => .error .name
    | some cs =>
      let name := cs.flatten
      if !(splitAt '.' name).all isLabel then .error .name
      else if name.isEmpty then .error .empty
      else if endsInNumber name && !isNumber name then .error .number
      else .ok name

/-! ### Names of their own -/

/-- Characters that may not stand in the name of a host. -/
def excluded : List Char := [
  Char.ofNat 0, '\t', '\n', '\r', ' ', '#', '/', ':', '<', '>', '?', '@', '[', '\\', ']', '^', '|']

/-- Reads a host that is a number in brackets or has a name of its own. -/
def opaque? (host : List Char) : Except Flaw (List Char) :=
  match host with
  | '[' :: rest => inBrackets? rest
  | _ => if host.any excluded.contains then .error .character else .ok host

end Reconciliation.Http.Host
