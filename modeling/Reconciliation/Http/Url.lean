import Reconciliation.Http.Host

/-!
# Addresses

An address names a scheme, a user and a host, a path and a query. Segments of dots in the path are resolved, and
characters that may not stand there are written by their bytes. What follows a number sign is left out.

* `Url.parse?` reads an address or says why a text is none.
* `Url.target` is the path and query that a request to an address names.
-/

namespace Reconciliation.Http

open Number Text

structure Url where
  /-- In lower case. -/
  scheme : String
  user : List Char
  password : List Char
  host : Option (List Char)
  path : List Char
  query : Option (List Char)
  deriving Repr, DecidableEq

namespace Url

/-- Why a text is no address. -/
inductive Flaw where
  | noScheme
  | host (f : Host.Flaw)
  | port
  deriving Repr, DecidableEq

def Flaw.message : Flaw → String
  | .noScheme => "relative URL without a base"
  | .host f => f.message
  | .port => "invalid port number"

/-! ### Scheme -/

/-- How the part behind the scheme is to be read. -/
inductive Kind where
  /-- There is a host, which has a name of the domain system. -/
  | web
  /-- There may be such a host. -/
  | file
  /-- There may be a host, which may have a name of its own. -/
  | other
  deriving Repr, DecidableEq

def Kind.ofScheme (scheme : String) : Kind :=
  if ["http", "https", "ws", "wss", "ftp"].contains scheme then .web else if scheme = "file" then .file else .other

/-- Slashes divide; but for schemes of their own, backslashes do so too. -/
def Kind.isSlash (k : Kind) (c : Char) : Bool := c = '/' || (c = '\\' && k ≠ .other)

/-- The text without blanks and control characters around it, and without tabulators and ends of lines. -/
def clean (s : List Char) : List Char :=
  (stripC0 s).filter fun c => c ≠ '\t' && c ≠ '\n' && c ≠ '\r'
where
  stripC0 (s : List Char) : List Char :=
    ((s.dropWhile (·.toNat ≤ 32)).reverse.dropWhile (·.toNat ≤ 32)).reverse

/-- The scheme in lower case and what follows its colon. -/
def scheme? (cs : List Char) : Option (String × List Char) :=
  let name := cs.takeWhile fun c => c.isAlphanum || c = '+' || c = '-' || c = '.'
  match name, cs.drop name.length with
  | first :: _, ':' :: rest => if first.isAlpha then some (String.ofList (name.map Char.toLower), rest) else none
  | _, _ => none

/-! ### Host -/

/-- The user and the host of an address. -/
structure Authority where
  user : List Char
  password : List Char
  host : Option (List Char)

/-- The user, if there is one, and what is behind the last at sign. -/
def userAndHost (cs : List Char) : Option (List Char) × List Char :=
  if cs.contains '@' then
    let behind := (cs.reverse.takeWhile (· ≠ '@')).reverse
    (some (cs.take (cs.length - behind.length - 1)), behind)
  else (none, cs)

/-- The host, up to a colon outside of brackets. -/
def hostName : (inside : Bool) → List Char → List Char
  | _, [] => []
  | inside, c :: rest => if c = ':' && !inside then [] else c :: hostName (c = '[' || (inside && c ≠ ']')) rest

/-- Whether a text is a number of a port or empty; a backslash ends it. -/
def isPort (cs : List Char) : Bool := (Whole.ofDigits? maxUInt16 0 (cs.takeWhile (· ≠ '\\'))).isOk

/-- Reads user, host and port; `followed` says that something follows them. A user needs a host. -/
def authority? (k : Kind) (followed : Bool) (cs : List Char) : Except Flaw Authority := do
  let (userInfo, rest) := userAndHost cs
  let info := userInfo.getD []
  let user := info.takeWhile (· ≠ ':')
  let password := info.drop (user.length + 1)
  let name := hostName false rest
  let port := rest.drop name.length
  if userInfo = some [] && rest.isEmpty && followed then throw (.host .empty)
  if k = .web && name.isEmpty then throw (.host .empty)
  let host ← (if k = .web then Host.domain? name else Host.opaque? name).mapError .host
  if name.isEmpty && !(port.isEmpty && user.isEmpty && password.isEmpty) then throw (.host .empty)
  if !isPort (port.drop 1) then throw .port
  pure ⟨user, password, if name.isEmpty then none else some host⟩

/-! ### Path -/

def pathExtra : List Char := ['"', '#', '<', '>', '?', '\x60', '\x7b', '\x7d']

def queryExtra : List Char := ['"', '#', '<', '>', '\x27']

/-- A segment with escaped dots as dots. -/
def plainDots : List Char → List Char
  | '%' :: '2' :: e :: rest => if e = 'e' || e = 'E' then '.' :: plainDots rest else '%' :: '2' :: e :: plainDots rest
  | c :: rest => c :: plainDots rest
  | [] => []

def isSingleDot (segment : List Char) : Bool := plainDots segment = ['.']

def isDoubleDot (segment : List Char) : Bool := plainDots segment = ['.', '.']

/-- The segments that slashes divide. -/
def segments (k : Kind) : List Char → List (List Char)
  | [] => [[]]
  | c :: rest =>
    if k.isSlash c then [] :: segments k rest
    else
      match segments k rest with
      | [] => [[c]]
      | s :: more => (c :: s) :: more

/-- Resolves segments of dots; `done` holds the segments before, the last first. -/
def resolve : (done : List (List Char)) → List (List Char) → List (List Char)
  | done, [] => done.reverse
  | done, s :: rest =>
    let done := if isDoubleDot s then done.tail else if isSingleDot s then done else s :: done
    let ends := rest.isEmpty && (isDoubleDot s || isSingleDot s)
    resolve (if ends then [] :: done else done) rest

/-- The path that segments make. -/
def join (ss : List (List Char)) : List Char := ss.flatMap fun s => '/' :: escape pathExtra s

/-- The path behind a host; for a scheme that other programs know, it is never empty. -/
def pathOf (k : Kind) (cs : List Char) : List Char :=
  match cs with
  | [] => if k = .other then [] else ['/']
  | c :: rest => join (resolve [] (segments k (if k.isSlash c then rest else c :: rest)))

/-! ### Addresses -/

/-- A letter with a colon or a bar is no host but a drive. -/
def isDrive : List Char → Bool
  | [c, mark] => c.isAlpha && (mark = ':' || mark = '|')
  | _ => false

/-- Host and path of a file: there is a host behind two slashes. -/
def filePart (cs : List Char) : List Char × List Char :=
  match cs with
  | a :: b :: rest =>
    if Kind.file.isSlash a && Kind.file.isSlash b then
      let host := rest.takeWhile (!Kind.file.isSlash ·)
      if isDrive host then ([], rest) else (host, rest.drop host.length)
    else ([], cs)
  | _ => ([], cs)

/-- The part of an address between scheme and query. -/
def ofBody? (scheme : String) (followed : Bool) (body : List Char) (query : Option (List Char)) : Except Flaw Url := do
  let k := Kind.ofScheme scheme
  let hosted (cs : List Char) : Except Flaw Url := do
    let front := cs.takeWhile (!k.isSlash ·)
    let a ← authority? k (followed || front.length < cs.length) front
    pure ⟨scheme, a.user, a.password, a.host, pathOf k (cs.drop front.length), query⟩
  match k with
  | .web => hosted (body.dropWhile k.isSlash)
  | .file =>
    let (name, path) := filePart body
    let host ← if name.isEmpty then pure none else (Host.domain? name).mapError .host |>.map some
    pure ⟨scheme, [], [], host, pathOf k path, query⟩
  | .other =>
    match body with
    | '/' :: '/' :: rest => hosted rest
    | '/' :: _ => pure ⟨scheme, [], [], none, pathOf k body, query⟩
    | _ => pure ⟨scheme, [], [], none, body, query⟩

/-- Reads an address. -/
def parse? (text : String) : Except Flaw Url :=
  match scheme? (clean text.toList) with
  | none => .error .noScheme
  | some (scheme, rest) =>
    let body := rest.takeWhile fun c => c ≠ '?' && c ≠ '#'
    match rest.drop body.length with
    | '?' :: query => ofBody? scheme true body (some (query.takeWhile (· ≠ '#')))
    | behind => ofBody? scheme (!behind.isEmpty) body none

/-- The path and query of an address. -/
def target (u : Url) : String :=
  String.ofList (u.path ++
    match u.query with
    | some q => '?' :: escape queryExtra q
    | none => [])

end Url
end Reconciliation.Http
