import Reconciliation.Http.Url
import Reconciliation.Text.Blank
import Reconciliation.Text.Quoted

/-!
# Addresses of databases

An address names a host, a user, the database and options. Only what stands against an address is looked for: the
connection itself is not made here.

* `Address.flaw?` is the first flaw of an address, and `Flaw.message` words it.
-/

namespace Reconciliation.Database.Address

open Http Number Text

inductive Flaw where
  | address (f : Url.Flaw)
  /-- What a part stands for is no text. -/
  | illFormed (f : Utf8.Flaw)
  /-- A host that an option gives by its number is none. -/
  | invalidNumber
  | notNumber (why : Whole.Flaw)
  | unknownEncryption (mode : String)
  deriving Repr, DecidableEq

def Flaw.message : Flaw → String
  | .address f => f.message
  | .illFormed f => f.message
  | .invalidNumber => "invalid IP address syntax"
  | .notNumber why => why.message
  | .unknownEncryption mode =>
    "error with configuration: unknown value " ++ quoted mode ++ " for \x60ssl_mode\x60"

/-! ### Parts -/

/-- What is wrong with the text that a part stands for. -/
def partFlaw? (cs : List Char) : Option Flaw := (Utf8.flaw? (unescape cs)).map .illFormed

/-- A host is looked at only where it is the path of a socket. -/
def hostFlaw? (host : Option (List Char)) : Option Flaw :=
  match host with
  | some cs => if (unescape cs).head? = some 47 then partFlaw? cs else none
  | none => none

/-- The first flaw of a part; the path is the name of the database. -/
def partsFlaw? (u : Url) : Option Flaw :=
  (hostFlaw? u.host).or <| (partFlaw? u.user).or <| (partFlaw? u.password).or <|
    partFlaw? (u.path.dropWhile (· = '/'))

/-! ### Options -/

def optionText (cs : List Char) : String := String.ofList (Utf8.decodeLossy (unescapeField cs))

/-- The options of a query, in order. -/
def options (query : List Char) : List (String × String) :=
  ((Host.splitAt '&' query).filter (!·.isEmpty)).map fun pair =>
    let key := pair.takeWhile (· ≠ '=')
    (optionText key, optionText (pair.drop (key.length + 1)))

def encryptionModes : List String := ["disable", "allow", "prefer", "require", "verify-ca", "verify-full"]

def numberFlaw? (max : Nat) (s : String) : Option Flaw :=
  match Whole.ofText? max s with
  | .ok _ => none
  | .error why => some (.notNumber why)

def optionFlaw? : String × String → Option Flaw
  | ("sslmode", mode) | ("ssl-mode", mode) =>
    if encryptionModes.contains (lower mode) then none else some (.unknownEncryption mode)
  | ("statement-cache-capacity", n) => numberFlaw? maxUInt64 n
  | ("port", n) => numberFlaw? maxUInt16 n
  | ("hostaddr", host) =>
    if Host.isFourBytes host.toList || Host.isEightGroups host.toList then none else some .invalidNumber
  | _ => none

/-- The first flaw of an address. -/
def flaw? (address : String) : Option Flaw :=
  match Url.parse? address with
  | .error f => some (.address f)
  | .ok u => (partsFlaw? u).or ((options (u.query.getD [])).findSome? optionFlaw?)

end Reconciliation.Database.Address
