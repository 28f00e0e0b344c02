import Reconciliation.Settings.Source
import Reconciliation.Tenant.Registry

/-!
# Tenants in settings

Settings may list tenants under the key `tenants`. Texts may be given as numbers or truth values there.

* `Registry.ofText` reads the registry of a TOML text, and `Registry.load` that of a file and of environment variables
  that override it.
-/

namespace Reconciliation

open Json Settings

namespace Tenant

/-- Items that all have to be there. -/
def listOf? {α : Type} (read : Value → Option α) : Value → Option (List α)
  | .array items => items.mapM read
  | _ => none

/-- The algorithm that a name, or a table with a name as its only key, stands for. -/
def algorithm? (v : Value) : Option SignatureAlgorithm :=
  let named (s : String) : Option SignatureAlgorithm :=
    if s = SignatureAlgorithm.hmacSha256.name then some .hmacSha256 else none
  match v with
  | .string s => named s
  | .object [(s, _)] => named s
  | _ => none

/-- A field that may be left out. -/
def fieldOr {α : Type} (v : Option Value) (default : α) (read : Value → Option α) : Option α :=
  match v with
  | none => some default
  | some v => read v

/-- A tenant of the values of its fields. -/
def ofFields? (id accounts secret algorithm families : Option Value) : Option Tenant := do
  pure {
    id := ← (Ident.ofText? (← text? (← id))).toOption
    merchantAccounts := ← fieldOr accounts [] (listOf? text?)
    secret := ← fieldOr secret none fun v => if v = .null then some none else (text? v).map some
    algorithm := ← fieldOr algorithm .hmacSha256 algorithm?
    failingFamilies := ← fieldOr families [] (listOf? fun v => (text? v).map Family.ofText) }

/-- A tenant as a table, or as a list of the values of its fields. -/
def ofSettings? (v : Value) : Option Tenant :=
  match v with
  | .object _ =>
    ofFields? (v.get? "tenant_id") (v.get? "merchant_accounts") (v.get? "hmac_secret") (v.get? "hmac_algorithm")
      (v.get? "chargeback_as_failure_families")
  | .array items => ofFields? items[0]? items[1]? items[2]? items[3]? items[4]?
  | _ => none

end Tenant

namespace Registry

/-- Why there is no registry. -/
inductive Flaw where
  /-- A text is not TOML. -/
  | unparsed
  /-- A file is not there, or it can not be read. -/
  | unreadable
  /-- Settings are no list of tenants. -/
  | malformed
  /-- Tenants get in the way of each other. -/
  | conflict (f : Failure)
  deriving Repr, DecidableEq

/-- The registry that settings describe; without a list of tenants, it is empty. -/
def ofSettings (root : Value) : Except Flaw Registry :=
  match Tenant.fieldOr (root.get? "tenants") [] (Tenant.listOf? Tenant.ofSettings?) with
  | none => .error .malformed
  | some tenants => (ofList tenants).mapError .conflict

/-- The registry that a TOML text describes. -/
def ofText (text : String) : Except Flaw Registry :=
  match Format.toml.read text with
  | none => .error .unparsed
  | some root => ofSettings root

/-- The registry that a file of this name and environment variables describe; without `content`, there is no such
file. -/
def load (name : String) (content : Option String) (env : Environment) : Except Flaw Registry :=
  match (Format.ofFile? name).bind fun f => content.bind f.readFile with
  | none => .error .unreadable
  | some root => ofSettings (overridden root env)

end Registry
end Reconciliation
