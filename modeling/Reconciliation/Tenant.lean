import Reconciliation.Family
import Reconciliation.Json.Scalar

/-!
# Tenants

A tenant owns merchant accounts at the gateway. It may have a key for the signatures of notifications, and it may
list families of payment methods whose chargebacks fail the payment itself.
-/

namespace Reconciliation

open Json

/-- How notifications are signed. -/
inductive SignatureAlgorithm where
  | hmacSha256
  deriving Repr, DecidableEq, Inhabited

structure Tenant where
  id : Ident
  merchantAccounts : List String
  /-- The key of the signatures in hexadecimal digits; without one, or with a blank one, signatures are not
  looked at. -/
  secret : Option String
  algorithm : SignatureAlgorithm
  /-- The families whose chargebacks fail the payment. -/
  failingFamilies : List Family
  deriving Repr, DecidableEq, Inhabited

namespace SignatureAlgorithm

def name : SignatureAlgorithm → String
  | .hmacSha256 => "HmacSHA256"

def decoder : Decoder SignatureAlgorithm := .choice [(name .hmacSha256, .hmacSha256)]

end SignatureAlgorithm

namespace Tenant

/-- A tenant of which nothing is known but its identifier. -/
def unconfigured (id : Ident) : Tenant := ⟨id, [], none, .hmacSha256, []⟩

def decoder : Decoder Tenant :=
  (Record.decoder "struct TenantConfig"
    (.cons (.required "tenant_id" .ident)
    (.cons (.defaulted "merchant_accounts" (.list .string) [])
    (.cons (.defaulted "hmac_secret" (.optional .string) none)
    (.cons (.defaulted "hmac_algorithm" SignatureAlgorithm.decoder .hmacSha256)
    (.cons (.defaulted "chargeback_as_failure_families" (.list Family.decoder) []) .nil)))))).map
    fun (id, accounts, secret, algorithm, families, ()) => ⟨id, accounts, secret, algorithm, families⟩

def json (t : Tenant) : Value := .ofPairs [
  ("tenant_id", .ofIdent t.id),
  ("merchant_accounts", .array (t.merchantAccounts.map .string)),
  ("hmac_secret", .ofString? t.secret),
  ("hmac_algorithm", .string t.algorithm.name),
  ("chargeback_as_failure_families", .array (t.failingFamilies.map Family.json))]

/-- The key of the signatures, unless it is blank. -/
def signatureKey? (t : Tenant) : Option String := t.secret.filter fun s => !Text.allBlank s

/-- Whether notifications have to be signed. -/
def verifiesSignatures (t : Tenant) : Bool := t.signatureKey?.isSome

/-- Whether a chargeback on a family fails the payment. -/
def failsOnChargeback (t : Tenant) (family : Family) : Bool := t.failingFamilies.contains family

end Tenant
end Reconciliation
