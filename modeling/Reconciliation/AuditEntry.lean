import Reconciliation.Json.Scalar

/-!
# Audit entries

Each notification leaves one entry: what it said and, as far as it was found, what it belonged to.

* `AuditEntry` is the entry; `AuditRecord` is one as it is stored, with identifier and time.
-/

namespace Reconciliation

open Json Number Time

structure AuditEntry where
  account : Option Ident
  payment : Option Ident
  transaction : Option Ident
  success : Bool
  eventCode : String
  merchantAccount : String
  merchantReference : Option String
  parentReference : Option String
  reason : Option String
  reference : Option String
  amount : Option Decimal
  currency : Option String
  additionalData : Option Value
  tenant : Option Ident
  deriving Repr, DecidableEq, Inhabited

structure AuditRecord where
  id : Ident
  entry : AuditEntry
  created : Moment
  deriving Repr, DecidableEq

namespace AuditEntry

/-- An entry that says nothing. -/
def blank : AuditEntry where
  account := none
  payment := none
  transaction := none
  success := false
  eventCode := ""
  merchantAccount := ""
  merchantReference := none
  parentReference := none
  reason := none
  reference := none
  amount := none
  currency := none
  additionalData := none
  tenant := none

def members (e : AuditEntry) : List (String × Value) := [
  ("account_id", .ofOption .ofIdent e.account),
  ("payment_id", .ofOption .ofIdent e.payment),
  ("transaction_id", .ofOption .ofIdent e.transaction),
  ("success", .bool e.success),
  ("event_code", .string e.eventCode),
  ("merchant_account_code", .string e.merchantAccount),
  ("merchant_reference", .ofString? e.merchantReference),
  ("original_reference", .ofString? e.parentReference),
  ("reason", .ofString? e.reason),
  ("psp_reference", .ofString? e.reference),
  ("amount", .ofOption .ofDecimal e.amount),
  ("currency", .ofString? e.currency),
  ("additional_data", .orNull e.additionalData),
  ("tenant_id", .ofOption .ofIdent e.tenant)]

def json (e : AuditEntry) : Value := .ofPairs e.members

end AuditEntry

namespace AuditRecord

def decoder : Decoder AuditRecord :=
  (Record.decoder "struct NotificationRecord"
    (.cons (.required "id" .ident)
    (.cons (.optional "account_id" .ident)
    (.cons (.optional "payment_id" .ident)
    (.cons (.optional "transaction_id" .ident)
    (.cons (.required "success" .bool)
    (.cons (.required "event_code" .string)
    (.cons (.required "merchant_account_code" .string)
    (.cons (.optional "merchant_reference" .string)
    (.cons (.optional "original_reference" .string)
    (.cons (.optional "reason" .string)
    (.cons (.optional "psp_reference" .string)
    (.cons (.optional "amount" .decimal)
    (.cons (.optional "currency" .string)
    (.cons (.optional "additional_data" .any)
    (.cons (.optional "tenant_id" .ident)
    (.cons (.required "created_at" .moment) .nil))))))))))))))))).map
    fun (id, account, payment, transaction, success, code, merchant, merchantReference, parent, reason,
        reference, amount, currency, data, tenant, created, ()) =>
      ⟨id, ⟨account, payment, transaction, success, code, merchant, merchantReference, parent, reason, reference,
        amount, currency, data, tenant⟩, created⟩

def json (r : AuditRecord) : Value :=
  .ofPairs (r.entry.members ++ [("id", .ofIdent r.id), ("created_at", .ofMoment r.created)])

end AuditRecord
end Reconciliation
