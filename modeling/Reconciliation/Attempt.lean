import Reconciliation.Json.Scalar
import Reconciliation.Operation

/-!
# Attempts

An attempt is one call to the gateway for an operation, with what the gateway answered. The gateway's reference
may be shared by several attempts.

* `Attempt` is what is kept, `Attempt.Draft` what is known before it is kept.
-/

namespace Reconciliation

open Json Number Time

structure Attempt where
  id : Ident
  account : Ident
  payment : Ident
  transaction : Ident
  operation : Operation
  /-- Absent for operations without an amount. -/
  amount : Option Decimal
  currency : Option String
  /-- The gateway's reference, which later events carry. -/
  reference : Option String
  status : Status
  /-- The gateway's answer as it came. -/
  payload : Option Value
  created : Moment
  tenant : Ident
  deriving Repr, DecidableEq, Inhabited

/-- An attempt without identifier and time. -/
structure Attempt.Draft where
  account : Ident
  payment : Ident
  transaction : Ident
  operation : Operation
  amount : Option Decimal
  currency : Option String
  reference : Option String
  status : Status
  payload : Option Value
  tenant : Ident
  deriving Repr, DecidableEq

namespace Attempt

/-- The attempt of a draft. -/
def ofDraft (id : Ident) (created : Moment) (d : Draft) : Attempt where
  id := id
  account := d.account
  payment := d.payment
  transaction := d.transaction
  operation := d.operation
  amount := d.amount
  currency := d.currency
  reference := d.reference
  status := d.status
  payload := d.payload
  created := created
  tenant := d.tenant

/-- The draft an attempt may have come from. -/
def draft (a : Attempt) : Draft where
  account := a.account
  payment := a.payment
  transaction := a.transaction
  operation := a.operation
  amount := a.amount
  currency := a.currency
  reference := a.reference
  status := a.status
  payload := a.payload
  tenant := a.tenant

def decoder : Decoder Attempt :=
  (Record.decoder "struct TransactionResponse"
    (.cons (.required "id" .ident)
    (.cons (.required "account_id" .ident)
    (.cons (.required "payment_id" .ident)
    (.cons (.required "transaction_id" .ident)
    (.cons (.required "transaction_type" Operation.decoder)
    (.cons (.optional "amount" .decimal)
    (.cons (.optional "currency" .string)
    (.cons (.optional "psp_reference" .string)
    (.cons (.required "status" Status.decoder)
    (.cons (.optional "additional_data" .any)
    (.cons (.required "created_at" .moment)
    (.cons (.required "tenant_id" .ident) .nil))))))))))))).map
    fun (id, account, payment, transaction, operation, amount, currency, reference, status, payload, created,
        tenant, ()) =>
      ⟨id, account, payment, transaction, operation, amount, currency, reference, status, payload, created, tenant⟩

/-- All members but identifier and time. -/
def members (a : Attempt) : List (String × Value) := [
  ("account_id", .ofIdent a.account),
  ("payment_id", .ofIdent a.payment),
  ("transaction_id", .ofIdent a.transaction),
  ("transaction_type", .string a.operation.name),
  ("amount", .ofOption .ofDecimal a.amount),
  ("currency", .ofString? a.currency),
  ("psp_reference", .ofString? a.reference),
  ("status", .string a.status.name),
  ("additional_data", .orNull a.payload),
  ("tenant_id", .ofIdent a.tenant)]

def json (a : Attempt) : Value :=
  .ofPairs (a.members ++ [("id", .ofIdent a.id), ("created_at", .ofMoment a.created)])

end Attempt
end Reconciliation
