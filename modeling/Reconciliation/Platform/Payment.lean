import Reconciliation.Family
import Reconciliation.Json.Scalar
import Reconciliation.Operation

/-!
# Payments on the billing platform

The platform owns payments with their transactions, and payment methods. It is asked to move a transaction to
another status or to record a chargeback.

* `Payment`, `Transaction`, `PaymentMethod` are what it answers, `StatusChange` and `NewChargeback` what it is
  asked for; each is read from JSON and written to it.
-/

namespace Reconciliation

open Json Number Time

/-- One operation on a payment, as the platform knows it. -/
structure Transaction where
  id : Ident
  externalKey : String
  operation : Operation
  status : Status
  amount : Option Decimal
  currency : Option String
  gatewayReference : Option String
  created : Moment
  deriving Repr, DecidableEq, Inhabited

structure Payment where
  id : Ident
  account : Ident
  method : Ident
  transactions : List Transaction
  deriving Repr, DecidableEq, Inhabited

structure PaymentMethod where
  id : Ident
  family : Family
  recurringReference : Option String
  recurring : Bool
  deriving Repr, DecidableEq, Inhabited

/-- A request to move a transaction to a status. -/
structure StatusChange where
  payment : Ident
  transaction : Ident
  status : Status
  gatewayReference : Option String
  additionalData : Option Value
  deriving Repr, DecidableEq

/-- A request to record a chargeback; a second one with the same key asks for nothing new. -/
structure NewChargeback where
  externalKey : String
  amount : Option Decimal
  currency : Option String
  gatewayReference : Option String
  additionalData : Option Value
  deriving Repr, DecidableEq

namespace Transaction

def decoder : Decoder Transaction :=
  (Record.decoder "struct PaymentTransaction"
    (.cons (.required "id" .ident)
    (.cons (.required "externalKey" .string)
    (.cons (.required "transactionType" Operation.decoder)
    (.cons (.required "status" Status.decoder)
    (.cons (.optional "amount" .decimal)
    (.cons (.optional "currency" .string)
    (.cons (.optional "gatewayReference" .string)
    (.cons (.required "createdAt" .moment) .nil))))))))).map
    fun (id, key, operation, status, amount, currency, reference, created, ()) =>
      ⟨id, key, operation, status, amount, currency, reference, created⟩

/-- All members but the time of creation. -/
def members (t : Transaction) : List (String × Value) := [
  ("id", .ofIdent t.id),
  ("externalKey", .string t.externalKey),
  ("transactionType", .string t.operation.name),
  ("status", .string t.status.name),
  ("amount", .ofOption .ofDecimal t.amount),
  ("currency", .ofString? t.currency),
  ("gatewayReference", .ofString? t.gatewayReference)]

def json (t : Transaction) : Value := .ofPairs (t.members ++ [("createdAt", .ofMoment t.created)])

end Transaction

namespace Payment

def decoder : Decoder Payment :=
  (Record.decoder "struct Payment"
    (.cons (.required "id" .ident)
    (.cons (.required "accountId" .ident)
    (.cons (.required "paymentMethodId" .ident)
    (.cons (.defaulted "transactions" (.list Transaction.decoder) []) .nil))))).map
    fun (id, account, method, transactions, ()) => ⟨id, account, method, transactions⟩

def json (p : Payment) : Value := .ofPairs [
  ("id", .ofIdent p.id),
  ("accountId", .ofIdent p.account),
  ("paymentMethodId", .ofIdent p.method),
  ("transactions", .array (p.transactions.map Transaction.json))]

/-- The transaction with an id. -/
def transaction? (p : Payment) (id : Ident) : Option Transaction := p.transactions.find? (·.id == id)

/-- The transaction with an external key. -/
def transactionByKey? (p : Payment) (key : String) : Option Transaction :=
  p.transactions.find? (·.externalKey == key)

/-- The chargebacks, oldest first. -/
def chargebacks (p : Payment) : List Transaction := p.transactions.filter (·.operation == .chargeback)

end Payment

namespace PaymentMethod

def decoder : Decoder PaymentMethod :=
  (Record.decoder "struct PaymentMethod"
    (.cons (.required "id" .ident)
    (.cons (.required "family" Family.decoder)
    (.cons (.optional "recurringReference" .string)
    (.cons (.defaulted "isRecurring" .bool false) .nil))))).map
    fun (id, family, reference, recurring, ()) => ⟨id, family, reference, recurring⟩

def json (m : PaymentMethod) : Value := .ofPairs [
  ("id", .ofIdent m.id),
  ("family", m.family.json),
  ("recurringReference", .ofString? m.recurringReference),
  ("isRecurring", .bool m.recurring)]

end PaymentMethod

namespace StatusChange

def decoder : Decoder StatusChange :=
  (Record.decoder "struct StatusChange"
    (.cons (.required "paymentId" .ident)
    (.cons (.required "transactionId" .ident)
    (.cons (.required "status" Status.decoder)
    (.cons (.optional "gatewayReference" .string)
    (.cons (.optional "additionalData" .any) .nil)))))).map
    fun (payment, transaction, status, reference, data, ()) => ⟨payment, transaction, status, reference, data⟩

def json (c : StatusChange) : Value := .ofPairs [
  ("paymentId", .ofIdent c.payment),
  ("transactionId", .ofIdent c.transaction),
  ("status", .string c.status.name),
  ("gatewayReference", .ofString? c.gatewayReference),
  ("additionalData", .orNull c.additionalData)]

end StatusChange

namespace NewChargeback

def decoder : Decoder NewChargeback :=
  (Record.decoder "struct NewChargeback"
    (.cons (.required "externalKey" .string)
    (.cons (.optional "amount" .decimal)
    (.cons (.optional "currency" .string)
    (.cons (.optional "gatewayReference" .string)
    (.cons (.optional "additionalData" .any) .nil)))))).map
    fun (key, amount, currency, reference, data, ()) => ⟨key, amount, currency, reference, data⟩

def json (c : NewChargeback) : Value := .ofPairs [
  ("externalKey", .string c.externalKey),
  ("amount", .ofOption .ofDecimal c.amount),
  ("currency", .ofString? c.currency),
  ("gatewayReference", .ofString? c.gatewayReference),
  ("additionalData", .orNull c.additionalData)]

end NewChargeback
end Reconciliation
