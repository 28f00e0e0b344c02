import Reconciliation.Json.Scalar

/-!
# Requests to the gateway

The gateway is asked to authorize a payment or to pay out, and to capture, refund or cancel an earlier payment.
-/

namespace Reconciliation.Gateway

open Json Number

/-- A payment that is to be authorized, or money that is to be paid out. -/
structure Order where
  merchantAccount : String
  /-- The reference that later events carry back. -/
  reference : String
  amount : Decimal
  currency : String
  paymentMethod : Value
  shopperReference : Option String
  /-- One of a series of payments that the shopper agreed to before. -/
  recurring : Bool
  captureImmediately : Bool
  deriving Repr, DecidableEq

/-- A change to an earlier payment. -/
structure Modification where
  merchantAccount : String
  parentReference : String
  reference : String
  amount : Option Decimal
  currency : Option String
  deriving Repr, DecidableEq

/-- What the gateway answers. -/
structure Answer where
  reference : Option String
  resultCode : String
  refusalReason : Option String
  raw : Value
  deriving Repr, DecidableEq

inductive Request where
  | authorize (order : Order)
  | credit (order : Order)
  | capture (m : Modification)
  | refund (m : Modification)
  | cancel (m : Modification)
  deriving Repr, DecidableEq

namespace Order

def decoder : Decoder Order :=
  (Record.decoder "struct GatewayPaymentRequest"
    (.cons (.required "merchant_account" .string)
    (.cons (.required "reference" .string)
    (.cons (.required "amount" .decimal)
    (.cons (.required "currency" .string)
    (.cons (.required "payment_method" .any)
    (.cons (.optional "shopper_reference" .string)
    (.cons (.required "recurring" .bool)
    (.cons (.required "capture_immediately" .bool) .nil))))))))).map
    fun (account, reference, amount, currency, method, shopper, recurring, capture, ()) =>
      ⟨account, reference, amount, currency, method, shopper, recurring, capture⟩

def json (o : Order) : Value := .ofPairs [
  ("merchant_account", .string o.merchantAccount),
  ("reference", .string o.reference),
  ("amount", .ofDecimal o.amount),
  ("currency", .string o.currency),
  ("payment_method", o.paymentMethod),
  ("shopper_reference", .ofString? o.shopperReference),
  ("recurring", .bool o.recurring),
  ("capture_immediately", .bool o.captureImmediately)]

end Order

namespace Modification

def decoder : Decoder Modification :=
  (Record.decoder "struct ModificationRequest"
    (.cons (.required "merchant_account" .string)
    (.cons (.required "original_reference" .string)
    (.cons (.required "reference" .string)
    (.cons (.optional "amount" .decimal)
    (.cons (.optional "currency" .string) .nil)))))).map
    fun (account, parent, reference, amount, currency, ()) => ⟨account, parent, reference, amount, currency⟩

def json (m : Modification) : Value := .ofPairs [
  ("merchant_account", .string m.merchantAccount),
  ("original_reference", .string m.parentReference),
  ("reference", .string m.reference),
  ("amount", .ofOption .ofDecimal m.amount),
  ("currency", .ofString? m.currency)]

end Modification

namespace Answer

def decoder : Decoder Answer :=
  (Record.decoder "struct GatewayResponse"
    (.cons (.optional "psp_reference" .string)
    (.cons (.required "result_code" .string)
    (.cons (.optional "refusal_reason" .string)
    (.cons (.required "raw" .any) .nil))))).map
    fun (reference, code, reason, raw, ()) => ⟨reference, code, reason, raw⟩

def json (a : Answer) : Value := .ofPairs [
  ("psp_reference", .ofString? a.reference),
  ("result_code", .string a.resultCode),
  ("refusal_reason", .ofString? a.refusalReason),
  ("raw", a.raw)]

end Answer

namespace Request

def name : Request → String
  | .authorize _ => "authorize"
  | .credit _ => "credit"
  | .capture _ => "capture"
  | .refund _ => "refund"
  | .cancel _ => "cancel"

def json : Request → Value
  | .authorize o | .credit o => o.json
  | .capture m | .refund m | .cancel m => m.json

end Request
end Reconciliation.Gateway
