import Reconciliation.AuditEntry
import Reconciliation.MinorUnits
import Reconciliation.Notification.EventCode

/-!
# Notification items

An item tells of one event. It names the operation by references: its own, that of the operation it is a child of,
and the one this program gave. Texts that are blank count as absent.

* `Item.decoder` and `Item.json` read and write items.
* `Item.signingPayload` is the text that the gateway signs.
* `Item.audit` is the entry that an item leaves before it is matched.
-/

namespace Reconciliation.Notification

open Json Number

/-- An amount in minor units. -/
structure MinorAmount where
  units : Int64
  currency : String
  deriving Repr, DecidableEq, Inhabited

structure Item where
  reference : Option String
  parentReference : Option String
  merchantAccount : String
  merchantReference : Option String
  eventCode : EventCode
  success : Bool
  amount : Option MinorAmount
  reason : Option String
  /-- The family of the payment method, as the gateway sees it. -/
  paymentMethod : Option String
  eventDate : Option String
  additionalData : Option Members
  deriving Repr, DecidableEq

namespace MinorAmount

def decoder : Decoder MinorAmount :=
  (Record.decoder "struct NotificationAmount"
    (.cons (.required "value" .int64)
    (.cons (.required "currency" .string) .nil))).map
    fun (units, currency, ()) => ⟨Int64.ofInt units, currency⟩

def json (a : MinorAmount) : Value :=
  .ofPairs [("value", .ofInt a.units.toInt), ("currency", .string a.currency)]

/-- The amount in whole units. -/
def decimal (a : MinorAmount) : Decimal := MinorUnits.toAmount a.units a.currency

end MinorAmount

namespace Item

/-! ### Reading and writing -/

/-- A text that counts as absent where it is blank. -/
def optionalText : Decoder (Option String) :=
  (Decoder.optional .string).map fun s => s.filter fun s => !Text.allBlank s

/-- A truth value, or the word for one in either case. -/
def flagOf : Value → Except Cause Bool
  | .bool b => .ok b
  | .string s =>
    if Text.sameLetters s "true" then .ok true
    else if Text.sameLetters s "false" then .ok false
    else .error (.other ("invalid success flag '" ++ s ++ "'"))
  | _ => .error (.other "data did not match any variant of untagged enum Flag")

def flag : Decoder Bool := Decoder.tree.refine flagOf

def decoder : Decoder Item :=
  (Record.decoder "struct NotificationItem"
    (.cons (.defaulted "pspReference" optionalText none)
    (.cons (.defaulted "originalReference" optionalText none)
    (.cons (.required "merchantAccountCode" .string)
    (.cons (.defaulted "merchantReference" optionalText none)
    (.cons (.required "eventCode" EventCode.decoder)
    (.cons (.required "success" flag)
    (.cons (.defaulted "amount" (.optional MinorAmount.decoder) none)
    (.cons (.defaulted "reason" optionalText none)
    (.cons (.defaulted "paymentMethod" optionalText none)
    (.cons (.defaulted "eventDate" optionalText none)
    (.cons (.defaulted "additionalData" (.optional .object) none) .nil)))))))))))).map
    fun (reference, parent, account, merchantReference, code, success, amount, reason, method, date, data, ()) =>
      ⟨reference, parent, account, merchantReference, code, success, amount, reason, method, date, data⟩

def json (i : Item) : Value := .ofPairs [
  ("pspReference", .ofString? i.reference),
  ("originalReference", .ofString? i.parentReference),
  ("merchantAccountCode", .string i.merchantAccount),
  ("merchantReference", .ofString? i.merchantReference),
  ("eventCode", i.eventCode.json),
  ("success", .bool i.success),
  ("amount", .ofOption MinorAmount.json i.amount),
  ("reason", .ofString? i.reason),
  ("paymentMethod", .ofString? i.paymentMethod),
  ("eventDate", .ofString? i.eventDate),
  ("additionalData", .ofOption .object i.additionalData)]

/-! ### Signature -/

/-- The key of the signature among the additional data. -/
def signatureKey : String := "hmacSignature"

/-- What is signed: eight fields divided by colons, absent ones empty. -/
def signedFields (i : Item) : List String := [
  i.reference.getD "",
  i.parentReference.getD "",
  i.merchantAccount,
  i.merchantReference.getD "",
  (i.amount.map fun a => intText a.units.toInt).getD "",
  (i.amount.map (·.currency)).getD "",
  i.eventCode.text,
  if i.success then "true" else "false"]

def signingPayload (i : Item) : String := ":".intercalate i.signedFields

/-- The signature that came with the item. -/
def signature? (i : Item) : Option String := do
  let data ← i.additionalData
  let v ← data.get? signatureKey
  let s ← v.asString?
  if s.isEmpty then none else some s

/-! ### Amount and audit -/

/-- The amount in whole units. -/
def decimal? (i : Item) : Option Decimal := i.amount.map MinorAmount.decimal

def currency? (i : Item) : Option String := i.amount.map (·.currency)

/-- The additional data without the signature, as it is stored and passed on. -/
def unsignedData (i : Item) : Option Value := i.additionalData.map fun data => .object (data.erase signatureKey)

/-- The audit entry of an item that has not been matched. -/
def audit (i : Item) : AuditEntry :=
  { AuditEntry.blank with
    success := i.success
    eventCode := i.eventCode.text
    merchantAccount := i.merchantAccount
    merchantReference := i.merchantReference
    parentReference := i.parentReference
    reason := i.reason
    reference := i.reference
    amount := i.decimal?
    currency := i.currency?
    additionalData := i.unsignedData }

end Item
end Reconciliation.Notification
