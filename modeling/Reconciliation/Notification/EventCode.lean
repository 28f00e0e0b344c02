import Reconciliation.Json.Decoder

/-!
# Event codes

The gateway names each event by a code. Thirteen codes are known; any other is kept as it came.

* `EventCode.ofText` and `EventCode.text` convert; `EventCode.isInformational` tells the events that never move
  anything.
-/

namespace Reconciliation.Notification

inductive EventCode where
  | authorisation
  | capture
  | captureFailed
  | cancellation
  | refund
  | refundFailed
  | refundedReversed
  | chargeback
  | chargebackReversed
  | notificationOfChargeback
  | requestForInformation
  | reportAvailable
  | notificationTest
  /-- A code that is not known. -/
  | other (code : String)
  deriving Repr, DecidableEq, Inhabited

namespace EventCode

/-- The known codes. -/
def known : List EventCode := [
  .authorisation, .capture, .captureFailed, .cancellation, .refund, .refundFailed, .refundedReversed, .chargeback,
  .chargebackReversed, .notificationOfChargeback, .requestForInformation, .reportAvailable, .notificationTest]

def text : EventCode → String
  | .authorisation => "AUTHORISATION"
  | .capture => "CAPTURE"
  | .captureFailed => "CAPTURE_FAILED"
  | .cancellation => "CANCELLATION"
  | .refund => "REFUND"
  | .refundFailed => "REFUND_FAILED"
  | .refundedReversed => "REFUNDED_REVERSED"
  | .chargeback => "CHARGEBACK"
  | .chargebackReversed => "CHARGEBACK_REVERSED"
  | .notificationOfChargeback => "NOTIFICATION_OF_CHARGEBACK"
  | .requestForInformation => "REQUEST_FOR_INFORMATION"
  | .reportAvailable => "REPORT_AVAILABLE"
  | .notificationTest => "NOTIFICATIONTEST"
  | .other code => code

/-- The event of a code. -/
def ofText (code : String) : EventCode := (known.find? (·.text == code)).getD (.other code)

/-- Events that are recorded and never move a transaction. -/
def isInformational : EventCode → Bool
  | .notificationOfChargeback | .requestForInformation | .reportAvailable | .notificationTest => true
  | _ => false

def decoder : Json.Decoder EventCode := Json.Decoder.string.map ofText

def json (e : EventCode) : Json.Value := .string e.text

theorem text_ofText (code : String) : (ofText code).text = code := by
  unfold ofText
  cases h : known.find? (·.text == code) with
  | none => rfl
  | some e => simpa using List.find?_some h

end EventCode
end Reconciliation.Notification
