import Reconciliation.Failure
import Reconciliation.Notification.Item

/-!
# Batches of notifications

The gateway delivers items in batches. Each item is read by itself, so that one that can not be read does not hide
the others.

* `Batch.parse` reads a delivery.
-/

namespace Reconciliation.Notification

open Json Number

/-- The answer to every delivery. -/
def acknowledgement : String := "[accepted]"

structure Batch where
  live : Bool
  items : List Item
  /-- What was wrong with the items that could not be read. -/
  malformed : List String
  deriving Repr, DecidableEq

namespace Batch

/-- What a batch comes in: whether it is live, and its items. -/
def envelope : Decoder (Option Value × List Value) :=
  (Record.decoder "struct Envelope"
    (.cons (.defaulted "live" (.optional .any) none)
    (.cons (.required "notificationItems" (.list .any)) .nil))).map
    fun (live, items, ()) => (live, items)

/-- Whether a batch is live: a truth value or the word for one; anything else is not. -/
def isLive : Option Value → Bool
  | some (.bool b) => b
  | some (.string s) => Text.sameLetters s "true"
  | _ => false

/-- The key under which an item may be wrapped. -/
def wrapper : String := "NotificationRequestItem"

/-- An item, wrapped or not. -/
def item (raw : Value) : Except Cause Item := Item.decoder.ofValue ((raw.get? wrapper).getD raw)

/-- The items that can be read and what is wrong with the others; the first is number `index`. -/
def sort : (index : Nat) → List Value → List Item × List String
  | _, [] => ([], [])
  | index, raw :: rest =>
    let (items, malformed) := sort (index + 1) rest
    match item raw with
    | .ok i => (i :: items, malformed)
    | .error c => (items, ("item " ++ digitsText index ++ ": " ++ c.message) :: malformed)

/-- Reads a delivery. -/
def parse (body : Text.Utf8.Bytes) : Except Failure Batch :=
  match envelope.parse body with
  | .error f => .error (.validation ("malformed notification envelope: " ++ f.located body))
  | .ok (live, raw) =>
    let (items, malformed) := sort 0 raw
    .ok ⟨isLive live, items, malformed⟩

end Batch
end Reconciliation.Notification
