import Reconciliation.Digest.Hmac
import Reconciliation.Encoding.Base64
import Reconciliation.Encoding.Hex
import Reconciliation.Text.Blank
import Reconciliation.Text.Utf8

/-!
# Signatures

A signature is the keyed digest of a payload in base 64. Keys are written in hexadecimal digits; blanks around keys
and signatures do not matter.

* `Signature.sign` makes a signature, `Signature.verify` checks one.
-/

namespace Reconciliation.Notification.Signature

open Encoding Text

/-- The bytes of a key. -/
def key? (secret : String) : Option (List UInt8) := Hex.decode? (trim secret).toList

/-- The digest that is to be signed with. -/
def digest (key : List UInt8) (payload : String) : List UInt8 := Digest.Hmac.digest key (Utf8.encode payload)

/-- The signature of a payload, if the key can be read. -/
def sign (secret payload : String) : Option String :=
  (key? secret).map fun key => String.ofList (Base64.encode (digest key payload))

/-- Whether a signature belongs to a payload. A key or signature that can not be read verifies nothing. -/
def verify (secret payload signature : String) : Bool :=
  match key? secret, Base64.decode? (trim signature).toList with
  | some key, some given => given == digest key payload
  | _, _ => false

end Reconciliation.Notification.Signature
