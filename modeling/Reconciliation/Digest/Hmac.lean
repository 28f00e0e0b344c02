import Reconciliation.Digest.Sha256

/-!
# Keyed digests

The keyed digest of a message is the digest of an outer key and of the digest of an inner key and the message.
Both keys are the given one, filled up to a block, with each byte changed by a constant.

* `Hmac.digest` is the keyed digest; it has 32 bytes.
-/

namespace Reconciliation.Digest.Hmac

open Sha256 (Bytes)

/-- The number of bytes of a block. -/
def blockSize : Nat := 64

/-- A key of one block: a longer key gives way to its digest, a shorter one is filled with zeros. -/
def blockKey (key : Bytes) : Bytes :=
  let short := if key.length > blockSize then Sha256.digest key else key
  short ++ List.replicate (blockSize - short.length) 0

def digest (key message : Bytes) : Bytes :=
  let k := blockKey key
  Sha256.digest (k.map (· ^^^ 0x5c) ++ Sha256.digest (k.map (· ^^^ 0x36) ++ message))

end Reconciliation.Digest.Hmac
