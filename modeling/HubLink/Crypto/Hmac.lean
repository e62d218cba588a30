import HubLink.Crypto.Sha256

/-! # HMAC with SHA-256

A keyed digest: the key, brought to the length of a block, is mixed into an inner and an outer
digest. -/

namespace HubLink.Crypto.Hmac

/-- A key of exactly one block: longer keys are digested first, shorter ones filled with zeros. -/
def blockKey (key : List UInt8) : List UInt8 :=
  let short := if key.length ≤ 64 then key else Sha256.digest key
  short ++ List.replicate (64 - short.length) 0

/-- The authentication code of a message under a key. -/
def sha256 (key message : List UInt8) : List UInt8 :=
  let k := blockKey key
  let inner := Sha256.digest (k.map (· ^^^ 0x36) ++ message)
  Sha256.digest (k.map (· ^^^ 0x5c) ++ inner)

end HubLink.Crypto.Hmac
