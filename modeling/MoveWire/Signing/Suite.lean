import MoveWire.Hash.Blake2b
import MoveWire.Signing.Ed25519
import MoveWire.Signing.Error

/-!
What signing is built from: a hash function, and a signature scheme on hashed messages. Everything
about keys and signatures is stated for any such suite; `standard` is the one in use.
-/

namespace MoveWire

structure Suite where
  hash : Bytes → FixedBytes 32
  publicKey : FixedBytes 32 → FixedBytes 32
  sign : FixedBytes 32 → Bytes → FixedBytes 64
  isPublicKey : FixedBytes 32 → Bool
  verify : FixedBytes 32 → Bytes → FixedBytes 64 → Bool

namespace Suite

def standard : Suite where
  hash := Hash.Blake2b.hash
  publicKey secret := Signing.Ed25519.publicKey secret.bytes
  sign secret message := Signing.Ed25519.sign secret.bytes message
  isPublicKey key := Signing.Ed25519.isPublicKey key.bytes
  verify key message signature := Signing.Ed25519.verify key.bytes message signature.bytes

/-- The flag of the scheme, in front of keys and signatures. -/
def flag : UInt8 := 0

/-- The address of a public key: the hash of the flag and the key. -/
def address (suite : Suite) (key : FixedBytes 32) : Address := ⟨suite.hash (flag :: key.bytes)⟩

end Suite

end MoveWire
