import MoveWire.Signing.Signature

/-!
Secret keys: their texts, their addresses, and the signatures made with them. A payload is signed
as the hash of its intent message.
-/

namespace MoveWire

structure KeyPair where
  secret : FixedBytes 32
  deriving DecidableEq

namespace KeyPair

def ofSecret (secret : Bytes) : Signed KeyPair :=
  match FixedBytes.ofBytes? 32 secret with
  | some secret => .ok ⟨secret⟩
  | none => .error (.key (.secretLength secret.length))

def parseHex (text : String) : Signed KeyPair :=
  match Bytes.ofHex text "secret key" with
  | .ok bytes => ofSecret bytes
  | .error e => .error (.key (.text e))

/-- Reads an entry of a key store: Base64 text of the flag and the secret. -/
def parseEntry (text : String) : Signed KeyPair :=
  match Bytes.ofBase64 text "keystore entry" with
  | .error e => .error (.key (.text e))
  | .ok [] => .error (.key .emptyEntry)
  | .ok (flag :: secret) =>
    if flag = Suite.flag then ofSecret secret else .error (.key (.unknownFlag flag))

def secretText (k : KeyPair) : String := Bytes.toHex k.secret.bytes

def entryText (k : KeyPair) : String := Bytes.toBase64 (Suite.flag :: k.secret.bytes)

variable (suite : Suite)

def publicKey (k : KeyPair) : FixedBytes 32 := suite.publicKey k.secret

def address (k : KeyPair) : Address := suite.address (k.publicKey suite)

def debugText (k : KeyPair) : String :=
  "SuiKeyPair \x7b address: " ++ (k.address suite).debugText ++ ", .. \x7d"

def signRaw (k : KeyPair) (message : Bytes) : Signature :=
  ⟨suite.sign k.secret message, k.publicKey suite⟩

def signIntent {α : Type} (c : Codec α) (k : KeyPair) (m : IntentMessage α) : Signed Signature := do
  let bytes ← ((IntentMessage.codec c).encode m).toSigned
  return k.signRaw suite (suite.hash bytes).bytes

def signTransaction (k : KeyPair) (data : TransactionData) : Signed Signature :=
  k.signIntent suite TransactionData.codec ⟨.transaction, data⟩

def signPersonal (k : KeyPair) (message : Bytes) : Signed Signature :=
  k.signIntent suite PersonalMessage.codec ⟨.personalMessage, ⟨message⟩⟩

end KeyPair

end MoveWire
