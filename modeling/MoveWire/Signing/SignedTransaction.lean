import MoveWire.Signing.KeyPair

/-!
Transactions with the signatures over them. One is valid when it has a signature from its sender
and every signature, the sender's or not, is one of its intent message.
-/

namespace MoveWire

structure SignedTransaction where
  message : IntentMessage TransactionData
  signatures : List Signature
  deriving DecidableEq

namespace SignedTransaction

def ofSignatures (data : TransactionData) (signatures : List Signature) : SignedTransaction :=
  ⟨⟨.transaction, data⟩, signatures⟩

def data (t : SignedTransaction) : TransactionData := t.message.value

def digest (t : SignedTransaction) : Fallible TransactionDigest := t.data.digest

def codec : Codec SignedTransaction :=
  ((IntentMessage.codec TransactionData.codec).pair Signature.codec.vector).map
    (fun (message, signatures) => ⟨message, signatures⟩) fun t => (t.message, t.signatures)

/-- Transaction bytes and signatures as text, the way they are handed in for execution. -/
def executionTexts (t : SignedTransaction) : Fallible (String × List String) := do
  return (← TransactionData.codec.toBase64 t.data, t.signatures.map Signature.text)

def toJson (t : SignedTransaction) : Json := .record [
  ("intent_message", t.message.toJson TransactionData.toJson),
  ("tx_signatures", .array (t.signatures.map Signature.toJson))]

variable (suite : Suite)

def sign (data : TransactionData) (key : KeyPair) : Signed SignedTransaction := do
  return ofSignatures data [← key.signTransaction suite data]

def verify (t : SignedTransaction) : Signed Unit := do
  if t.signatures.isEmpty then throw (.verification .noSignatures)
  let sender := t.data.sender
  if !t.signatures.any fun s => s.signer suite == sender then
    throw (.verification (.noSender sender))
  let bytes ← ((IntentMessage.codec TransactionData.codec).encode t.message).toSigned
  let hash := suite.hash bytes
  t.signatures.forM fun s => s.verifyRaw suite hash.bytes

end SignedTransaction

end MoveWire
