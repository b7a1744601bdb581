import MoveWire.Signing.Intent
import MoveWire.Signing.Suite
import MoveWire.Transaction.Data

/-!
Signatures with the public key that they claim to be made by. The byte form is the flag, the
signature and the key; a signature is checked against its own key and, where there is one, against
the address that should have signed.
-/

namespace MoveWire

structure Signature where
  signature : FixedBytes 64
  publicKey : FixedBytes 32
  deriving DecidableEq

namespace Signature

def bytes (s : Signature) : Bytes := Suite.flag :: s.signature.bytes ++ s.publicKey.bytes

def ofBytes (bytes : Bytes) : Signed Signature :=
  if h : bytes.length = 97 then
    let flag := bytes.headD 0
    if flag = Suite.flag then .ok
      ⟨⟨(bytes.drop 1).take 64, by simp [h]⟩, ⟨bytes.drop 65, by simp [h]⟩⟩
    else .error (.signature (.unknownFlag flag))
  else .error (.signature (.length bytes.length))

def parse (text : String) : Signed Signature :=
  match Bytes.ofBase64 text "signature" with
  | .ok bytes => ofBytes bytes
  | .error e => .error (.signature (.text e))

def text (s : Signature) : String := Bytes.toBase64 s.bytes

def debugText (s : Signature) : String := "Signature(" ++ s.text ++ ")"

def codec : Codec Signature where
  write s := Writer.bytes s.bytes
  read := do
    match ofBytes (← Reader.bytes) with
    | .ok s => pure s
    | .error e => throw (.invalid (.signature e.message))

def toJson (s : Signature) : Json := .string s.text

variable (suite : Suite)

/-- The address of the key in the signature. -/
def signer (s : Signature) : Address := suite.address s.publicKey

/-- Is this a signature of the message by its own key? -/
def verifyRaw (s : Signature) (message : Bytes) : Signed Unit :=
  if !suite.isPublicKey s.publicKey then .error (.signature .publicKey)
  else if suite.verify s.publicKey message s.signature then .ok ()
  else .error (.verification .mismatch)

/-- Is this a signature of a payload under its intent, by the account of this address? -/
def verifyIntent {α : Type} (c : Codec α) (s : Signature) (m : IntentMessage α)
    (author : Address) : Signed Unit :=
  if s.signer suite ≠ author then .error (.verification (.wrongSigner (s.signer suite) author))
  else do
    let bytes ← ((IntentMessage.codec c).encode m).toSigned
    s.verifyRaw suite (suite.hash bytes).bytes

def verifyTransaction (s : Signature) (data : TransactionData) : Signed Unit :=
  s.verifyIntent suite TransactionData.codec ⟨.transaction, data⟩ data.sender

def verifyPersonal (s : Signature) (message : Bytes) (author : Address) : Signed Unit :=
  s.verifyIntent suite PersonalMessage.codec ⟨.personalMessage, ⟨message⟩⟩ author

end Signature

end MoveWire
