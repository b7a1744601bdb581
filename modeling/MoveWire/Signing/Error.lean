import MoveWire.Address

/-!
Everything that can go wrong with keys and signatures, and the one wording of each.
-/

namespace MoveWire

inductive KeyCause where
  | secretLength (found : Nat)
  | text (error : WireError)
  | emptyEntry
  | unknownFlag (flag : UInt8)
  deriving DecidableEq

inductive SignatureCause where
  | length (found : Nat)
  | text (error : WireError)
  | unknownFlag (flag : UInt8)
  | publicKey
  deriving DecidableEq

inductive VerificationCause where
  | wrongSigner (signer expected : Address)
  | noSignatures
  | noSender (sender : Address)
  | mismatch
  deriving DecidableEq

inductive SigningError where
  | key (cause : KeyCause)
  | signature (cause : SignatureCause)
  | verification (cause : VerificationCause)
  | wire (error : WireError)
  deriving DecidableEq

def flagText (flag : UInt8) : String := Bytes.toMarkedHex [flag]

def KeyCause.message : KeyCause → String
  | .secretLength found => s!"secret key must be 32 bytes, got {found}"
  | .text error => error.message
  | .emptyEntry => "empty keystore entry"
  | .unknownFlag flag => s!"unsupported key flag {flagText flag}"

def SignatureCause.message : SignatureCause → String
  | .length found => s!"expected 97 bytes, got {found}"
  | .text error => error.message
  | .unknownFlag flag => s!"unsupported signature scheme flag {flagText flag}"
  | .publicKey => s!"bad public key: {invalidValueText}"

def VerificationCause.message : VerificationCause → String
  | .wrongSigner signer expected => s!"signature is from {signer.text}, expected {expected.text}"
  | .noSignatures => "no signatures"
  | .noSender sender => s!"no signature from sender {sender.text}"
  | .mismatch => "Invalid signature was given to the function"

namespace SigningError

def kind : SigningError → String
  | .key _ => "InvalidKey"
  | .signature _ => "InvalidSignature"
  | .verification _ => "Verification"
  | .wire error => error.kind

def message : SigningError → String
  | .key cause => s!"invalid key: {cause.message}"
  | .signature cause => s!"invalid signature: {cause.message}"
  | .verification cause => s!"signature verification failed: {cause.message}"
  | .wire error => error.message

/-- The error of bytes or values that the failure comes from, if it comes from one. -/
def wire? : SigningError → Option WireError
  | .wire error => some error
  | _ => none

end SigningError

abbrev Signed := Except SigningError

def Fallible.toSigned {α : Type} : Fallible α → Signed α
  | .ok a => .ok a
  | .error e => .error (.wire e)

end MoveWire
