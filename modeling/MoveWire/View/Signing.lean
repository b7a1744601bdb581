import MoveWire.Signing.SignedTransaction
import MoveWire.View.Transaction

/-!
Reading signatures, intents and signed transactions from their views. An intent is read from its
three bytes, not from their names.
-/

namespace MoveWire

def Signature.ofJson : ViewReader Signature := fun json => do
  View.ofSigned (Signature.parse (← View.text json))

def Intent.ofJson (rules : ViewRules) : ViewReader Intent := fun json => do
  match ← View.list (View.u8 rules) json with
  | [scope, version, appId] => View.ofFallible (Intent.ofBytes scope version appId)
  | _ => View.shape

def PersonalMessage.ofJson (rules : ViewRules) : ViewReader PersonalMessage := fun json =>
  PersonalMessage.mk <$> View.field "message" (View.list (View.u8 rules)) json

def IntentMessage.ofJson {α : Type} (rules : ViewRules) (payload : ViewReader α) :
    ViewReader (IntentMessage α) := fun json => do
  let intent ← View.field "intent" (Intent.ofJson rules) json
  return ⟨intent, ← View.field "value" payload json⟩

def SignedTransaction.ofJson (rules : ViewRules) : ViewReader SignedTransaction := fun json => do
  let message ← View.field "intent_message"
    (IntentMessage.ofJson rules (TransactionData.ofJson rules)) json
  return ⟨message, ← View.field "tx_signatures" (View.list Signature.ofJson) json⟩

end MoveWire
