import MoveWire.Json.Value
import MoveWire.Wire.Codec

/-!
Intents: what a signature is for. What is signed is an intent of three bytes in front of the
payload, so that a signature made for one purpose does not hold for another.
-/

namespace MoveWire

inductive IntentScope where
  | transactionData
  | transactionEffects
  | checkpointSummary
  | personalMessage
  | senderSignedTransaction
  | proofOfPossession
  | headerDigest
  | bridgeEventUnused
  | consensusBlock
  | discoveryPeers
  deriving DecidableEq, Repr

inductive IntentVersion where
  | v0
  deriving DecidableEq, Repr

inductive AppId where
  | sui
  | narwhal
  | consensus
  deriving DecidableEq, Repr

structure Intent where
  scope : IntentScope
  version : IntentVersion
  appId : AppId
  deriving DecidableEq, Repr

/-- A payload under its intent. -/
structure IntentMessage (α : Type) where
  intent : Intent
  value : α
  deriving DecidableEq

structure PersonalMessage where
  message : Bytes
  deriving DecidableEq

namespace IntentScope

/-- All scopes, each at the place of its byte. -/
def all : List IntentScope := [.transactionData, .transactionEffects, .checkpointSummary,
  .personalMessage, .senderSignedTransaction, .proofOfPossession, .headerDigest,
  .bridgeEventUnused, .consensusBlock, .discoveryPeers]

def codec : Codec IntentScope := .union .one "IntentScope" (all.map Variant.constant)

def name : IntentScope → String
  | .transactionData => "TransactionData"
  | .transactionEffects => "TransactionEffects"
  | .checkpointSummary => "CheckpointSummary"
  | .personalMessage => "PersonalMessage"
  | .senderSignedTransaction => "SenderSignedTransaction"
  | .proofOfPossession => "ProofOfPossession"
  | .headerDigest => "HeaderDigest"
  | .bridgeEventUnused => "BridgeEventUnused"
  | .consensusBlock => "ConsensusBlock"
  | .discoveryPeers => "DiscoveryPeers"

end IntentScope

def IntentVersion.codec : Codec IntentVersion := .union .one "IntentVersion" [.constant .v0]

namespace AppId

def codec : Codec AppId :=
  .union .one "AppId" [.constant .sui, .constant .narwhal, .constant .consensus]

def name : AppId → String
  | .sui => "Sui"
  | .narwhal => "Narwhal"
  | .consensus => "Consensus"

end AppId

namespace Intent

def ofScope (scope : IntentScope) : Intent := ⟨scope, .v0, .sui⟩

def transaction : Intent := ofScope .transactionData

def personalMessage : Intent := ofScope .personalMessage

def codec : Codec Intent :=
  (IntentScope.codec.pair (IntentVersion.codec.pair AppId.codec)).map
    (fun (scope, version, appId) => ⟨scope, version, appId⟩)
    fun i => (i.scope, i.version, i.appId)

/-- The intent of three bytes; the first of them that is unknown is refused. -/
def ofBytes (scope version appId : UInt8) : Fallible Intent := codec.decode [scope, version, appId]

def toJson (i : Intent) : Json := .record [
  ("scope", .string i.scope.name),
  ("version", .string "V0"),
  ("app_id", .string i.appId.name)]

end Intent

namespace IntentMessage

variable {α : Type}

def codec (c : Codec α) : Codec (IntentMessage α) :=
  (Intent.codec.pair c).map (fun (intent, value) => ⟨intent, value⟩) fun m => (m.intent, m.value)

def toJson (view : α → Json) (m : IntentMessage α) : Json := .record [
  ("intent", m.intent.toJson),
  ("value", view m.value)]

end IntentMessage

namespace PersonalMessage

def codec : Codec PersonalMessage := Codec.bytes.map PersonalMessage.mk PersonalMessage.message

def toJson (m : PersonalMessage) : Json := .record [
  ("message", .array (m.message.map fun b => .ofNat b.toNat))]

end PersonalMessage

end MoveWire
