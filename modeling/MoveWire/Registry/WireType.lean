import MoveWire.Json.Printer
import MoveWire.View.Effects
import MoveWire.View.Signing

/-!
The types that values on the wire have, each with its values, its codec and its view. A byte
string in a view is an array of numbers, bytes of fixed length are hexadecimal text, and what an
option holds stands in an object, so that options of options stay apart.
-/

namespace MoveWire

inductive WireType where
  | bool
  | u8
  | u16
  | u32
  | u64
  | u128
  | u256
  | string
  | fixed (n : Nat)
  | vector (item : WireType)
  | option (item : WireType)
  | pair (first second : WireType)
  | boxed (item : WireType)
  | address
  | digest (kind : DigestKind)
  | typeTag
  | structTag
  | objectRef
  | sharedObjectRef
  | owner
  | argument
  | objectArg
  | callArg
  | moveCall
  | command
  | programmableTransaction
  | transactionKind
  | gasData
  | expiration
  | transactionDataV1
  | transactionData
  | gasCost
  | executionStatus
  | effectsV1
  | effects
  | intent
  | transactionMessage
  | personalMessage
  | signature
  | signedTransaction
  deriving DecidableEq

namespace WireType

abbrev Value : WireType → Type
  | .bool => Bool
  | .u8 => UInt8
  | .u16 => UInt16
  | .u32 => UInt32
  | .u64 => UInt64
  | .u128 => U128
  | .u256 => U256
  | .string => String
  | .fixed n => FixedBytes n
  | .vector item => List item.Value
  | .option item => Option item.Value
  | .pair first second => first.Value × second.Value
  | .boxed item => item.Value
  | .address => Address
  | .digest kind => Digest kind
  | .typeTag => TypeTag
  | .structTag => StructTag
  | .objectRef => ObjectRef
  | .sharedObjectRef => SharedObjectRef
  | .owner => Owner
  | .argument => Argument
  | .objectArg => ObjectArg
  | .callArg => CallArg
  | .moveCall => MoveCall
  | .command => Command
  | .programmableTransaction => ProgrammableTransaction
  | .transactionKind => TransactionKind
  | .gasData => GasData
  | .expiration => Expiration
  | .transactionDataV1 => TransactionDataV1
  | .transactionData => TransactionData
  | .gasCost => GasCost
  | .executionStatus => ExecutionStatus
  | .effectsV1 => EffectsV1
  | .effects => Effects
  | .intent => Intent
  | .transactionMessage => IntentMessage TransactionData
  | .personalMessage => PersonalMessage
  | .signature => Signature
  | .signedTransaction => SignedTransaction

def codec : (type : WireType) → Codec type.Value
  | .bool => Codec.bool
  | .u8 => Codec.u8
  | .u16 => Codec.u16
  | .u32 => Codec.u32
  | .u64 => Codec.u64
  | .u128 => Codec.u128
  | .u256 => Codec.u256
  | .string => Codec.string
  | .fixed n => Codec.fixed n
  | .vector item => item.codec.vector
  | .option item => item.codec.option
  | .pair first second => first.codec.pair second.codec
  | .boxed item => item.codec
  | .address => Address.codec
  | .digest _ => Digest.codec
  | .typeTag => TypeTag.codec
  | .structTag => StructTag.codec
  | .objectRef => ObjectRef.codec
  | .sharedObjectRef => SharedObjectRef.codec
  | .owner => Owner.codec
  | .argument => Argument.codec
  | .objectArg => ObjectArg.codec
  | .callArg => CallArg.codec
  | .moveCall => MoveCall.codec
  | .command => Command.codec
  | .programmableTransaction => ProgrammableTransaction.codec
  | .transactionKind => TransactionKind.codec
  | .gasData => GasData.codec
  | .expiration => Expiration.codec
  | .transactionDataV1 => TransactionDataV1.codec
  | .transactionData => TransactionData.codec
  | .gasCost => GasCost.codec
  | .executionStatus => ExecutionStatus.codec
  | .effectsV1 => EffectsV1.codec
  | .effects => Effects.codec
  | .intent => Intent.codec
  | .transactionMessage => IntentMessage.codec TransactionData.codec
  | .personalMessage => PersonalMessage.codec
  | .signature => Signature.codec
  | .signedTransaction => SignedTransaction.codec

def toJson : (type : WireType) → type.Value → Json
  | .bool, v => .bool v
  | .u8, v => .ofNat v.toNat
  | .u16, v => .ofNat v.toNat
  | .u32, v => .ofNat v.toNat
  | .u64, v => .ofNat v.toNat
  | .u128, v => .string (toString v.toNat)
  | .u256, v => .string (toString v.toNat)
  | .string, v => .string v
  | .fixed _, v => .string (Bytes.toHex v.bytes)
  | .vector item, v => .array (v.map item.toJson)
  | .option item, v => .option (fun a => .record [("some", item.toJson a)]) v
  | .pair first second, v => .array [first.toJson v.1, second.toJson v.2]
  | .boxed item, v => item.toJson v
  | .address, v => v.toJson
  | .digest _, v => v.toJson
  | .typeTag, v => v.toJson
  | .structTag, v => v.toTypeTag.toJson
  | .objectRef, v => v.toJson
  | .sharedObjectRef, v => v.toJson
  | .owner, v => v.toJson
  | .argument, v => v.toJson
  | .objectArg, v => v.toJson
  | .callArg, v => v.toJson
  | .moveCall, v => v.toJson
  | .command, v => v.toJson
  | .programmableTransaction, v => v.toJson
  | .transactionKind, v => v.toJson
  | .gasData, v => v.toJson
  | .expiration, v => v.toJson
  | .transactionDataV1, v => v.toJson
  | .transactionData, v => v.toJson
  | .gasCost, v => v.toJson
  | .executionStatus, v => v.toJson
  | .effectsV1, v => v.toJson
  | .effects, v => v.toJson
  | .intent, v => v.toJson
  | .transactionMessage, v => v.toJson TransactionData.toJson
  | .personalMessage, v => v.toJson
  | .signature, v => v.toJson
  | .signedTransaction, v => v.toJson

def fixedOfJson (n : Nat) : ViewReader (FixedBytes n) := fun json => do
  View.required (FixedBytes.ofBytes? n (← View.parsed (Bytes.ofHex · "bytes") json))

def ofJson (rules : ViewRules) : (type : WireType) → ViewReader type.Value
  | .bool => View.bool
  | .u8 => View.u8 rules
  | .u16 => View.u16 rules
  | .u32 => View.u32 rules
  | .u64 => View.u64 rules
  | .u128 => View.u128 rules
  | .u256 => View.u256 rules
  | .string => View.text
  | .fixed n => fixedOfJson n
  | .vector item => View.list (item.ofJson rules)
  | .option item => View.nullable (View.field "some" (item.ofJson rules))
  | .pair first second => View.pair (first.ofJson rules) (second.ofJson rules)
  | .boxed item => item.ofJson rules
  | .address => View.address rules
  | .digest _ => Digest.ofJson
  | .typeTag => TypeTag.ofJson
  | .structTag => View.parsed StructTag.parse
  | .objectRef => ObjectRef.ofJson rules
  | .sharedObjectRef => SharedObjectRef.ofJson rules
  | .owner => Owner.ofJson rules
  | .argument => Argument.ofJson rules
  | .objectArg => ObjectArg.ofJson rules
  | .callArg => CallArg.ofJson rules
  | .moveCall => MoveCall.ofJson rules
  | .command => Command.ofJson rules
  | .programmableTransaction => ProgrammableTransaction.ofJson rules
  | .transactionKind => TransactionKind.ofJson rules
  | .gasData => GasData.ofJson rules
  | .expiration => Expiration.ofJson rules
  | .transactionDataV1 => TransactionDataV1.ofJson rules
  | .transactionData => TransactionData.ofJson rules
  | .gasCost => GasCost.ofJson rules
  | .executionStatus => ExecutionStatus.ofJson
  | .effectsV1 => EffectsV1.ofJson rules
  | .effects => Effects.ofJson rules
  | .intent => Intent.ofJson rules
  | .transactionMessage => IntentMessage.ofJson rules (TransactionData.ofJson rules)
  | .personalMessage => PersonalMessage.ofJson rules
  | .signature => Signature.ofJson
  | .signedTransaction => SignedTransaction.ofJson rules

/-- The full name of a type in refusals. -/
def label : WireType → String
  | .bool => "bool"
  | .u8 => "u8"
  | .u16 => "u16"
  | .u32 => "u32"
  | .u64 => "u64"
  | .u128 => "u128"
  | .u256 => "sui_txkit_bcs::u256::U256"
  | .string => "alloc::string::String"
  | .fixed n => s!"[u8; {n}]"
  | .vector item => "alloc::vec::Vec<" ++ item.label ++ ">"
  | .option item => "core::option::Option<" ++ item.label ++ ">"
  | .pair first second => "(" ++ first.label ++ ", " ++ second.label ++ ")"
  | .boxed item => "alloc::boxed::Box<" ++ item.label ++ ">"
  | .address => "sui_txkit_types::address::SuiAddress"
  | .digest kind => "sui_txkit_types::digests::" ++ kind.typeName
  | .typeTag => "sui_txkit_types::type_tag::TypeTag"
  | .structTag => "sui_txkit_types::type_tag::StructTag"
  | .objectRef => "sui_txkit_types::object::ObjectRef"
  | .sharedObjectRef => "sui_txkit_types::object::SharedObjectRef"
  | .owner => "sui_txkit_types::object::Owner"
  | .argument => "sui_txkit_types::transaction::Argument"
  | .objectArg => "sui_txkit_types::transaction::ObjectArg"
  | .callArg => "sui_txkit_types::transaction::CallArg"
  | .moveCall => "sui_txkit_types::transaction::ProgrammableMoveCall"
  | .command => "sui_txkit_types::transaction::Command"
  | .programmableTransaction => "sui_txkit_types::transaction::ProgrammableTransaction"
  | .transactionKind => "sui_txkit_types::transaction::TransactionKind"
  | .gasData => "sui_txkit_types::transaction::GasData"
  | .expiration => "sui_txkit_types::transaction::TransactionExpiration"
  | .transactionDataV1 => "sui_txkit_types::transaction::TransactionDataV1"
  | .transactionData => "sui_txkit_types::transaction::TransactionData"
  | .gasCost => "sui_txkit_types::effects::GasCostSummary"
  | .executionStatus => "sui_txkit_types::effects::ExecutionStatus"
  | .effectsV1 => "sui_txkit_types::effects::TransactionEffectsV1"
  | .effects => "sui_txkit_types::effects::TransactionEffects"
  | .intent => "sui_txkit_types::intent::Intent"
  | .transactionMessage =>
    "sui_txkit_types::intent::IntentMessage<sui_txkit_types::transaction::TransactionData>"
  | .personalMessage => "sui_txkit_types::intent::PersonalMessage"
  | .signature => "sui_txkit_types::crypto::Signature"
  | .signedTransaction => "sui_txkit_types::crypto::SignedTransaction"

/-- Types of the numbers and byte strings, by the names that they are registered under. -/
def primitives : List (String × WireType) := [
  ("bool", .bool), ("u8", .u8), ("u16", .u16), ("u32", .u32), ("u64", .u64), ("u128", .u128),
  ("u256", .u256), ("string", .string), ("vector<u8>", .vector .u8)]

/-- Types of transactions and all that they hold, by the names that they are registered under. -/
def domain : List (String × WireType) := [
  ("SuiAddress", .address),
  ("ObjectID", .address),
  ("ObjectDigest", .digest .object),
  ("TransactionDigest", .digest .transaction),
  ("TransactionEffectsDigest", .digest .effects),
  ("TypeTag", .typeTag),
  ("StructTag", .structTag),
  ("vector<TypeTag>", .vector .typeTag),
  ("ObjectRef", .objectRef),
  ("vector<ObjectRef>", .vector .objectRef),
  ("SharedObjectRef", .sharedObjectRef),
  ("Owner", .owner),
  ("Argument", .argument),
  ("vector<Argument>", .vector .argument),
  ("ObjectArg", .objectArg),
  ("CallArg", .callArg),
  ("vector<CallArg>", .vector .callArg),
  ("ProgrammableMoveCall", .moveCall),
  ("Command", .command),
  ("vector<Command>", .vector .command),
  ("ProgrammableTransaction", .programmableTransaction),
  ("TransactionKind", .transactionKind),
  ("GasData", .gasData),
  ("TransactionExpiration", .expiration),
  ("TransactionDataV1", .transactionDataV1),
  ("TransactionData", .transactionData),
  ("GasCostSummary", .gasCost),
  ("ExecutionStatus", .executionStatus),
  ("TransactionEffectsV1", .effectsV1),
  ("TransactionEffects", .effects),
  ("Intent", .intent),
  ("IntentMessage<TransactionData>", .transactionMessage),
  ("Signature", .signature),
  ("SignedTransaction", .signedTransaction)]

end WireType

end MoveWire
