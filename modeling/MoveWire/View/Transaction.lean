import MoveWire.Move.TypeTag.Parser
import MoveWire.Transaction.Data
import MoveWire.View.Object

/-!
Reading transactions and their parts from their views.
-/

namespace MoveWire

def TypeTag.ofJson : ViewReader TypeTag := View.parsed TypeTag.parse

def Argument.ofJson (rules : ViewRules) : ViewReader Argument := fun json => do
  let (name, content) ← View.variant json
  match name with
  | "GasCoin" => View.constant .gasCoin content
  | "Input" => .input <$> View.u16 rules content
  | "Result" => .result <$> View.u16 rules content
  | "NestedResult" => do
    let (command, item) ← View.pair (View.u16 rules) (View.u16 rules) content
    return .nestedResult command item
  | _ => View.shape

def ObjectArg.ofJson (rules : ViewRules) : ViewReader ObjectArg := fun json => do
  let (name, content) ← View.variant json
  match name with
  | "ImmOrOwnedObject" => .owned <$> ObjectRef.ofJson rules content
  | "SharedObject" => .shared <$> SharedObjectRef.ofJson rules content
  | "Receiving" => .receiving <$> ObjectRef.ofJson rules content
  | _ => View.shape

def PureArg.ofJson : ViewReader PureArg := fun json => do
  let bytes ← View.field "bytes" (View.parsed (Bytes.ofBase64 · "bytes")) json
  let type ← View.field? "type" (View.nullable (View.parsed PureType.parse)) json
  return ⟨bytes, type.join⟩

def CallArg.ofJson (rules : ViewRules) : ViewReader CallArg := fun json => do
  let (name, content) ← View.variant json
  match name with
  | "Pure" => .pure <$> PureArg.ofJson content
  | "Object" => .object <$> ObjectArg.ofJson rules content
  | _ => View.shape

def MoveCall.ofJson (rules : ViewRules) : ViewReader MoveCall := fun json => do
  return {
    package := ← View.field "package" (View.address rules) json
    moduleName := ← View.field "module" View.text json
    function := ← View.field "function" View.text json
    typeArguments := ← View.field "type_arguments" (View.list TypeTag.ofJson) json
    arguments := ← View.field "arguments" (View.list (Argument.ofJson rules)) json }

namespace Command

def modulesOfJson (rules : ViewRules) : ViewReader (List Bytes) :=
  View.list (View.list (View.u8 rules))

def ofJson (rules : ViewRules) : ViewReader Command := fun json => do
  let (name, content) ← View.variant json
  let argument := Argument.ofJson rules
  let arguments := View.list argument
  let dependencies := View.list (View.address rules)
  match name, content with
  | "MoveCall", _ => .moveCall <$> MoveCall.ofJson rules content
  | "TransferObjects", .array [objects, recipient] =>
    return .transferObjects (← arguments objects) (← argument recipient)
  | "SplitCoins", .array [coin, amounts] =>
    return .splitCoins (← argument coin) (← arguments amounts)
  | "MergeCoins", .array [target, sources] =>
    return .mergeCoins (← argument target) (← arguments sources)
  | "Publish", .array [modules, packages] =>
    return .publish (← modulesOfJson rules modules) (← dependencies packages)
  | "MakeMoveVec", .array [item, items] =>
    return .makeMoveVec (← View.nullable TypeTag.ofJson item) (← arguments items)
  | "Upgrade", .array [modules, packages, package, ticket] =>
    return .upgrade (← modulesOfJson rules modules) (← dependencies packages)
      (← View.address rules package) (← argument ticket)
  | _, _ => View.shape

end Command

def ProgrammableTransaction.ofJson (rules : ViewRules) : ViewReader ProgrammableTransaction :=
  fun json => do
    let inputs ← View.field "inputs" (View.list (CallArg.ofJson rules)) json
    let commands ← View.field "commands" (View.list (Command.ofJson rules)) json
    return ⟨inputs, commands⟩

def TransactionKind.ofJson (rules : ViewRules) : ViewReader TransactionKind := fun json => do
  let (name, content) ← View.variant json
  match name with
  | "ProgrammableTransaction" => .programmable <$> ProgrammableTransaction.ofJson rules content
  | "ChangeEpoch" => View.constant .changeEpoch content
  | "Genesis" => View.constant .genesis content
  | "ConsensusCommitPrologue" => View.constant .consensusCommitPrologue content
  | _ => View.shape

def GasData.ofJson (rules : ViewRules) : ViewReader GasData := fun json => do
  return {
    payment := ← View.field "payment" (View.list (ObjectRef.ofJson rules)) json
    owner := ← View.field "owner" (View.address rules) json
    price := ← View.field "price" (View.u64 rules) json
    budget := ← View.field "budget" (View.u128 rules) json }

def Expiration.ofJson (rules : ViewRules) : ViewReader Expiration := fun json => do
  let (name, content) ← View.variant json
  match name with
  | "None" => View.constant .none content
  | "Epoch" => .epoch <$> View.u64 rules content
  | _ => View.shape

def TransactionDataV1.ofJson (rules : ViewRules) : ViewReader TransactionDataV1 := fun json => do
  return {
    kind := ← View.field "kind" (TransactionKind.ofJson rules) json
    sender := ← View.field "sender" (View.address rules) json
    gasData := ← View.field "gas_data" (GasData.ofJson rules) json
    expiration := ← View.field "expiration" (Expiration.ofJson rules) json }

def TransactionData.ofJson (rules : ViewRules) : ViewReader TransactionData := fun json =>
  .v1 <$> View.field "V1" (TransactionDataV1.ofJson rules) json

end MoveWire
