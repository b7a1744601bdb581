import MoveWire.Move.TypeTag.Printer
import MoveWire.Move.TypeTag.Wire
import MoveWire.Transaction.Argument

/-!
The commands of a programmable transaction, and such a transaction: its inputs and its commands in
the order in which they run.
-/

namespace MoveWire

structure MoveCall where
  package : ObjectId
  moduleName : String
  function : String
  typeArguments : List TypeTag
  arguments : List Argument
  deriving DecidableEq

inductive Command where
  | moveCall (call : MoveCall)
  | transferObjects (objects : List Argument) (recipient : Argument)
  | splitCoins (coin : Argument) (amounts : List Argument)
  | mergeCoins (target : Argument) (sources : List Argument)
  | publish (modules : List Bytes) (dependencies : List ObjectId)
  | makeMoveVec (item : Option TypeTag) (items : List Argument)
  | upgrade (modules : List Bytes) (dependencies : List ObjectId) (package : ObjectId)
      (ticket : Argument)
  deriving DecidableEq

structure ProgrammableTransaction where
  inputs : List CallArg
  commands : List Command
  deriving DecidableEq

namespace MoveCall

def codec : Codec MoveCall :=
  (Address.codec.pair (Codec.string.pair (Codec.string.pair
    (TypeTag.codec.vector.pair Argument.codec.vector)))).map
    (fun (package, moduleName, function, typeArguments, arguments) =>
      ⟨package, moduleName, function, typeArguments, arguments⟩)
    fun c => (c.package, c.moduleName, c.function, c.typeArguments, c.arguments)

def toJson (c : MoveCall) : Json := .record [
  ("package", c.package.toJson),
  ("module", .string c.moduleName),
  ("function", .string c.function),
  ("type_arguments", .array (c.typeArguments.map TypeTag.toJson)),
  ("arguments", .array (c.arguments.map Argument.toJson))]

end MoveCall

namespace Command

def name : Command → String
  | .moveCall _ => "MoveCall"
  | .transferObjects .. => "TransferObjects"
  | .splitCoins .. => "SplitCoins"
  | .mergeCoins .. => "MergeCoins"
  | .publish .. => "Publish"
  | .makeMoveVec .. => "MakeMoveVec"
  | .upgrade .. => "Upgrade"

/-- All arguments of a command in the order of its byte form. -/
def arguments : Command → List Argument
  | .moveCall call => call.arguments
  | .transferObjects objects recipient => objects ++ [recipient]
  | .splitCoins coin amounts => coin :: amounts
  | .mergeCoins target sources => target :: sources
  | .publish .. => []
  | .makeMoveVec _ items => items
  | .upgrade _ _ _ ticket => [ticket]

def asMoveCall? : Command → Option MoveCall
  | .moveCall call => some call
  | _ => none

def variants : List (Variant Command) := [
  ⟨MoveCall, MoveCall.codec, .moveCall, asMoveCall?⟩,
  ⟨List Argument × Argument, Argument.codec.vector.pair Argument.codec,
    fun (objects, recipient) => .transferObjects objects recipient,
    fun | .transferObjects objects recipient => some (objects, recipient) | _ => none⟩,
  ⟨Argument × List Argument, Argument.codec.pair Argument.codec.vector,
    fun (coin, amounts) => .splitCoins coin amounts,
    fun | .splitCoins coin amounts => some (coin, amounts) | _ => none⟩,
  ⟨Argument × List Argument, Argument.codec.pair Argument.codec.vector,
    fun (target, sources) => .mergeCoins target sources,
    fun | .mergeCoins target sources => some (target, sources) | _ => none⟩,
  ⟨List Bytes × List ObjectId, Codec.u8.vector.vector.pair Address.codec.vector,
    fun (modules, dependencies) => .publish modules dependencies,
    fun | .publish modules dependencies => some (modules, dependencies) | _ => none⟩,
  ⟨Option TypeTag × List Argument, TypeTag.codec.option.pair Argument.codec.vector,
    fun (item, items) => .makeMoveVec item items,
    fun | .makeMoveVec item items => some (item, items) | _ => none⟩,
  ⟨List Bytes × List ObjectId × ObjectId × Argument,
    Codec.u8.vector.vector.pair (Address.codec.vector.pair (Address.codec.pair Argument.codec)),
    fun (modules, dependencies, package, ticket) => .upgrade modules dependencies package ticket,
    fun
    | .upgrade modules dependencies package ticket => some (modules, dependencies, package, ticket)
    | _ => none⟩]

def codec : Codec Command := .union .one "Command" variants

def modulesToJson (modules : List Bytes) : Json :=
  .array (modules.map fun bytes => .array (bytes.map fun b => .ofNat b.toNat))

def toJson (command : Command) : Json :=
  let body := match command with
    | .moveCall call => call.toJson
    | .transferObjects objects recipient =>
      .array [.array (objects.map Argument.toJson), recipient.toJson]
    | .splitCoins coin amounts => .array [coin.toJson, .array (amounts.map Argument.toJson)]
    | .mergeCoins target sources => .array [target.toJson, .array (sources.map Argument.toJson)]
    | .publish modules dependencies =>
      .array [modulesToJson modules, .array (dependencies.map Address.toJson)]
    | .makeMoveVec item items =>
      .array [.option TypeTag.toJson item, .array (items.map Argument.toJson)]
    | .upgrade modules dependencies package ticket =>
      .array [modulesToJson modules, .array (dependencies.map Address.toJson), package.toJson,
        ticket.toJson]
  .record [(command.name, body)]

end Command

namespace ProgrammableTransaction

def empty : ProgrammableTransaction := ⟨[], []⟩

/-- The pure input at an index, if there is one. -/
def pureInput? (pt : ProgrammableTransaction) (index : UInt16) : Option PureArg :=
  pt.inputs[index.toNat]?.bind CallArg.asPure?

def moveCalls (pt : ProgrammableTransaction) : List MoveCall :=
  pt.commands.filterMap Command.asMoveCall?

/-- The same transaction without declared types. -/
def undeclared (pt : ProgrammableTransaction) : ProgrammableTransaction :=
  { pt with inputs := pt.inputs.map CallArg.undeclared }

def codec : Codec ProgrammableTransaction :=
  (CallArg.codec.vector.pair Command.codec.vector).map (fun (inputs, commands) =>
    ⟨inputs, commands⟩) fun pt => (pt.inputs, pt.commands)

def toJson (pt : ProgrammableTransaction) : Json := .record [
  ("inputs", .array (pt.inputs.map CallArg.toJson)),
  ("commands", .array (pt.commands.map Command.toJson))]

end ProgrammableTransaction

end MoveWire
