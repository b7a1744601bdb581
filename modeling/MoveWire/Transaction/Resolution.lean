import MoveWire.Move.Parameter
import MoveWire.Move.PureType
import MoveWire.Transaction.Data
import MoveWire.Transaction.Signatures

/-!
Finding the types of pure inputs. A command tells by each use of an argument what the argument
must be; an input then has the type of its uses, which have to agree, and has to decode as it.
-/

namespace MoveWire

/-- What a command takes an argument for. -/
inductive Use where
  | value (arg : Argument) (type : PureType)
  | object (arg : Argument) (parameter : String)

namespace MoveCall

def functionName (call : MoveCall) : FunctionName := ⟨call.package, call.moduleName, call.function⟩

/-- The parameters that a caller fills, as text and as types. -/
def parameters (source : SignatureSource) (call : MoveCall) :
    Fallible (List (String × TypeTag)) := do
  let all ← (← source call.functionName).mapM fun text => do
    return (text, ← Move.parseParameter text call.typeArguments)
  return all.filter fun (_, tag) => !tag.isTxContext

def uses (source : SignatureSource) (site : String) (call : MoveCall) : Fallible (List Use) := do
  let parameters ← call.parameters source
  if parameters.length ≠ call.arguments.length then
    throw (.invalid (.argumentCount site parameters.length call.arguments.length))
  return (call.arguments.zip parameters).map fun (arg, text, tag) =>
    match tag.pureType? with
    | some type => .value arg type
    | none => .object arg text

end MoveCall

namespace Command

/-- How a command is named in a refusal. -/
def site (index : Nat) (command : Command) : String :=
  let what := match command with
    | .moveCall call => call.functionName.text
    | other => other.name
  s!"command {index} ({what})"

def uses (source : SignatureSource) (site : String) : Command → Fallible (List Use)
  | .moveCall call => call.uses source site
  | .splitCoins _ amounts => .ok (amounts.map (.value · .u64))
  | .transferObjects _ recipient => .ok [.value recipient .address]
  | .makeMoveVec (some item) items =>
    match item.pureType? with
    | some type => .ok (items.map (.value · type))
    | none => .ok []
  | _ => .ok []

end Command

/-- The types of inputs that uses have told so far. -/
abbrev InputTypes := Std.HashMap UInt16 PureType

namespace InputTypes

/-- Takes a use of a pure input as one type. -/
def assign (site : String) (types : InputTypes) (index : UInt16) (pure : PureArg)
    (type : PureType) : Fallible InputTypes :=
  match types[index]? <|> pure.declared with
  | some earlier =>
    if earlier = type then .ok (types.insert index type)
    else .error (.invalid (.conflictingUses index.toNat earlier.text type.text site))
  | none => .ok (types.insert index type)

/-- Takes one more use; only uses of pure inputs tell types. -/
def record (inputs : Array CallArg) (site : String) (types : InputTypes) :
    Use → Fallible InputTypes
  | .value (.input index) type =>
    match inputs[index.toNat]? with
    | none => .error (.invalid (.missingInput site index.toNat))
    | some (.pure pure) => types.assign site index pure type
    | some (.object _) => .ok types
  | .object (.input index) parameter =>
    match inputs[index.toNat]? with
    | some (.pure _) => .error (.invalid (.pureForObject site index.toNat parameter))
    | _ => .ok types
  | _ => .ok types

def recordCommand (source : SignatureSource) (inputs : Array CallArg) (types : InputTypes)
    (command : Command) (index : Nat) : Fallible InputTypes := do
  let site := command.site index
  (← command.uses source site).foldlM (record inputs site) types

def ofTransaction (source : SignatureSource) (pt : ProgrammableTransaction) :
    Fallible InputTypes :=
  let inputs := pt.inputs.toArray
  pt.commands.zipIdx.foldlM
    (fun types (command, index) => recordCommand source inputs types command index) ∅

/-- The input at an index with the type that its uses tell, as which it has to decode. -/
def declare (types : InputTypes) (index : Nat) : CallArg → Fallible CallArg
  | .object arg => .ok (.object arg)
  | .pure arg =>
    if 2 ^ 16 ≤ index then .error (.range (.slot "input" index))
    else
      match types[UInt16.ofNat index]? with
      | none => .ok (.pure arg)
      | some type =>
        match type.decode arg.bytes with
        | .ok _ => .ok (.pure (arg.declare type))
        | .error e => .error (.invalid (.inputValue index type.text e.message))

end InputTypes

/-- Declares the type of every pure input that has a use which tells it. -/
def ProgrammableTransaction.resolve (source : SignatureSource) (pt : ProgrammableTransaction) :
    Fallible ProgrammableTransaction := do
  let types ← InputTypes.ofTransaction source pt
  let inputs ← pt.inputs.zipIdx.mapM fun (input, index) => types.declare index input
  return { pt with inputs }

/-- Resolves a programmable transaction and leaves any other as it is. -/
def TransactionData.resolve (source : SignatureSource) (data : TransactionData) :
    Fallible TransactionData :=
  match data.kind with
  | .programmable pt => do return data.withKind (.programmable (← pt.resolve source))
  | _ => .ok data

end MoveWire
