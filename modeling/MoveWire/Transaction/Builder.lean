import MoveWire.Transaction.Builder.InputTable
import MoveWire.Transaction.Command

/-!
Building programmable transactions. An input that is there already is used again, so that equal
inputs have one place. An operation that fails in its middle keeps what it has added until then.
-/

namespace MoveWire

structure Builder where
  inputs : InputTable
  commands : Array Command

abbrev Building := EStateM WireError Builder

namespace Builder

def empty : Builder := ⟨.empty, #[]⟩

def finish (b : Builder) : ProgrammableTransaction := ⟨b.inputs.toList, b.commands.toList⟩

end Builder

namespace Building

def lift {α : Type} (result : Fallible α) : Building α := MonadExcept.ofExcept result

/-- A place in a list as an index of 16 bits. -/
def slot (what : String) (index : Nat) : Fallible UInt16 :=
  if index < 2 ^ 16 then .ok (UInt16.ofNat index) else .error (.range (.slot what index))

def inputSlot (index : Nat) : Fallible Argument := Argument.input <$> slot "input" index

/-- The place of an input, which is added if it is not there yet. -/
def addInput (arg : CallArg) : Building Argument := fun b =>
  match h : b.inputs.place? arg with
  | some index =>
    match inputSlot index with
    | .ok place => .ok place b
    | .error e => .error e b
  | none =>
    match inputSlot b.inputs.size with
    | .ok place => .ok place { b with inputs := b.inputs.push arg h }
    | .error e => .error e b

def addBytes (bytes : Bytes) : Building Argument := addInput (.ofBytes bytes)

/-- Adds the byte form of a value, if it has one. -/
def addEncoded (form : Fallible Bytes) : Building Argument := do addBytes (← lift form)

def addPure {α : Type} (c : Codec α) (a : α) : Building Argument := addEncoded (c.encode a)

/-- Adds a value of a type that stays declared. -/
def addTyped (type : PureType) (v : PureValue) : Building Argument := do
  addInput (.pure (← lift (PureArg.typed type v)))

def addObject (arg : ObjectArg) : Building Argument := addInput (.object arg)

def addOwned (ref : ObjectRef) : Building Argument := addObject (.owned ref)

/-- Adds a command and gives its place. -/
def appendCommand (command : Command) : Building UInt16 := fun b =>
  match slot "command" b.commands.size with
  | .ok place => .ok place { b with commands := b.commands.push command }
  | .error e => .error e b

/-- Adds a command and gives its result. -/
def addCommand (command : Command) : Building Argument := Argument.result <$> appendCommand command

def moveCall (call : MoveCall) : Building Argument := addCommand (.moveCall call)

/-- A call of a function on inputs. -/
def moveCallOn (package : ObjectId) (moduleName function : String) (typeArguments : List TypeTag)
    (inputs : List CallArg) : Building Argument := do
  moveCall ⟨package, moduleName, function, typeArguments, ← inputs.mapM addInput⟩

def transferArgs (recipient : Address) (objects : List Argument) : Building Unit := do
  let recipient ← addPure Address.codec recipient
  discard (addCommand (.transferObjects objects recipient))

def transferArg (recipient : Address) (object : Argument) : Building Unit :=
  transferArgs recipient [object]

def transferObjects (recipient : Address) (objects : List ObjectRef) : Building Unit := do
  let recipient ← addPure Address.codec recipient
  discard (addCommand (.transferObjects (← objects.mapM addOwned) recipient))

/-- Sends an amount out of the gas coin, or all of it. -/
def transferSui (recipient : Address) (amount : Option UInt64) : Building Unit := do
  let recipient ← addPure Address.codec recipient
  let coin ← match amount with
    | some amount => do
      let amount ← addPure Codec.u64 amount
      addCommand (.splitCoins .gasCoin [amount])
    | none => pure .gasCoin
  discard (addCommand (.transferObjects [coin] recipient))

/-- Sends each recipient the amount at the same place, out of the gas coin. -/
def paySui (recipients : List Address) (amounts : List UInt64) : Building Unit :=
  if recipients.length ≠ amounts.length then
    throw (.invalid (.recipientCount recipients.length amounts.length))
  else if recipients.isEmpty then pure ()
  else do
    let amounts ← amounts.mapM (addPure Codec.u64)
    let split ← appendCommand (.splitCoins .gasCoin amounts)
    recipients.zipIdx.forM fun (recipient, i) => do
      transferArg recipient (.nestedResult split (← lift (slot "split result" i)))

def splitCoins (coin : Argument) (amounts : List UInt64) : Building Argument := do
  addCommand (.splitCoins coin (← amounts.mapM (addPure Codec.u64)))

def mergeCoins (target : ObjectRef) (coins : List ObjectRef) : Building Unit := do
  let target ← addOwned target
  discard (addCommand (.mergeCoins target (← coins.mapM addOwned)))

/-- Merges coins into the first of them. -/
def smashCoins : List ObjectRef → Building Argument
  | [] => throw (.invalid .noCoins)
  | first :: rest => do
    let target ← addOwned first
    discard (addCommand (.mergeCoins target (← rest.mapM addOwned)))
    pure target

def publish (modules : List Bytes) (dependencies : List ObjectId) : Building Argument :=
  addCommand (.publish modules dependencies)

/-- Publishes modules and gives the right to upgrade them to an account. -/
def publishImmutableTo (recipient : Address) (modules : List Bytes)
    (dependencies : List ObjectId) : Building Unit := do
  transferArg recipient (← publish modules dependencies)

def upgrade (package : ObjectId) (ticket : Argument) (dependencies : List ObjectId)
    (modules : List Bytes) : Building Argument :=
  addCommand (.upgrade modules dependencies package ticket)

def makeMoveVec (item : Option TypeTag) (items : List Argument) : Building Argument :=
  if item.isNone && items.isEmpty then throw (.invalid .untypedEmptyVector)
  else addCommand (.makeMoveVec item items)

/-- Asks the framework for the right to upgrade a package to what has this digest. -/
def authorizeUpgrade (cap : ObjectArg) (policy : UInt8) (digest : Bytes) : Building Argument := do
  let cap ← addObject cap
  let policy ← addPure Codec.u8 policy
  let digest ← addPure Codec.bytes digest
  moveCall ⟨.framework, "package", "authorize_upgrade", [], [cap, policy, digest]⟩

end Building

/-- One operation on a builder. -/
inductive BuildStep where
  | input (arg : CallArg)
  | bytes (bytes : Bytes)
  | encoded (form : Fallible Bytes)
  | typed (type : PureType) (value : PureValue)
  | object (arg : ObjectArg)
  | command (command : Command)
  | moveCall (call : MoveCall)
  | moveCallOn (package : ObjectId) (moduleName function : String) (typeArguments : List TypeTag)
      (inputs : List CallArg)
  | transferArg (recipient : Address) (object : Argument)
  | transferArgs (recipient : Address) (objects : List Argument)
  | transferObjects (recipient : Address) (objects : List ObjectRef)
  | transferSui (recipient : Address) (amount : Option UInt64)
  | paySui (recipients : List Address) (amounts : List UInt64)
  | splitCoins (coin : Argument) (amounts : List UInt64)
  | mergeCoins (target : ObjectRef) (coins : List ObjectRef)
  | smashCoins (coins : List ObjectRef)
  | publish (modules : List Bytes) (dependencies : List ObjectId)
  | publishImmutableTo (recipient : Address) (modules : List Bytes) (dependencies : List ObjectId)
  | upgrade (package : ObjectId) (ticket : Argument) (dependencies : List ObjectId)
      (modules : List Bytes)
  | makeMoveVec (item : Option TypeTag) (items : List Argument)
  | authorizeUpgrade (cap : ObjectArg) (policy : UInt8) (digest : Bytes)

namespace BuildStep

def silently (action : Building Unit) : Building (Option Argument) := do
  action
  pure none

/-- What the operation does; some give an argument for later use. -/
def action : BuildStep → Building (Option Argument)
  | .input arg => some <$> Building.addInput arg
  | .bytes content => some <$> Building.addBytes content
  | .encoded form => some <$> Building.addEncoded form
  | .typed type value => some <$> Building.addTyped type value
  | .object arg => some <$> Building.addObject arg
  | .command c => some <$> Building.addCommand c
  | .moveCall call => some <$> Building.moveCall call
  | .moveCallOn package moduleName function typeArguments inputs =>
    some <$> Building.moveCallOn package moduleName function typeArguments inputs
  | .transferArg recipient arg => silently (Building.transferArg recipient arg)
  | .transferArgs recipient objects => silently (Building.transferArgs recipient objects)
  | .transferObjects recipient objects => silently (Building.transferObjects recipient objects)
  | .transferSui recipient amount => silently (Building.transferSui recipient amount)
  | .paySui recipients amounts => silently (Building.paySui recipients amounts)
  | .splitCoins coin amounts => some <$> Building.splitCoins coin amounts
  | .mergeCoins target coins => silently (Building.mergeCoins target coins)
  | .smashCoins coins => some <$> Building.smashCoins coins
  | .publish modules dependencies => some <$> Building.publish modules dependencies
  | .publishImmutableTo recipient modules dependencies =>
    silently (Building.publishImmutableTo recipient modules dependencies)
  | .upgrade package ticket dependencies modules =>
    some <$> Building.upgrade package ticket dependencies modules
  | .makeMoveVec item items => some <$> Building.makeMoveVec item items
  | .authorizeUpgrade cap policy digest => some <$> Building.authorizeUpgrade cap policy digest

/-- The result of an operation and the builder after it, also after a failure. -/
def apply (b : Builder) (step : BuildStep) : Fallible (Option Argument) × Builder :=
  match step.action b with
  | .ok result next => (.ok result, next)
  | .error e next => (.error e, next)

/-- The builder after operations, failed ones included. -/
def run (b : Builder) (steps : List BuildStep) : Builder :=
  steps.foldl (fun b step => (apply b step).2) b

end BuildStep

end MoveWire
