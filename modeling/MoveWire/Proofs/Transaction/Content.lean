import Mathlib.Data.List.Forall2
import MoveWire.Proofs.Move.TypeTag.Parts
import MoveWire.Transaction.Data

/-!
What the byte form of a transaction hangs on: the lengths that it counts, the types that stand in
it, and when two transactions are the same. The declared type of a pure input has no part in that.
-/

namespace MoveWire

namespace CallArg

def lengths : CallArg → List Nat
  | .pure arg => [arg.bytes.length]
  | .object _ => []

/-- The same input, whatever types a pure one is declared of. -/
def Same : CallArg → CallArg → Prop
  | .pure a, .pure b => a.bytes = b.bytes
  | .object a, .object b => a = b
  | _, _ => False

theorem same_iff {a b : CallArg} : a.Same b ↔ a.undeclared = b.undeclared := by
  cases a <;> cases b <;> simp [Same, undeclared, ofBytes, PureArg.ofBytes]

theorem undeclared_same (a : CallArg) : a.undeclared.Same a := by
  cases a <;> rfl

end CallArg

/-- The lengths in bytes of both names, and the counts of both lists, with what the types bring. -/
def MoveCall.lengths (c : MoveCall) : List Nat :=
  c.moduleName.utf8ByteSize :: c.function.utf8ByteSize :: c.typeArguments.length ::
    (c.typeArguments.flatMap TypeTag.lengths ++ [c.arguments.length])

namespace Command

def lengths : Command → List Nat
  | .moveCall call => call.lengths
  | .transferObjects objects _ => [objects.length]
  | .splitCoins _ amounts => [amounts.length]
  | .mergeCoins _ sources => [sources.length]
  | .publish modules dependencies =>
    modules.length :: (modules.map List.length ++ [dependencies.length])
  | .makeMoveVec item items => item.toList.flatMap TypeTag.lengths ++ [items.length]
  | .upgrade modules dependencies _ _ =>
    modules.length :: (modules.map List.length ++ [dependencies.length])

/-- The type arguments of a call, or the type of the items of a vector. -/
def typeTags : Command → List TypeTag
  | .moveCall call => call.typeArguments
  | .makeMoveVec item _ => item.toList
  | _ => []

end Command

namespace ProgrammableTransaction

def lengths (pt : ProgrammableTransaction) : List Nat :=
  pt.inputs.length :: pt.commands.length ::
    (pt.inputs.flatMap CallArg.lengths ++ pt.commands.flatMap Command.lengths)

def typeTags (pt : ProgrammableTransaction) : List TypeTag := pt.commands.flatMap Command.typeTags

structure Same (a b : ProgrammableTransaction) : Prop where
  inputs : List.Forall₂ CallArg.Same a.inputs b.inputs
  commands : a.commands = b.commands

theorem same_iff {a b : ProgrammableTransaction} : a.Same b ↔ a.undeclared = b.undeclared := by
  have inputs : List.Forall₂ CallArg.Same a.inputs b.inputs ↔
      a.inputs.map CallArg.undeclared = b.inputs.map CallArg.undeclared := by
    rw [← List.forall₂_eq_eq_eq, List.forall₂_map_left_iff, List.forall₂_map_right_iff]
    simp only [← CallArg.same_iff]
  simp only [undeclared, mk.injEq, ← inputs]
  exact ⟨fun h => ⟨h.inputs, h.commands⟩, fun h => ⟨h.1, h.2⟩⟩

theorem undeclared_same (pt : ProgrammableTransaction) : pt.undeclared.Same pt where
  inputs := List.forall₂_map_left_iff.mpr (List.forall₂_same.mpr fun a _ => a.undeclared_same)
  commands := rfl

end ProgrammableTransaction

namespace TransactionKind

def lengths : TransactionKind → List Nat
  | .programmable pt => pt.lengths
  | _ => []

def typeTags : TransactionKind → List TypeTag
  | .programmable pt => pt.typeTags
  | _ => []

def Same : TransactionKind → TransactionKind → Prop
  | .programmable a, .programmable b => a.Same b
  | a, b => a = b

theorem same_iff {a b : TransactionKind} : a.Same b ↔ a.undeclared = b.undeclared := by
  cases a <;> cases b <;> simp [Same, undeclared, ProgrammableTransaction.same_iff]

theorem undeclared_same (kind : TransactionKind) : kind.undeclared.Same kind := by
  cases kind with
  | programmable pt => exact pt.undeclared_same
  | _ => rfl

end TransactionKind

namespace TransactionData

/-- All lengths that the form of a transaction counts: of its lists, its pure inputs, the modules
that it publishes, and its names of modules, functions and structs. -/
def lengths (d : TransactionData) : List Nat := d.gasData.payment.length :: d.kind.lengths

/-- The types that stand in the commands of a transaction. -/
def typeTags (d : TransactionData) : List TypeTag := d.kind.typeTags

/-- The same transaction, whatever types the pure inputs are declared of. -/
structure Same (a b : TransactionData) : Prop where
  kind : a.kind.Same b.kind
  sender : a.sender = b.sender
  gasData : a.gasData = b.gasData
  expiration : a.expiration = b.expiration

theorem same_iff {a b : TransactionData} : a.Same b ↔ a.undeclared = b.undeclared := by
  obtain ⟨⟨kind, sender, gasData, expiration⟩⟩ := a
  obtain ⟨⟨kind', sender', gasData', expiration'⟩⟩ := b
  have same : kind.Same kind' ↔ _ := TransactionKind.same_iff
  constructor
  · rintro ⟨kinds, rfl, rfl, rfl⟩
    exact congrArg (fun k => v1 ⟨k, sender, gasData, expiration⟩) (same.mp kinds)
  · intro h
    obtain ⟨kinds, senders, gas, ends⟩ := TransactionDataV1.mk.inj (v1.inj h)
    exact ⟨same.mpr kinds, senders, gas, ends⟩

theorem undeclared_same (d : TransactionData) : d.undeclared.Same d :=
  ⟨d.kind.undeclared_same, rfl, rfl, rfl⟩

end TransactionData

end MoveWire
