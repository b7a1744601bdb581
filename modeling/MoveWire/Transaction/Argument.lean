import MoveWire.Object
import MoveWire.Pure.Json

/-!
Inputs of a transaction and the arguments by which commands refer to them. A pure input is its
bytes; a declared type only tells how to read them, and never becomes a part of the transaction.
-/

namespace MoveWire

/-- A use of the gas coin, of an input, or of what an earlier command gave. -/
inductive Argument where
  | gasCoin
  | input (index : UInt16)
  | result (command : UInt16)
  | nestedResult (command item : UInt16)
  deriving DecidableEq

inductive ObjectArg where
  | owned (ref : ObjectRef)
  | shared (ref : SharedObjectRef)
  | receiving (ref : ObjectRef)
  deriving DecidableEq

structure PureArg where
  bytes : Bytes
  declared : Option PureType
  deriving DecidableEq

inductive CallArg where
  | pure (arg : PureArg)
  | object (arg : ObjectArg)
  deriving DecidableEq

namespace Argument

def variants : List (Variant Argument) := [
  .constant .gasCoin,
  ⟨UInt16, Codec.u16, .input, fun | .input i => some i | _ => none⟩,
  ⟨UInt16, Codec.u16, .result, fun | .result i => some i | _ => none⟩,
  ⟨UInt16 × UInt16, Codec.u16.pair Codec.u16, fun (i, j) => .nestedResult i j,
    fun | .nestedResult i j => some (i, j) | _ => none⟩]

def codec : Codec Argument := .union .one "Argument" variants

def toJson : Argument → Json
  | .gasCoin => .string "GasCoin"
  | .input i => .record [("Input", .ofNat i.toNat)]
  | .result i => .record [("Result", .ofNat i.toNat)]
  | .nestedResult i j => .record [("NestedResult", .array [.ofNat i.toNat, .ofNat j.toNat])]

end Argument

namespace ObjectArg

def id : ObjectArg → ObjectId
  | .owned ref => ref.id
  | .shared ref => ref.id
  | .receiving ref => ref.id

def variants : List (Variant ObjectArg) := [
  ⟨ObjectRef, ObjectRef.codec, .owned, fun | .owned r => some r | _ => none⟩,
  ⟨SharedObjectRef, SharedObjectRef.codec, .shared, fun | .shared r => some r | _ => none⟩,
  ⟨ObjectRef, ObjectRef.codec, .receiving, fun | .receiving r => some r | _ => none⟩]

def codec : Codec ObjectArg := .union .one "ObjectArg" variants

def toJson : ObjectArg → Json
  | .owned ref => .record [("ImmOrOwnedObject", ref.toJson)]
  | .shared ref => .record [("SharedObject", ref.toJson)]
  | .receiving ref => .record [("Receiving", ref.toJson)]

end ObjectArg

namespace PureArg

def ofBytes (bytes : Bytes) : PureArg := ⟨bytes, none⟩

/-- A value encoded as of a type that stays declared. -/
def typed (type : PureType) (v : PureValue) : Fallible PureArg := do
  return ⟨← type.encode v, some type⟩

def declare (arg : PureArg) (type : PureType) : PureArg := { arg with declared := some type }

def value (arg : PureArg) : Fallible PureValue :=
  match arg.declared with
  | none => .error (.unknownType "<undeclared pure type>")
  | some type => type.decode arg.bytes

def toJson (arg : PureArg) : Json := .record [
  ("bytes", .string (Bytes.toBase64 arg.bytes)),
  ("type", .option (fun type => .string type.text) arg.declared),
  ("value", .option PureValue.toJson arg.value.toOption)]

end PureArg

namespace CallArg

def ofBytes (bytes : Bytes) : CallArg := .pure (.ofBytes bytes)

def asPure? : CallArg → Option PureArg
  | .pure arg => some arg
  | .object _ => none

def asObject? : CallArg → Option ObjectArg
  | .pure _ => none
  | .object arg => some arg

/-- The same input without a declared type: what its place in a transaction hangs on. -/
def undeclared : CallArg → CallArg
  | .pure arg => .ofBytes arg.bytes
  | .object arg => .object arg

def variants : List (Variant CallArg) := [
  ⟨Bytes, Codec.bytes, ofBytes, fun | .pure arg => some arg.bytes | _ => none⟩,
  ⟨ObjectArg, ObjectArg.codec, .object, fun | .object arg => some arg | _ => none⟩]

def codec : Codec CallArg := .union .one "CallArg" variants

def toJson : CallArg → Json
  | .pure arg => .record [("Pure", arg.toJson)]
  | .object arg => .record [("Object", arg.toJson)]

end CallArg

end MoveWire
