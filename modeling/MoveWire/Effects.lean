import MoveWire.Object

/-!
What a transaction did: whether it succeeded, what it cost, and which objects it created, changed
and deleted. The version and the status have tags of four bytes.
-/

namespace MoveWire

structure GasCost where
  computation : UInt64
  storage : UInt64
  rebate : UInt64
  nonRefundable : UInt64
  deriving DecidableEq

inductive ExecutionStatus where
  | success
  | failure
  deriving DecidableEq

structure EffectsV1 where
  status : ExecutionStatus
  epoch : UInt64
  gas : GasCost
  created : List ObjectRef
  mutated : List ObjectRef
  deleted : List ObjectRef
  transaction : TransactionDigest
  deriving DecidableEq

inductive Effects where
  | v1 (effects : EffectsV1)
  deriving DecidableEq

namespace GasCost

/-- What is charged before the rebate, at most the largest word. -/
def used (g : GasCost) : Nat := min (g.computation.toNat + g.storage.toNat) (2 ^ 64 - 1)

/-- What is charged in the end; below zero when the rebate is the larger part. -/
def net (g : GasCost) : Int := g.used - g.rebate.toNat

def codec : Codec GasCost :=
  (Codec.u64.pair (Codec.u64.pair (Codec.u64.pair Codec.u64))).map
    (fun (computation, storage, rebate, nonRefundable) =>
      ⟨computation, storage, rebate, nonRefundable⟩)
    fun g => (g.computation, g.storage, g.rebate, g.nonRefundable)

def toJson (g : GasCost) : Json := .record [
  ("computationCost", .ofNat g.computation.toNat),
  ("storageCost", .ofNat g.storage.toNat),
  ("storageRebate", .ofNat g.rebate.toNat),
  ("nonRefundableStorageFee", .ofNat g.nonRefundable.toNat)]

end GasCost

namespace ExecutionStatus

def codec : Codec ExecutionStatus :=
  .union .four "ExecutionStatus" [.constant .success, .constant .failure]

def isOk (s : ExecutionStatus) : Bool := s == .success

def toJson : ExecutionStatus → Json
  | .success => .string "Success"
  | .failure => .string "Failure"

end ExecutionStatus

namespace EffectsV1

def codec : Codec EffectsV1 :=
  (ExecutionStatus.codec.pair (Codec.u64.pair (GasCost.codec.pair
    (ObjectRef.codec.vector.pair (ObjectRef.codec.vector.pair
      (ObjectRef.codec.vector.pair Digest.codec)))))).map
    (fun (status, epoch, gas, created, mutated, deleted, transaction) =>
      ⟨status, epoch, gas, created, mutated, deleted, transaction⟩)
    fun e => (e.status, e.epoch, e.gas, e.created, e.mutated, e.deleted, e.transaction)

def toJson (e : EffectsV1) : Json := .record [
  ("status", e.status.toJson),
  ("executedEpoch", .ofNat e.epoch.toNat),
  ("gasUsed", e.gas.toJson),
  ("created", .array (e.created.map ObjectRef.toJson)),
  ("mutated", .array (e.mutated.map ObjectRef.toJson)),
  ("deleted", .array (e.deleted.map ObjectRef.toJson)),
  ("transactionDigest", e.transaction.toJson)]

end EffectsV1

namespace Effects

def latest : Effects → EffectsV1
  | .v1 effects => effects

/-- Created objects, and changed ones after them. -/
def changed (e : Effects) : List ObjectRef := e.latest.created ++ e.latest.mutated

def variants : List (Variant Effects) := [
  ⟨EffectsV1, EffectsV1.codec, .v1, fun | .v1 effects => some effects⟩]

def codec : Codec Effects := .union .four "TransactionEffects" variants

def toJson (e : Effects) : Json := .record [("V1", e.latest.toJson)]

end Effects

end MoveWire
