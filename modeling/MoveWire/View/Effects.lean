import MoveWire.Effects
import MoveWire.View.Object

/-!
Reading effects and their parts from their views.
-/

namespace MoveWire

def GasCost.ofJson (rules : ViewRules) : ViewReader GasCost := fun json => do
  return {
    computation := ← View.field "computationCost" (View.u64 rules) json
    storage := ← View.field "storageCost" (View.u64 rules) json
    rebate := ← View.field "storageRebate" (View.u64 rules) json
    nonRefundable := ← View.field "nonRefundableStorageFee" (View.u64 rules) json }

def ExecutionStatus.ofJson : ViewReader ExecutionStatus := fun json => do
  let (name, content) ← View.variant json
  match name with
  | "Success" => View.constant .success content
  | "Failure" => View.constant .failure content
  | _ => View.shape

def EffectsV1.ofJson (rules : ViewRules) : ViewReader EffectsV1 := fun json => do
  let refs := View.list (ObjectRef.ofJson rules)
  return {
    status := ← View.field "status" ExecutionStatus.ofJson json
    epoch := ← View.field "executedEpoch" (View.u64 rules) json
    gas := ← View.field "gasUsed" (GasCost.ofJson rules) json
    created := ← View.field "created" refs json
    mutated := ← View.field "mutated" refs json
    deleted := ← View.field "deleted" refs json
    transaction := ← View.field "transactionDigest" Digest.ofJson json }

def Effects.ofJson (rules : ViewRules) : ViewReader Effects := fun json =>
  .v1 <$> View.field "V1" (EffectsV1.ofJson rules) json

end MoveWire
