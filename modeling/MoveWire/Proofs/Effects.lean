import MoveWire.Effects
import MoveWire.Proofs.Object
import MoveWire.Proofs.Wire.Union

/-!
The laws of the byte form of effects. Effects have a form when the three counts of objects fit,
and every form can be read back.
-/

namespace MoveWire

/-- The counts of the objects that were created, changed and deleted. -/
def Effects.lengths (e : Effects) : List Nat :=
  [e.latest.created.length, e.latest.mutated.length, e.latest.deleted.length]

def Effects.domain : Domain Effects := .plain fun e => ∀ n ∈ e.lengths, n < 2 ^ 32

theorem GasCost.codec_conforms : GasCost.codec.Conforms .all :=
  (Codec.u64_conforms.pair_all (Codec.u64_conforms.pair_all
    (Codec.u64_conforms.pair_all Codec.u64_conforms))).map_all (fun _ => rfl) fun _ => rfl

theorem ExecutionStatus.codec_conforms : ExecutionStatus.codec.Conforms .all :=
  .enumeration .four "ExecutionStatus" [success, failure] (by decide)
    (fun s => by cases s <;> simp) (by decide)

theorem EffectsV1.codec_conforms :
    EffectsV1.codec.Conforms (Effects.domain.map Effects.latest .v1) := by
  have objects := ObjectRef.codec_conforms.vector_all
  have digest : (Digest.codec : Codec TransactionDigest).Conforms .all := Digest.codec_conforms
  have lists := objects.pair (objects.pair (objects.pair digest))
  have fields := ExecutionStatus.codec_conforms.pair
    (Codec.u64_conforms.pair (GasCost.codec_conforms.pair lists))
  refine (fields.map fun _ => rfl).congr (fun e => ?_) (fun e => ?_) fun e => ?_
  · simp [Effects.domain, Effects.lengths, Effects.latest]
  · simp [Effects.domain]
  · rfl

theorem Effects.variants_partition : Variant.Partition variants domain where
  few := by decide
  conforms := by
    simp only [variants, List.forall_mem_cons]
    exact ⟨⟨_, .of_exact EffectsV1.codec_conforms (fun a p => by cases a; simp [eq_comm])
      (fun _ => .rfl) (fun _ => .rfl) fun _ => rfl⟩, by simp⟩
  covers a := by simp [variants]
  apart := by simp [variants]

theorem Effects.codec_conforms : codec.Conforms domain :=
  .union .four "TransactionEffects" variants_partition

end MoveWire
