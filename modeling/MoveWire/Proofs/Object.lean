import MoveWire.Object
import MoveWire.Proofs.Wire.Codec

/-!
The byte forms of addresses, digests and references to objects: each value has one, and it can be
read back.
-/

namespace MoveWire

theorem Address.codec_conforms : Address.codec.Conforms .all :=
  (Codec.fixed_conforms 32).map_all (fun _ => rfl) fun _ => rfl

/-- The count in front of a digest can only be 32. -/
theorem Digest.codec_conforms {kind : DigestKind} :
    (Digest.codec : Codec (Digest kind)).Conforms .all := by
  have short (d : Digest kind) : d.bytes.length < 2 ^ 32 := by
    rw [Digest.bytes, d.raw.length_eq]
    decide
  refine .plain (fun d => ?_) (fun {d form} h start => ?_) fun cursor d next run => ?_
  · exact (Codec.bytes_conforms.carries d.bytes).form_if.congr (iff_of_true (short d) trivial)
  · have read := Codec.bytes_conforms.takes (a := d.bytes) h trivial start
    exact .offset_bind (read.bind_pure (by simp [Digest.bytes]))
  · change (Reader.offset >>= _) cursor = _ at run
    rw [Reader.offset_bind] at run
    obtain ⟨taken, after, body, check⟩ := Stateful.bind_eq_ok run
    cases sized : FixedBytes.ofBytes? 32 taken with
    | none => rw [sized] at check; cases check
    | some raw =>
      rw [sized] at check
      cases check
      obtain rfl := FixedBytes.bytes_of_ofBytes? sized
      exact Codec.bytes_conforms.canonical _ _ _ body

theorem ObjectRef.codec_conforms : ObjectRef.codec.Conforms .all :=
  (Address.codec_conforms.pair_all (Codec.u64_conforms.pair_all Digest.codec_conforms)).map_all
    (fun _ => rfl) fun _ => rfl

theorem SharedObjectRef.codec_conforms : SharedObjectRef.codec.Conforms .all :=
  (Address.codec_conforms.pair_all (Codec.u64_conforms.pair_all Codec.bool_conforms)).map_all
    (fun _ => rfl) fun _ => rfl

end MoveWire
