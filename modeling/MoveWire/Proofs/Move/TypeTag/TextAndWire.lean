import MoveWire.Proofs.Move.TypeTag.Text
import MoveWire.Proofs.Move.TypeTag.Wire
import MoveWire.Proofs.Wire.WholeBuffer

/-!
Types from text and their byte forms. Text counts a struct as a level only when it has type
arguments, bytes count every struct, so a type from text has a form, and the form is read back
unless a struct without type arguments stands inside of 128 levels: that one is refused.
-/

namespace MoveWire.TypeTag

mutual

/-- Bytes count at most one level more than text does. -/
theorem depth_le : (tag : TypeTag) → tag.depth ≤ tag.textDepth + 1
  | .vector item => Nat.succ_le_succ (depth_le item)
  | .struct _ _ _ arguments => by
    rw [depth, textDepth]
    have inner := depthOfList_le_text arguments
    split
    · next none =>
      rw [List.isEmpty_iff.mp none]
      exact le_rfl
    · exact Nat.succ_le_succ inner
  | .bool | .u8 | .u16 | .u32 | .u64 | .u128 | .u256 | .address | .signer => Nat.zero_le _

theorem depthOfList_le_text : (tags : List TypeTag) →
    depthOfList tags ≤ textDepthOfList tags + 1
  | [] => Nat.zero_le _
  | tag :: rest => by
    have first := depth_le tag
    have others := depthOfList_le_text rest
    rw [depthOfList, textDepthOfList]
    omega

end

/-- A type from text has no names that its form could be refused for. -/
theorem readable_iff_of_parse {text : String} {tag : TypeTag} (run : parse text = .ok tag) :
    tag.Readable ↔ tag.depth ≤ 128 := by
  have names := (spelledWithin_of_parse run).names
  exact ⟨fun readable => readable.depth, fun depth => ⟨names, depth⟩⟩

/-- A type that was read from text has a form if no length in it is too large. The form is read
back exactly when no more than 128 vectors and structs lie one inside the other, and is refused
as invalid otherwise, which takes one level more than that and no further. -/
theorem text_type_reads_back_iff {text : String} {tag : TypeTag} (run : parse text = .ok tag)
    (sizes : ∀ n ∈ tag.lengths, n < 2 ^ 32) :
    ∃ form, codec.encode tag = .ok form ∧
      (codec.decode form = .ok tag ↔ tag.depth ≤ 128) ∧
      ((∃ cause, codec.decode form = .error (.invalid cause)) ↔ tag.depth = 129) := by
  obtain ⟨form, written⟩ := (codec_conforms.carries tag).form_if.1 sizes
  have reach : tag.depth ≤ 129 :=
    (depth_le tag).trans (Nat.succ_le_succ (spelledWithin_of_parse run).depth)
  refine ⟨form, written, ?_⟩
  by_cases shallow : tag.depth ≤ 128
  · have read : codec.decode form = .ok tag :=
      codec_conforms.decode_of_readable written ((readable_iff_of_parse run).mpr shallow)
    refine ⟨iff_of_true read shallow, iff_of_false ?_ (by omega)⟩
    rintro ⟨cause, refused⟩
    cases read.symm.trans refused
  · obtain ⟨cause, refused⟩ := codec_conforms.decode_of_unreadable written
      ((readable_iff_of_parse run).not.mpr shallow)
    refine ⟨iff_of_false ?_ shallow, iff_of_true ⟨cause, refused⟩ (by omega)⟩
    intro read
    cases read.symm.trans refused

/-- Coins inside of `n` vectors. -/
def nestedCoins (n : Nat) : TypeTag := Nat.repeat .vector n (.struct .framework "sui" "SUI" [])

/-- Coins inside of 127 vectors survive text and bytes; inside of one vector more they survive
text alone. -/
theorem nested_coins_by_bytes :
    (∃ form, codec.encode (nestedCoins 127) = .ok form ∧
      codec.decode form = .ok (nestedCoins 127)) ∧
    ∃ form, codec.encode (nestedCoins 128) = .ok form ∧
      ∃ cause, codec.decode form = .error (.invalid cause) := by
  have spelled (n : Nat) (h : ∀ name ∈ (nestedCoins n).names, Move.isIdentifier name)
      (depth : (nestedCoins n).textDepth ≤ 128) :
      parse ((nestedCoins n).canonicalText false) = .ok (nestedCoins n) := by
    rw [parse_canonicalText false _ h, if_pos depth]
  obtain ⟨form, written, back, -⟩ := text_type_reads_back_iff
    (spelled 127 (by decide +kernel) (by decide +kernel)) (by decide +kernel)
  obtain ⟨form', written', -, refused⟩ := text_type_reads_back_iff
    (spelled 128 (by decide +kernel) (by decide +kernel)) (by decide +kernel)
  exact ⟨⟨form, written, back.mpr (by decide +kernel)⟩,
    form', written', refused.mpr (by decide +kernel)⟩

/-- Not every type that text spells is read back from its form. -/
theorem deepest_coins_refused : ¬∀ (text : String) (tag : TypeTag), parse text = .ok tag →
    (∀ n ∈ tag.lengths, n < 2 ^ 32) →
      ∃ form, codec.encode tag = .ok form ∧ codec.decode form = .ok tag := by
  intro always
  have spelled : parse ((nestedCoins 128).canonicalText false) = .ok (nestedCoins 128) := by
    rw [parse_canonicalText false _ (by decide +kernel), if_pos (by decide +kernel)]
  obtain ⟨form, written, read⟩ := always _ _ spelled (by decide +kernel)
  have shallow := (codec_conforms.readable_of_decode read).depth
  exact absurd shallow (by decide +kernel)

end MoveWire.TypeTag
