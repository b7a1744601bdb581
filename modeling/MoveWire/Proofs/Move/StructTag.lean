import MoveWire.Proofs.Move.TypeTag.Text
import MoveWire.Proofs.Move.TypeTag.Wire
import MoveWire.Proofs.Wire.WholeBuffer

/-!
Structs on their own and as types. Their texts are read alike: in both the list of type arguments
is a level. Of the byte forms the type spends a level on the struct itself, and the struct on its
own does not, so its arguments may nest one level deeper than those of the same struct as a type.
-/

namespace MoveWire.StructTag

/-- The codec reads type arguments with all levels left for them. -/
theorem codec_eq : codec = TypeTag.structCodec (TypeTag.codecWithin maxTypeDepth) := by
  have write : StructTag.write =
      (TypeTag.structCodec (TypeTag.codecWithin maxTypeDepth)).write := by
    funext s
    exact (TypeTag.structCodec_write maxTypeDepth s).symm
  have read : TypeTag.readStruct (TypeTag.readWithin maxTypeDepth) =
      (TypeTag.structCodec (TypeTag.codecWithin maxTypeDepth)).read :=
    (TypeTag.structCodec_read (TypeTag.codecWithin maxTypeDepth)).symm
  rw [codec, write, read]

theorem codec_conforms : codec.Conforms (TypeTag.structDomain maxTypeDepth) := by
  rw [codec_eq]
  constructor
  · intro s
    apply TypeTag.structCodec_carries
    intro tag _
    exact TypeTag.carries tag maxTypeDepth
  · exact TypeTag.structCodec_canonical (TypeTag.canonicalWithin maxTypeDepth)

/-- The form of the type is the form of the struct behind the number of structs. -/
theorem encode_toTypeTag_eq_ok_iff {s : StructTag} {form : Bytes} :
    TypeTag.codec.encode s.toTypeTag = .ok (7 :: form) ↔ codec.encode s = .ok form := by
  change TypeTag.write (.struct s.owner s.moduleName s.name s.arguments) = _ ↔ codec.write s = _
  rw [TypeTag.write_struct maxTypeDepth, ← codec_eq, Fallible.cons_eq_ok]
  constructor
  · rintro ⟨back, written, same⟩
    cases same
    exact written
  · intro written
    exact ⟨form, written, rfl⟩

variable {s : StructTag} {bytes : Bytes}

theorem decode_eq_ok_iff : codec.decode bytes = .ok s ↔
    codec.encode s = .ok bytes ∧ s.toTypeTag.ReadableWithin 129 :=
  codec_conforms.decode_eq_ok_iff rfl

theorem decode_toTypeTag_eq_ok_iff : TypeTag.codec.decode (7 :: bytes) = .ok s.toTypeTag ↔
    codec.encode s = .ok bytes ∧ s.toTypeTag.ReadableWithin 128 := by
  rw [TypeTag.codec_conforms.decode_eq_ok_iff rfl, encode_toTypeTag_eq_ok_iff]
  rfl

/-- A text is read as a struct exactly when it is read as the type of that struct. Bytes are, too,
as long as no more than 128 vectors and structs lie one inside the other, the struct included. One
level more is still read as a struct, and refused as invalid when it is read as a type. -/
theorem read_alone_iff_as_type (text : String) (bytes : Bytes) (s : StructTag) :
    (parse text = .ok s ↔ TypeTag.parse text = .ok s.toTypeTag) ∧
    (TypeTag.codec.decode (7 :: bytes) = .ok s.toTypeTag ↔
      codec.decode bytes = .ok s ∧ s.toTypeTag.depth ≤ 128) ∧
    (codec.decode bytes = .ok s → s.toTypeTag.depth ≤ 128 ∨ s.toTypeTag.depth = 129 ∧
      ∃ cause, TypeTag.codec.decode (7 :: bytes) = .error (.invalid cause)) := by
  refine ⟨?_, ?_, ?_⟩
  · rw [parse_eq, TypeTag.parseStruct_eq_ok_iff]
    exact TypeTag.parseWithin_eq_ok_iff.symm
  · rw [decode_toTypeTag_eq_ok_iff, decode_eq_ok_iff]
    constructor
    · rintro ⟨written, names, depth⟩
      exact ⟨⟨written, names, by omega⟩, depth⟩
    · rintro ⟨⟨written, names, -⟩, depth⟩
      exact ⟨written, names, depth⟩
  · rw [decode_eq_ok_iff]
    rintro ⟨written, -, reach⟩
    by_cases shallow : s.toTypeTag.depth ≤ 128
    · left
      exact shallow
    · right
      refine ⟨by omega, ?_⟩
      apply TypeTag.codec_conforms.decode_of_unreadable (encode_toTypeTag_eq_ok_iff.mpr written)
      intro readable
      exact shallow readable.depth

/-- A struct whose one type argument is bytes inside of `n` vectors. -/
def nested (n : Nat) : StructTag :=
  ⟨.framework, "m", "S", [Nat.repeat .vector n .u8]⟩

/-- Its byte form. -/
def nestedForm (n : Nat) : Bytes :=
  Address.framework.bytes ++ [1, 109, 1, 83, 1] ++ List.replicate n 6 ++ [1]

/-- 129 levels, with the struct itself, are read as a struct. -/
theorem decode_nestedForm : codec.decode (nestedForm 128) = .ok (nested 128) := by
  rw [decode_eq_ok_iff]
  exact ⟨by decide +kernel, by decide +kernel, by decide +kernel⟩

/-- With 127 vectors the bytes are those of a type, with 128 they are those of a struct only. -/
theorem nested_read_as_type :
    TypeTag.codec.decode (7 :: nestedForm 127) = .ok (nested 127).toTypeTag ∧
    ∃ cause, TypeTag.codec.decode (7 :: nestedForm 128) = .error (.invalid cause) := by
  constructor
  · rw [(read_alone_iff_as_type "" (nestedForm 127) (nested 127)).2.1, decode_eq_ok_iff]
    exact ⟨⟨by decide +kernel, by decide +kernel, by decide +kernel⟩, by decide +kernel⟩
  · rcases (read_alone_iff_as_type "" (nestedForm 128) (nested 128)).2.2 decode_nestedForm with
      shallow | ⟨-, refused⟩
    · exact absurd shallow (by decide +kernel)
    · exact refused

/-- Not all bytes of a struct are, behind the number of structs, the bytes of a type. -/
theorem deepest_struct_no_type : ¬∀ (bytes : Bytes) (s : StructTag),
    codec.decode bytes = .ok s ↔ TypeTag.codec.decode (7 :: bytes) = .ok s.toTypeTag := by
  intro always
  have as_type := (always _ _).mp decode_nestedForm
  have shallow : (nested 128).toTypeTag.depth ≤ 128 :=
    (decode_toTypeTag_eq_ok_iff.mp as_type).2.depth
  exact absurd shallow (by decide +kernel)

end MoveWire.StructTag
