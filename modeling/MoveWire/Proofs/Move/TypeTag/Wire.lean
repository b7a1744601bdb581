import MoveWire.Move.TypeTag.Wire
import MoveWire.Proofs.Move.TypeTag.Parts
import MoveWire.Proofs.Object

/-!
The laws of the byte form of types. Every type has a form unless one of its lengths is too large,
and no form begins with another; a form can be read back exactly when all names in the type are
identifiers and it nests no deeper than the reader allows.
-/

namespace MoveWire.TypeTag

/-- All names are identifiers, and at most `left` vectors and structs lie one inside the other. -/
structure ReadableWithin (left : Nat) (tag : TypeTag) : Prop where
  names : ∀ name ∈ tag.names, Move.isIdentifier name
  depth : tag.depth ≤ left

/-- A type that can be read back from its byte form. -/
def Readable (tag : TypeTag) : Prop := tag.ReadableWithin maxTypeDepth

/-- The codec that leaves room for `left` levels. -/
def codecWithin (left : Nat) : Codec TypeTag := ⟨write, readWithin left⟩

def domainWithin (left : Nat) : Domain TypeTag where
  Fits tag := ∀ n ∈ tag.lengths, n < 2 ^ 32
  Readable := ReadableWithin left
  normal := id

/-- Names are checked when they are read and not when they are written. -/
def identifier : Codec String := ⟨Writer.string, readIdentifier⟩

def identifierDomain : Domain String where
  Fits name := name.utf8ByteSize < 2 ^ 32
  Readable name := Move.isIdentifier name
  normal := id

theorem identifier_conforms : identifier.Conforms identifierDomain where
  carries name :=
    { form_if := (Codec.string_conforms.carries name).form_if
      normal := rfl
      separate := (Codec.string_conforms.carries name).separate
      reads_back := by
        intro form written
        have read := fun start => Codec.string_conforms.takes written trivial start
        refine ⟨fun good start => ?_, fun bad start => ?_⟩
        · exact .offset_bind ((read start).bind_pure (if_pos good))
        · exact .offset_bind ((read start).refuses_check (if_neg bad)) }
  canonical := by
    intro cursor name next run
    change readIdentifier cursor = _ at run
    rw [readIdentifier, Reader.offset_bind] at run
    obtain ⟨text, after, read, check⟩ := Stateful.bind_eq_ok run
    split at check
    · cases check
      exact Codec.string_conforms.canonical _ _ _ read
    · cases check

/-- The parts of a struct, with their arguments under a codec for types. -/
def structCodec (argument : Codec TypeTag) : Codec StructTag :=
  (Address.codec.pair (identifier.pair (identifier.pair argument.vector))).map
    (fun (owner, moduleName, name, arguments) => ⟨owner, moduleName, name, arguments⟩)
    fun s => (s.owner, s.moduleName, s.name, s.arguments)

theorem structCodec_read (argument : Codec TypeTag) :
    (structCodec argument).read = readStruct argument.read := by
  simp [structCodec, readStruct, Codec.map, Codec.pair, identifier, Codec.vector]

theorem writeList_eq (tags : List TypeTag) : writeList tags = Writer.items write tags := by
  induction tags with
  | nil => rfl
  | cons tag rest ih => rw [writeList, ih, Codec.items_cons]

theorem structCodec_write (left : Nat) (s : StructTag) :
    (structCodec (codecWithin left)).write s = s.write := by
  simp [structCodec, StructTag.write, writePath, Codec.map, Codec.pair, identifier, Codec.vector,
    codecWithin, Writer.vector, writeList_eq, List.append_assoc]

theorem write_struct (left : Nat) (owner : Address) (moduleName name : String)
    (arguments : List TypeTag) : write (.struct owner moduleName name arguments) =
      (do return 7 :: (← (structCodec (codecWithin left)).write
        ⟨owner, moduleName, name, arguments⟩)) := by
  simp [structCodec_write, write, StructTag.write, wireTag]

theorem write_primitive {tag : TypeTag} (h : tag.isPrimitive) : write tag = .ok [wireTag tag] := by
  cases tag with
  | vector => cases h
  | struct => cases h
  | _ => rfl

/-- Every form starts with the number of the type's form. -/
theorem write_head {tag : TypeTag} {form : Bytes} (h : write tag = .ok form) :
    ∃ back, form = wireTag tag :: back := by
  cases tag with
  | vector item =>
    obtain ⟨back, -, rfl⟩ := Fallible.cons_eq_ok.mp h
    exact ⟨back, rfl⟩
  | struct owner moduleName name arguments =>
    rw [write_struct 0] at h
    obtain ⟨back, -, rfl⟩ := Fallible.cons_eq_ok.mp h
    exact ⟨back, rfl⟩
  | _ => cases h; exact ⟨[], rfl⟩

theorem eq_of_wireTag {tag other : TypeTag} (h : tag.isPrimitive)
    (same : wireTag tag = wireTag other) : tag = other := by
  cases tag <;> cases other <;> simp_all [wireTag, isPrimitive]

theorem vector_of_wireTag {tag : TypeTag} (h : wireTag tag = 6) : ∃ item, tag = .vector item := by
  cases tag with
  | vector item => exact ⟨item, rfl⟩
  | _ => exact absurd h (by simp [wireTag])

theorem struct_of_wireTag {tag : TypeTag} (h : wireTag tag = 7) :
    ∃ owner moduleName name arguments, tag = .struct owner moduleName name arguments := by
  cases tag with
  | struct owner moduleName name arguments => exact ⟨owner, moduleName, name, arguments, rfl⟩
  | _ => exact absurd h (by simp [wireTag])

theorem readWithin_primitive {tag : TypeTag} (h : tag.isPrimitive) (left start : Nat) :
    (readWithin left).Takes start [wireTag tag] tag := by
  rw [readWithin.eq_def]
  refine .offset_bind ((Reader.u8_takes start (wireTag tag)).bind_pure ?_)
  cases tag with
  | vector => cases h
  | struct => cases h
  | _ => rfl

theorem carries_primitive {tag : TypeTag} (h : tag.isPrimitive) (left : Nat) :
    (codecWithin left).Carries (domainWithin left) tag := by
  obtain ⟨names, lengths, depth⟩ := primitive_parts h
  refine ⟨?_, rfl, fun {form} written => ?_, ?_⟩
  · exact (Fallible.FormIf.of_ok (write_primitive h)).congr
      (iff_of_true trivial (by simp [domainWithin, lengths]))
  · obtain rfl := Except.ok.inj ((write_primitive h).symm.trans written)
    refine (Reader.ReadsBack.of_takes (readWithin_primitive h left)).congr
      (iff_of_true trivial ⟨?_, ?_⟩) rfl
    · simp [names]
    · omega
  · intro other form form' rest tail hv hw same
    obtain rfl := Except.ok.inj ((write_primitive h).symm.trans hv)
    obtain ⟨back, rfl⟩ := write_head hw
    obtain rfl := eq_of_wireTag h (List.cons.inj same).1
    exact ⟨rfl, Except.ok.inj (hv.symm.trans hw)⟩

/-- Where no level is left, the number of a vector or of a struct is enough to be refused. -/
theorem readWithin_zero {number : UInt8} (composed : number = 6 ∨ number = 7) (back : Bytes)
    (tag : TypeTag) : (readWithin 0).ReadsBack (number :: back) False tag := by
  refine .of_refuses (fun start rest => ?_) tag
  refine ⟨.typeTagDepth start, ⟨start + 1, back ++ rest⟩, ?_⟩
  rw [readWithin.eq_def]
  rcases composed with rfl | rfl <;> rfl

theorem readWithin_vector {left : Nat} {back : Bytes} {p : Prop} {item : TypeTag}
    (h : (readWithin left).ReadsBack back p item) :
    (readWithin (left + 1)).ReadsBack (6 :: back) p (.vector item) := by
  rw [readWithin.eq_def]
  refine .offset_bind fun place => ?_
  have number : Reader.u8.ReadsBack [6] True 6 :=
    .of_takes fun start => Reader.u8_takes start 6
  refine Reader.ReadsBack.congr (number.bind ?_) (and_iff_right trivial) rfl
  exact h.map vector

theorem readWithin_struct {left : Nat} {back : Bytes} {p : Prop} {s : StructTag}
    (h : (readStruct (readWithin left)).ReadsBack back p s) :
    (readWithin (left + 1)).ReadsBack (7 :: back) p s.toTypeTag := by
  rw [readWithin.eq_def]
  refine .offset_bind fun place => ?_
  have number : Reader.u8.ReadsBack [7] True 7 :=
    .of_takes fun start => Reader.u8_takes start 7
  refine Reader.ReadsBack.congr (number.bind ?_) (and_iff_right trivial) rfl
  exact h.map StructTag.toTypeTag

/-- The item of a vector has one level less to nest in. -/
theorem carries_vector {item : TypeTag}
    (h : ∀ left, (codecWithin left).Carries (domainWithin left) item) (left : Nat) :
    (codecWithin left).Carries (domainWithin left) (.vector item) := by
  refine ⟨?_, rfl, fun {form} written => ?_, ?_⟩
  · exact (h left).form_if.cons.congr (by simp [domainWithin])
  · obtain ⟨back, inner, rfl⟩ := Fallible.cons_eq_ok.mp written
    cases left with
    | zero =>
      refine (readWithin_zero (.inl rfl) back _).congr (iff_of_false id fun readable => ?_) rfl
      exact absurd readable.depth (by simp [depth])
    | succ left =>
      refine (readWithin_vector ((h left).reads_back inner)).congr
        ⟨fun inside => ?_, fun whole => ?_⟩ rfl
      · exact ⟨by simpa using inside.names, Nat.succ_le_succ inside.depth⟩
      · exact ⟨by simpa using whole.names, Nat.le_of_succ_le_succ whole.depth⟩
  · intro other form form' rest tail hv hw same
    obtain ⟨back, inner, rfl⟩ := Fallible.cons_eq_ok.mp hv
    obtain ⟨back', rfl⟩ := write_head hw
    obtain ⟨item', rfl⟩ := vector_of_wireTag (List.cons.inj same).1.symm
    obtain ⟨back', inner', rest'⟩ := Fallible.cons_eq_ok.mp hw
    cases rest'
    obtain ⟨equal, rfl⟩ := (h left).separate inner inner' (List.cons.inj same).2
    exact ⟨congrArg vector equal, rfl⟩

theorem readableWithin_struct {left : Nat} {owner : Address} {moduleName name : String}
    {arguments : List TypeTag} :
    (struct owner moduleName name arguments).ReadableWithin (left + 1) ↔
      Move.isIdentifier moduleName ∧ Move.isIdentifier name ∧
        ∀ tag ∈ arguments, tag.ReadableWithin left := by
  constructor
  · rintro ⟨names, depth⟩
    simp only [names_struct, List.forall_mem_cons, List.forall_mem_flatMap] at names
    obtain ⟨first, second, others⟩ := names
    exact ⟨first, second, fun tag member =>
      ⟨others tag member, depthOfList_le.mp (Nat.le_of_succ_le_succ depth) tag member⟩⟩
  · rintro ⟨first, second, others⟩
    refine ⟨?_, Nat.succ_le_succ (depthOfList_le.mpr fun tag member => (others tag member).depth)⟩
    simp only [names_struct, List.forall_mem_cons, List.forall_mem_flatMap]
    exact ⟨first, second, fun tag member => (others tag member).names⟩

/-- Structs inside of which `left` more levels may nest. -/
def structDomain (left : Nat) : Domain StructTag where
  Fits s := ∀ n ∈ s.toTypeTag.lengths, n < 2 ^ 32
  Readable s := s.toTypeTag.ReadableWithin (left + 1)
  normal := id

theorem structCodec_carries {left : Nat} {s : StructTag}
    (h : ∀ tag ∈ s.arguments, (codecWithin left).Carries (domainWithin left) tag) :
    (structCodec (codecWithin left)).Carries (structDomain left) s := by
  have fields := (Address.codec_conforms.carries s.owner).pair
    ((identifier_conforms.carries s.moduleName).pair
      ((identifier_conforms.carries s.name).pair (.vector h)))
  refine (Codec.Carries.map (b := s) (fun _ => rfl) fields).congr ?_ ?_ fun b => ?_
  · simp only [structDomain, StructTag.toTypeTag, lengths_struct, List.forall_mem_cons]
    simp only [Domain.map, Domain.pair, Domain.vector, Domain.all, Domain.plain, true_and,
      identifierDomain, domainWithin, List.forall_mem_flatMap]
  · rw [show (structDomain left).Readable s ↔ _ from readableWithin_struct]
    simp [identifierDomain, domainWithin]
  · simp [structDomain, identifierDomain, domainWithin]

theorem carries_struct {owner : Address} {moduleName name : String} {arguments : List TypeTag}
    (h : ∀ tag ∈ arguments, ∀ left, (codecWithin left).Carries (domainWithin left) tag)
    (left : Nat) :
    (codecWithin left).Carries (domainWithin left) (.struct owner moduleName name arguments) := by
  have fields (left : Nat) := structCodec_carries (s := ⟨owner, moduleName, name, arguments⟩)
    fun tag member => h tag member left
  refine ⟨?_, rfl, fun {form} written => ?_, ?_⟩
  · change (write _).FormIf _
    rw [write_struct left]
    exact (fields left).form_if.cons
  · change write _ = _ at written
    cases left with
    | zero =>
      rw [write_struct 0] at written
      obtain ⟨back, -, rfl⟩ := Fallible.cons_eq_ok.mp written
      refine (readWithin_zero (.inr rfl) back _).congr (iff_of_false id fun readable => ?_) rfl
      exact absurd readable.depth (by simp [depth])
    | succ left =>
      rw [write_struct left] at written
      obtain ⟨back, inner, rfl⟩ := Fallible.cons_eq_ok.mp written
      have read := (fields left).reads_back inner
      rw [structCodec_read] at read
      exact readWithin_struct read
  · intro other form form' rest tail hv hw same
    change write _ = _ at hv hw
    rw [write_struct left] at hv
    obtain ⟨back, inner, rfl⟩ := Fallible.cons_eq_ok.mp hv
    obtain ⟨back', rfl⟩ := write_head hw
    obtain ⟨owner', moduleName', name', arguments', rfl⟩ :=
      struct_of_wireTag (List.cons.inj same).1.symm
    rw [write_struct left] at hw
    obtain ⟨back', inner', rest'⟩ := Fallible.cons_eq_ok.mp hw
    cases rest'
    obtain ⟨equal, rfl⟩ := (fields left).separate inner inner' (List.cons.inj same).2
    exact ⟨congrArg StructTag.toTypeTag equal, rfl⟩

mutual

theorem carries : (tag : TypeTag) → ∀ left, (codecWithin left).Carries (domainWithin left) tag
  | .vector item => carries_vector (carries item)
  | .struct _ _ _ arguments => carries_struct (carriesAll arguments)
  | .bool => carries_primitive rfl
  | .u8 => carries_primitive rfl
  | .u16 => carries_primitive rfl
  | .u32 => carries_primitive rfl
  | .u64 => carries_primitive rfl
  | .u128 => carries_primitive rfl
  | .u256 => carries_primitive rfl
  | .address => carries_primitive rfl
  | .signer => carries_primitive rfl

theorem carriesAll : (tags : List TypeTag) →
    ∀ tag ∈ tags, ∀ left, (codecWithin left).Carries (domainWithin left) tag
  | [] => fun _ h => nomatch h
  | tag :: rest => List.forall_mem_cons.mpr ⟨carries tag, carriesAll rest⟩

end

theorem structCodec_canonical {argument : Codec TypeTag} (h : argument.Canonical) :
    (structCodec argument).Canonical :=
  (Address.codec_conforms.canonical.pair (identifier_conforms.canonical.pair
    (identifier_conforms.canonical.pair h.vector))).map fun _ => rfl

/-- What a type is read from: its number alone, or the number of a vector or of a struct in front
of parts that are read with one level less. -/
theorem readWithin_eq_ok {left : Nat} {cursor next : Cursor} {tag : TypeTag}
    (run : readWithin left cursor = .ok tag next) :
    (tag.isPrimitive ∧ cursor.rest = wireTag tag :: next.rest) ∨
      ∃ less after, left = less + 1 ∧
        ((cursor.rest = 6 :: after.rest ∧ (vector <$> readWithin less) after = .ok tag next) ∨
          (cursor.rest = 7 :: after.rest ∧
            (StructTag.toTypeTag <$> readStruct (readWithin less)) after = .ok tag next)) := by
  rw [readWithin.eq_def, Reader.offset_bind] at run
  obtain ⟨number, after, byte, inner⟩ := Stateful.bind_eq_ok run
  have front := Reader.u8_eq_ok byte
  generalize value : number.toNat = n at inner
  obtain rfl : number = UInt8.ofNat n := by rw [← value, UInt8.ofNat_toNat]
  match n, left with
  | 0, _ | 1, _ | 2, _ | 3, _ | 4, _ | 5, _ | 8, _ | 9, _ | 10, _ =>
    cases inner
    exact .inl ⟨rfl, front⟩
  | 6, 0 | 7, 0 => cases inner
  | 6, less + 1 => exact .inr ⟨less, after, rfl, .inl ⟨front, inner⟩⟩
  | 7, less + 1 => exact .inr ⟨less, after, rfl, .inr ⟨front, inner⟩⟩
  | _ + 11, _ => cases inner

theorem canonicalWithin (left : Nat) : (codecWithin left).Canonical := by
  induction left using Nat.strongRecOn with
  | ind left ih =>
    intro cursor tag next run
    rcases readWithin_eq_ok run with
      ⟨simple, front⟩ | ⟨less, after, rfl, ⟨front, inner⟩ | ⟨front, inner⟩⟩
    · exact ⟨[wireTag tag], write_primitive simple, front⟩
    · obtain ⟨item, read, rfl⟩ := Stateful.map_eq_ok inner
      obtain ⟨back, written, back_rest⟩ := ih less (Nat.lt_succ_self less) _ _ _ read
      refine ⟨6 :: back, Fallible.cons_eq_ok.mpr ⟨back, written, rfl⟩, ?_⟩
      rw [front, back_rest]
      rfl
    · obtain ⟨s, read, rfl⟩ := Stateful.map_eq_ok inner
      have parts := structCodec_canonical (ih less (Nat.lt_succ_self less))
      unfold Codec.Canonical at parts
      rw [structCodec_read] at parts
      obtain ⟨back, written, back_rest⟩ := parts _ _ _ read
      refine ⟨7 :: back, ?_, by rw [front, back_rest]; rfl⟩
      change write s.toTypeTag = _
      rw [StructTag.toTypeTag, write_struct less]
      exact Fallible.cons_eq_ok.mpr ⟨back, written, rfl⟩

theorem codec_conforms : codec.Conforms (domainWithin maxTypeDepth) :=
  ⟨fun tag => carries tag maxTypeDepth, canonicalWithin maxTypeDepth⟩

end MoveWire.TypeTag
