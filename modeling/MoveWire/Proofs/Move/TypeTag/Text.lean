import MoveWire.Proofs.Move.TypeTag.Accepted
import MoveWire.Proofs.Move.TypeTag.Printed

/-!
Printing and reading of types are inverse to each other. Main statement: a printed type is read
back exactly when all of its names are identifiers and it nests no deeper than the reader allows,
where a vector and a struct with type arguments are a level each and a struct without them is
none; a type that only nests too deep is refused for its depth.
-/

namespace MoveWire

namespace TypeTag

/-- All names are identifiers, and at most `left` levels of the text lie one inside the other. -/
structure SpelledWithin (left : Nat) (tag : TypeTag) : Prop where
  names : ∀ name ∈ tag.names, Move.isIdentifier name
  depth : tag.textDepth ≤ left

theorem SpellsPath.names {cs : List Char} {owner : Address} {moduleName name : String}
    (h : SpellsPath cs owner moduleName name) :
    Move.isIdentifier moduleName ∧ Move.isIdentifier name := by
  cases h with
  | path _ inside last =>
    exact ⟨Move.isIdentifier_iff.mpr inside.identifier, Move.isIdentifier_iff.mpr last.identifier⟩

/-- Whatever text a type is derived from, its names are identifiers. -/
theorem Derives.names {cs : List Char} {tag : TypeTag} (h : Derives cs tag) :
    ∀ name ∈ tag.names, Move.isIdentifier name := by
  refine Derives.induction (motive := fun _ tag => ∀ name ∈ tag.names, Move.isIdentifier name)
    ?keyword ?vector ?struct ?generic h
  case keyword =>
    intro cs word tag listed _
    have simple : ∀ entry ∈ keywords, entry.2.names = [] := by decide
    rw [simple _ listed]
    exact nofun
  case vector =>
    intro cs text item _ each _
    rwa [names_vector]
  case struct =>
    intro cs owner moduleName name path
    obtain ⟨first, second⟩ := path.names
    simp [first, second]
  case generic =>
    intro cs after parts owner moduleName name arguments path _ _ each _
    obtain ⟨first, second⟩ := path.names
    rw [names_struct, List.forall_mem_cons, List.forall_mem_cons, List.forall_mem_flatMap]
    exact ⟨first, second, forall_left_of_forall₂ each.flip⟩

theorem parse_canonicalText (full : Bool) (tag : TypeTag)
    (h : ∀ name ∈ tag.names, Move.isIdentifier name) :
    parse (tag.canonicalText full) =
      if tag.textDepth ≤ 128 then .ok tag else .error (.parse .depth) := by
  rw [parse, canonicalText, String.toList_ofList]
  exact (derives_chars tag h).readAs maxTypeDepth

theorem spelledWithin_of_parse {text : String} {tag : TypeTag} (run : parse text = .ok tag) :
    tag.SpelledWithin 128 := by
  obtain ⟨derived, depth⟩ := parseWithin_eq_ok_iff.mp run
  exact ⟨derived.names, depth⟩

end TypeTag

/-- A struct on its own has as many levels as one inside of a type. -/
theorem StructTag.parse_eq (text : String) :
    parse text = TypeTag.parseStruct (TypeTag.inside 128) text.toList := rfl

theorem StructTag.parse_canonicalText (full : Bool) (s : StructTag)
    (h : ∀ name ∈ s.toTypeTag.names, Move.isIdentifier name) :
    parse (s.canonicalText full) =
      if s.toTypeTag.textDepth ≤ 128 then .ok s else .error (.parse .depth) := by
  rw [parse_eq, canonicalText, TypeTag.canonicalText, String.toList_ofList]
  exact (TypeTag.derives_chars s.toTypeTag h).parseStruct 128

theorem StructTag.spelledWithin_of_parse {text : String} {s : StructTag}
    (run : parse text = .ok s) : s.toTypeTag.SpelledWithin 128 := by
  rw [parse_eq] at run
  obtain ⟨derived, depth⟩ := TypeTag.parseStruct_eq_ok_iff.mp run
  exact ⟨derived.names, depth⟩

/-- Printed types and printed structs, with short and with full addresses, are read back exactly
when all names are identifiers and at most 128 levels lie one inside the other; too many levels
alone are refused as such. -/
theorem printed_types_read_back (full : Bool) :
    (∀ tag : TypeTag,
      (TypeTag.parse (tag.canonicalText full) = .ok tag ↔
        (∀ name ∈ tag.names, Move.isIdentifier name) ∧ tag.textDepth ≤ 128) ∧
      ((∀ name ∈ tag.names, Move.isIdentifier name) → 128 < tag.textDepth →
        TypeTag.parse (tag.canonicalText full) = .error (.parse .depth))) ∧
    ∀ s : StructTag,
      (StructTag.parse (s.canonicalText full) = .ok s ↔
        (∀ name ∈ s.toTypeTag.names, Move.isIdentifier name) ∧ s.toTypeTag.textDepth ≤ 128) ∧
      ((∀ name ∈ s.toTypeTag.names, Move.isIdentifier name) → 128 < s.toTypeTag.textDepth →
        StructTag.parse (s.canonicalText full) = .error (.parse .depth)) := by
  constructor
  · intro tag
    refine ⟨⟨fun run => ?_, fun ⟨names, depth⟩ => ?_⟩, fun names too_deep => ?_⟩
    · have spelled := TypeTag.spelledWithin_of_parse run
      exact ⟨spelled.names, spelled.depth⟩
    · rw [TypeTag.parse_canonicalText full tag names, if_pos depth]
    · rw [TypeTag.parse_canonicalText full tag names, if_neg (Nat.not_le.mpr too_deep)]
  · intro s
    refine ⟨⟨fun run => ?_, fun ⟨names, depth⟩ => ?_⟩, fun names too_deep => ?_⟩
    · have spelled := StructTag.spelledWithin_of_parse run
      exact ⟨spelled.names, spelled.depth⟩
    · rw [StructTag.parse_canonicalText full s names, if_pos depth]
    · rw [StructTag.parse_canonicalText full s names, if_neg (Nat.not_le.mpr too_deep)]

/-- A pool of a coin type inside of `n` vectors. -/
def StructTag.nestedPool (n : Nat) : StructTag :=
  ⟨.framework, "pool", "Pool", [.u64, Nat.repeat .vector n (.struct .framework "sui" "SUI" [])]⟩

/-- A struct with type arguments is a level and one without them is none, so 127 vectors still fit
between the two. -/
theorem nested_pools_read_back :
    StructTag.parse ((StructTag.nestedPool 127).canonicalText false) = .ok (.nestedPool 127) ∧
    StructTag.parse ((StructTag.nestedPool 128).canonicalText true) = .error (.parse .depth) ∧
    TypeTag.parse ((StructTag.nestedPool 127).toTypeTag.vector.canonicalText true) =
      .error (.parse .depth) := by
  refine ⟨((printed_types_read_back false).2 (.nestedPool 127)).1.mpr ⟨?_, ?_⟩,
    ((printed_types_read_back true).2 (.nestedPool 128)).2 ?_ ?_,
    ((printed_types_read_back true).1 (StructTag.nestedPool 127).toTypeTag.vector).2 ?_ ?_⟩ <;>
    decide +kernel

end MoveWire
