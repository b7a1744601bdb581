import MoveWire.Proofs.Move.Parameter.Substitution
import MoveWire.Proofs.Move.TypeTag.Text

/-!
The types of function parameters. Main statement: reading the text of a type with parameters in a
call gives the type with the type arguments of the call in their place, whatever the modules and
structs in it are called, and whether the parameter is taken by reference.
-/

namespace MoveWire.Move

open Text

/-- The marks of a reference. -/
def referenceMarks : List String := ["", "&", "&mut "]

/-- A mark in front of a text that could not be taken for one is dropped. -/
theorem dropReference_append {mark : String} {c : Char} {rest : List Char}
    (marked : mark ∈ referenceMarks) (trimmed : Trimmed (c :: rest)) (no_mark : c ≠ '&')
    (no_mut : c ≠ 'm') : dropReference (mark.toList ++ c :: rest) = c :: rest := by
  have solid : trim (mark.toList ++ c :: rest) = mark.toList ++ c :: rest := by
    apply trim_of_trimmed
    constructor
    · intro d first
      simp only [referenceMarks, List.mem_cons, List.not_mem_nil, or_false] at marked
      rcases marked with rfl | rfl | rfl
      · exact trimmed.front d first
      · cases first
        rfl
      · cases first
        rfl
    · intro d last
      rw [List.getLast?_append_of_ne_nil _ (List.cons_ne_nil c rest)] at last
      exact trimmed.back d last
  have start := trimStart_of_trimmed trimmed
  simp only [referenceMarks, List.mem_cons, List.not_mem_nil, or_false] at marked
  rw [dropReference, solid]
  rcases marked with rfl | rfl | rfl
  · simp [stripStart?, Ne.symm no_mark]
  · simp [stripStart?, Ne.symm no_mut, start]
  · simp [stripStart?, start]

namespace GenericType

variable {full : Bool}

/-- The text of a type begins with no mark, and with nothing that could be taken for one behind an
ampersand. -/
theorem front_chars (full : Bool) (g : GenericType) :
    ∃ c rest, g.chars full = c :: rest ∧ c ≠ '&' ∧ c ≠ 'm' := by
  cases g with
  | primitive tag simple =>
    cases tag with
    | vector => cases simple
    | struct => cases simple
    | _ => exact ⟨_, _, rfl, by decide, by decide⟩
  | parameter index => exact ⟨'T', _, rfl, by decide, by decide⟩
  | vector item => exact ⟨'v', _, rfl, by decide, by decide⟩
  | struct owner moduleName name inner =>
    obtain ⟨digits, spelled⟩ := Address.isLiteral_chars full owner
    rw [chars_struct, TypeTag.structChars, spelled.marked]
    exact ⟨'0', _, rfl, by decide, by decide⟩

theorem trimmed_join (texts : List (List Char)) : Trimmed (TypeTag.join texts) := by
  cases texts with
  | nil => exact ⟨nofun, nofun⟩
  | cons text texts =>
    rw [TypeTag.join]
    exact TypeTag.trimmed_enclosed _

theorem trimmed_path (owner : Address) {moduleName name : String}
    (first : isIdentifier moduleName) (second : isIdentifier name) :
    Trimmed (TypeTag.structChars full owner moduleName name) := by
  obtain ⟨digits, spelled⟩ := Address.isLiteral_chars full owner
  have address := TypeTag.trimmed_of_plain spelled.plain
  have inside := TypeTag.trimmed_of_plain (isIdentifier_iff.mp first).plain
  have last := TypeTag.trimmed_of_plain (isIdentifier_iff.mp second).plain
  have colons : Trimmed "::".toList := by
    apply Trimmed.of_forall
    intro c member
    obtain rfl : c = ':' := by simpa using member
    rfl
  exact (((address.append colons).append inside).append colons).append last

theorem trimmed_chars (g : GenericType) (names : ∀ name ∈ g.names, isIdentifier name) :
    Trimmed (g.chars full) := by
  cases g with
  | primitive tag simple =>
    apply TypeTag.trimmed_of_plain
    intro c member
    exact plain_of_isNameChar (isNameChar_primitive simple c member)
  | parameter index =>
    apply TypeTag.trimmed_of_plain
    intro c member
    exact plain_of_isNameChar (isNameChar_parameterChars index c member)
  | vector item =>
    have lead : Trimmed "vector".toList := TypeTag.trimmed_of_plain TypeTag.plain_vector
    exact lead.append (TypeTag.trimmed_enclosed (item.chars full))
  | struct owner moduleName name inner =>
    rw [GenericType.names, List.forall_mem_cons, List.forall_mem_cons] at names
    exact (trimmed_path owner names.1 names.2.1).append (trimmed_join _)

/-- From the whole text of a type comes the text with the arguments in it. -/
theorem substitute_chars {arguments : List TypeTag} (g : GenericType)
    (names : ∀ name ∈ g.names, isIdentifier name) (fits : ∀ k ∈ g.indices, k < 2 ^ 64) :
    substitute arguments none [] (g.chars full) = g.expand full arguments := by
  have scans : Scans arguments (g.chars full) (g.expand full arguments) :=
    scans_chars g names fits
  have whole := scans none [] nofun nofun
  have nothing : substitute arguments none [] [] = .ok [] := rfl
  rw [List.append_nil, nothing] at whole
  rw [whole]
  cases g.expand full arguments with
  | error e => rfl
  | ok text => exact congrArg Except.ok (List.append_nil text)

theorem dropReference_text (g : GenericType) {mark : String} (marked : mark ∈ referenceMarks)
    (names : ∀ name ∈ g.names, isIdentifier name) :
    dropReference (mark ++ g.text full).toList = g.chars full := by
  obtain ⟨c, rest, same, no_mark, no_mut⟩ := g.front_chars full
  have trimmed : Trimmed (g.chars full) := g.trimmed_chars names
  rw [String.toList_append, text, String.toList_ofList]
  rw [same] at trimmed ⊢
  exact dropReference_append marked trimmed no_mark no_mut

/-- If a call has an argument for each parameter, what is read is the type with the arguments in the
place of the parameters, unless that nests too deep; if it has not, a parameter without an argument
is refused, however deep the type nests. -/
theorem parseParameter_text (full : Bool) (g : GenericType) (arguments : List TypeTag)
    {mark : String} (marked : mark ∈ referenceMarks) (names : ∀ name ∈ g.names, isIdentifier name)
    (fits : ∀ k ∈ g.indices, k < 2 ^ 64)
    (known : ∀ argument ∈ arguments, ∀ name ∈ argument.names, isIdentifier name) :
    ((∃ k ∈ g.indices, arguments.length ≤ k) → ∃ k ∈ g.indices, arguments.length ≤ k ∧
      parseParameter (mark ++ g.text full) arguments = .error (missing arguments k)) ∧
    ((∀ k ∈ g.indices, k < arguments.length) → ∃ tag, g.instantiate? arguments = some tag ∧
      parseParameter (mark ++ g.text full) arguments =
        if tag.textDepth ≤ 128 then .ok tag else .error (.parse .depth)) := by
  rw [parseParameter, dropReference_text g marked names, substitute_chars g names fits]
  rcases @expand_cases full arguments g with
    ⟨inRange, tag, text, filled, expanded⟩ | ⟨k, member, short, refused⟩
  · constructor
    · rintro ⟨k, member, short⟩
      have inside := inRange k member
      omega
    · intro _
      refine ⟨tag, filled, ?_⟩
      rw [expanded]
      exact (derives_expand known g names filled expanded).readAs maxTypeDepth
  · constructor
    · intro _
      refine ⟨k, member, short, ?_⟩
      rw [refused]
      rfl
    · intro inRange
      have inside := inRange k member
      omega

/-- A struct that is called like a parameter, in a module that is called like one. -/
def namesake : GenericType := .struct .framework "T0" "T1" [.parameter 0, .vector (.parameter 1)]

/-- Its names stay, its parameters do not; it is refused without a second argument, and with one
that has too many levels of its own. -/
theorem namesake_is_read :
    namesake.text false = "0x2::T0::T1<T0, vector<T1>>" ∧
    parseParameter ("&mut " ++ namesake.text false) [.u8, .bool] =
      .ok (.struct .framework "T0" "T1" [.u8, .vector .bool]) ∧
    parseParameter ("&" ++ namesake.text true) [.u8] = .error (missing [.u8] 1) ∧
    parseParameter ("" ++ namesake.text false) [.u8, Nat.repeat .vector 127 .bool] =
      .error (.parse .depth) := by
  have names : ∀ name ∈ namesake.names, isIdentifier name := by decide
  have fits : ∀ k ∈ namesake.indices, k < 2 ^ 64 := by decide
  refine ⟨by decide +kernel, ?_, ?_, ?_⟩
  · obtain ⟨tag, filled, read⟩ := (parseParameter_text false namesake [.u8, .bool]
      (by decide : "&mut " ∈ referenceMarks) names fits (by decide)).2 (by decide)
    cases filled
    exact read
  · obtain ⟨k, member, short, refused⟩ := (parseParameter_text true namesake [.u8]
      (by decide : "&" ∈ referenceMarks) names fits (by decide)).1 (by decide)
    have second : k ∈ [0, 1] := member
    obtain rfl : k = 1 := by
      simp only [List.mem_cons, List.not_mem_nil, or_false] at second
      rcases second with rfl | rfl
      · cases short
      · rfl
    exact refused
  · obtain ⟨tag, filled, read⟩ := (parseParameter_text false namesake
      [.u8, Nat.repeat .vector 127 .bool] (by decide : "" ∈ referenceMarks) names fits
      (by decide +kernel)).2 (by decide +kernel)
    cases filled
    rw [read, if_neg (by decide +kernel)]

end GenericType

end MoveWire.Move
