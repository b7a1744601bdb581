import MoveWire.Proofs.Move.Parameter.Generic

/-!
Putting type arguments into text, word by word. A word behind a colon stays what it is; elsewhere it
is replaced if it is the name of a parameter. In the text of a type with parameters the words
elsewhere are keywords, addresses and the names of its parameters, so that what comes out is the
text with the arguments in the place of the parameters.
-/

namespace MoveWire

namespace Decimal

theorem isDigit_of_mem_toDigits {n : Nat} {c : Char} (member : c ∈ Nat.toDigits 10 n) :
    isDigit c = true := by
  have decimal := Nat.isDigit_of_mem_toDigits (by decide) (by decide) member
  simpa [Char.isDigit, isDigit, Char.le_def] using decimal

/-- Printed digits are those of their number. -/
theorem ofDigits_toDigits (n : Nat) : ofDigits (Nat.toDigits 10 n) = n := by
  have read (digits : List Char) : ofDigits digits = Nat.ofDigitChars 10 digits 0 := by
    simp only [ofDigits, Nat.ofDigitChars, Nat.mul_comm]
    rfl
  rw [read, Nat.ofDigitChars_ten_toDigits]

end Decimal

namespace Move

/-- No word goes on in this text. -/
def Ends (rest : List Char) : Prop := ∀ c ∈ rest.head?, isNameChar c = false

theorem Ends.cons {c : Char} (mark : isNameChar c = false) (rest : List Char) :
    Ends (c :: rest) := by
  intro d first
  cases first
  exact mark

section Words

variable {arguments : List TypeTag} {separator : Option Char} {word rest : List Char}

theorem substitute_append (names : ∀ c ∈ word, isNameChar c = true) (read rest : List Char) :
    substitute arguments separator read (word ++ rest) =
      substitute arguments separator (word.reverse ++ read) rest := by
  induction word generalizing read with
  | nil => rfl
  | cons c word ih =>
    obtain ⟨first, others⟩ := List.forall_mem_cons.mp names
    rw [List.cons_append, substitute, if_pos first, ih others, List.reverse_cons, List.append_assoc,
      List.singleton_append]

theorem replaceWord_nil : replaceWord arguments separator [] = .ok [] := rfl

/-- A character outside of words is kept, and separates what stands behind it. -/
theorem substitute_mark {c : Char} (mark : isNameChar c = false) (rest : List Char) :
    substitute arguments separator [] (c :: rest) =
      (c :: ·) <$> substitute arguments (some c) [] rest := by
  rw [substitute, if_neg (by simp [mark]), List.reverse_nil, replaceWord_nil]
  change (do return c :: (← substitute arguments (some c) [] rest)) = _
  rw [bind_pure_comp]

/-- What separates a text from the one before matters to a word at its beginning only. -/
theorem substitute_of_ends (ends : Ends rest) :
    substitute arguments separator [] rest = substitute arguments none [] rest := by
  cases rest with
  | nil => rfl
  | cons c rest =>
    have mark : isNameChar c = false := ends c rfl
    rw [substitute_mark mark, substitute_mark mark]

/-- A word is replaced where it ends. -/
theorem substitute_word (names : ∀ c ∈ word, isNameChar c = true) (ends : Ends rest) :
    substitute arguments separator [] (word ++ rest) =
      replaceWord arguments separator word >>= fun out =>
        (out ++ ·) <$> substitute arguments none [] rest := by
  rw [substitute_append names, List.append_nil]
  cases rest with
  | nil =>
    rw [substitute, List.reverse_reverse]
    have nothing : substitute arguments none [] [] = .ok [] := rfl
    rw [nothing]
    cases replaceWord arguments separator word with
    | ok out => exact congrArg Except.ok (List.append_nil out).symm
    | error e => rfl
  | cons c rest =>
    have mark : isNameChar c = false := ends c rfl
    rw [substitute_mark mark, substitute, if_neg (by simp [mark]), List.reverse_reverse]
    simp only [Functor.map_map, bind_pure_comp]

theorem replaceWord_of_not_colon (plain : separator ≠ some ':') (word : List Char) :
    replaceWord arguments separator word = replaceWord arguments none word := by
  simp only [replaceWord, if_neg plain, reduceCtorEq, if_false]

theorem replaceWord_colon (word : List Char) :
    replaceWord arguments (some ':') word = .ok word := by
  unfold replaceWord
  split
  · rfl
  · rfl

end Words

/-- Out of this text comes the result, wherever it stands between other texts, if only no colon is
in front of it and no word goes on behind it. -/
def Scans (arguments : List TypeTag) (cs : List Char) (result : Fallible (List Char)) : Prop :=
  ∀ separator rest, separator ≠ some ':' → Ends rest →
    substitute arguments separator [] (cs ++ rest) =
      result >>= fun out => (out ++ ·) <$> substitute arguments none [] rest

namespace Scans

variable {arguments : List TypeTag} {cs ds : List Char} {result other : Fallible (List Char)}

theorem congr (h : Scans arguments cs result) (text : cs = ds) (same : result = other) :
    Scans arguments ds other := by
  cases text
  cases same
  exact h

theorem nil : Scans arguments [] (.ok []) := by
  intro separator rest _ ends
  exact (substitute_of_ends ends).trans (id_map _).symm

theorem word (names : ∀ c ∈ cs, isNameChar c = true) :
    Scans arguments cs (replaceWord arguments none cs) := by
  intro separator rest plain ends
  rw [substitute_word names ends, replaceWord_of_not_colon plain]

theorem mark (h : Scans arguments cs result) (c : Char) (mark : isNameChar c = false)
    (no_colon : c ≠ ':') : Scans arguments (c :: cs) ((c :: ·) <$> result) := by
  intro separator rest _ ends
  have plain : some c ≠ some ':' := by
    intro same
    exact no_colon (Option.some.inj same)
  rw [List.cons_append, substitute_mark mark, h (some c) rest plain ends]
  simp only [map_bind, bind_map_left, Functor.map_map, List.cons_append]

theorem append (first : Scans arguments cs result) (second : Scans arguments ds other)
    (ends : ∀ rest, Ends rest → Ends (ds ++ rest)) :
    Scans arguments (cs ++ ds) (do return (← result) ++ (← other)) := by
  intro separator rest plain stop
  rw [List.append_assoc, first separator (ds ++ rest) plain (ends rest stop),
    second none rest nofun stop]
  simp only [map_bind, bind_assoc, pure_bind, Functor.map_map, List.append_assoc]

/-- A bracket at the end. -/
theorem close : Scans arguments ['>'] (.ok ['>']) := nil.mark '>' rfl (by decide)

end Scans

namespace GenericType

variable {full : Bool} {arguments : List TypeTag}

theorem isNameChar_of_hex {c : Char} (h : Text.Hex.isDigit c = true) : isNameChar c = true := by
  simp only [Text.Hex.isDigit, Bool.or_eq_true, Bool.and_eq_true, decide_eq_true_eq] at h
  simp only [isNameChar, isLetter, Decimal.isDigit, Bool.or_eq_true, Bool.and_eq_true,
    decide_eq_true_eq]
  rcases h with (digit | ⟨least, most⟩) | ⟨least, most⟩
  · exact .inl (.inr digit)
  · exact .inl (.inl (.inl ⟨least, Char.le_trans most (by decide)⟩))
  · exact .inl (.inl (.inr ⟨least, Char.le_trans most (by decide)⟩))

theorem isNameChar_address (owner : Address) :
    ∀ c ∈ owner.chars full, isNameChar c = true := by
  obtain ⟨digits, spelled⟩ := Address.isLiteral_chars full owner
  rw [spelled.marked]
  refine List.forall_mem_cons.mpr ⟨rfl, List.forall_mem_cons.mpr ⟨rfl, ?_⟩⟩
  intro c member
  exact isNameChar_of_hex (spelled.hex c member)

/-- An address is no name of a parameter. -/
theorem replaceWord_address (owner : Address) (separator : Option Char) :
    replaceWord arguments separator (owner.chars full) = .ok (owner.chars full) := by
  obtain ⟨digits, spelled⟩ := Address.isLiteral_chars full owner
  rw [spelled.marked]
  rfl

theorem isNameChar_primitive {tag : TypeTag} (simple : tag.isPrimitive) :
    ∀ c ∈ tag.chars full, isNameChar c = true := by
  cases tag with
  | vector => cases simple
  | struct => cases simple
  | _ => exact List.all_eq_true.mp rfl

/-- A keyword is no name of a parameter. -/
theorem replaceWord_primitive {tag : TypeTag} (simple : tag.isPrimitive) :
    replaceWord arguments none (tag.chars full) = .ok (tag.chars full) := by
  cases tag with
  | vector => cases simple
  | struct => cases simple
  | _ => rfl

theorem isNameChar_parameterChars (index : Nat) :
    ∀ c ∈ parameterChars index, isNameChar c = true := by
  refine List.forall_mem_cons.mpr ⟨rfl, ?_⟩
  intro c member
  simp [isNameChar, Decimal.isDigit_of_mem_toDigits member]

theorem typeParameter?_parameterChars (index : Nat) :
    typeParameter? (parameterChars index) = some (Nat.toDigits 10 index) := by
  have digits : ∀ c ∈ Nat.toDigits 10 index, Decimal.isDigit c = true :=
    fun _ member => Decimal.isDigit_of_mem_toDigits member
  obtain ⟨c, rest, same⟩ := List.exists_cons_of_ne_nil (@Nat.toDigits_ne_nil index 10)
  rw [parameterChars]
  rw [same] at digits ⊢
  exact if_pos (List.all_eq_true.mpr digits)

/-- The name of a parameter is replaced by the text of its argument, if there is one. -/
theorem replaceWord_parameter {index : Nat} (fits : index < 2 ^ 64) :
    replaceWord arguments none (parameterChars index) =
      (parameter index).expand full arguments := by
  rw [replaceWord, typeParameter?_parameterChars]
  simp only [reduceCtorEq, if_false, Decimal.ofDigits_toDigits, if_neg (Nat.not_le.mpr fits)]
  rfl

/-- A path stays what it is, whatever its names are, since these stand behind colons. -/
theorem scans_path (owner : Address) {moduleName name : String}
    (first : isIdentifier moduleName) (second : isIdentifier name) :
    Scans arguments (TypeTag.structChars full owner moduleName name)
      (.ok (TypeTag.structChars full owner moduleName name)) := by
  have moduleChars := (isIdentifier_iff.mp first).isNameChar
  have nameChars := (isIdentifier_iff.mp second).isNameChar
  have colon : isNameChar ':' = false := rfl
  intro separator rest _ ends
  have start : TypeTag.structChars full owner moduleName name ++ rest = owner.chars full ++
      ':' :: ':' :: (moduleName.toList ++ ':' :: ':' :: (name.toList ++ rest)) := by
    simp [TypeTag.structChars]
  rw [start, substitute_word (isNameChar_address owner) (.cons colon _), replaceWord_address,
    substitute_mark colon, substitute_mark colon, substitute_word moduleChars (.cons colon _),
    replaceWord_colon, substitute_mark colon, substitute_mark colon,
    substitute_word nameChars ends, replaceWord_colon]
  cases substitute arguments none [] rest with
  | error e => rfl
  | ok out =>
    refine congrArg Except.ok ?_
    simp [TypeTag.structChars]

theorem ends_join (texts : List (List Char)) {rest : List Char} (ends : Ends rest) :
    Ends (TypeTag.join texts ++ rest) := by
  cases texts with
  | nil => exact ends
  | cons text texts => exact .cons rfl _

theorem ends_joinTail (texts : List (List Char)) {rest : List Char} (ends : Ends rest) :
    Ends (TypeTag.joinTail texts ++ rest) := by
  cases texts with
  | nil => exact ends
  | cons text texts => exact .cons rfl _

mutual

/-- Out of the text of a type comes the text with the arguments in the place of the parameters. In
front of a type inside of it stands a bracket or the blank behind a comma, and never a colon. -/
theorem scans_chars : (g : GenericType) → (∀ name ∈ g.names, isIdentifier name) →
    (∀ k ∈ g.indices, k < 2 ^ 64) → Scans arguments (g.chars full) (g.expand full arguments)
  | .primitive tag simple, _, _ => by
    apply (Scans.word (isNameChar_primitive simple)).congr rfl
    exact replaceWord_primitive simple
  | .parameter index, _, fits => by
    apply (Scans.word (isNameChar_parameterChars index)).congr rfl
    exact replaceWord_parameter (fits index List.mem_cons_self)
  | .vector item, names, fits => by
    have keyword : Scans arguments "vector".toList (.ok "vector".toList) :=
      Scans.word (List.all_eq_true.mp rfl)
    have inner := (scans_chars item names fits).append .close fun rest _ => .cons rfl _
    have lead : "vector<".toList = "vector".toList ++ ['<'] := rfl
    apply (keyword.append (inner.mark '<' rfl (by decide)) fun rest _ => .cons rfl _).congr
    · rw [chars_vector, lead]
      simp
    · rw [expand]
      cases item.expand full arguments <;> rfl
  | .struct owner moduleName name inner, names, fits => by
    rw [GenericType.names, List.forall_mem_cons, List.forall_mem_cons] at names
    obtain ⟨first, second, others⟩ := names
    apply ((scans_path owner first second).append (scans_join inner others fits)
      fun rest => ends_join _).congr
    · rw [chars_struct]
    · rw [expand]
      cases expandList full arguments inner <;> rfl

theorem scans_join : (gs : List GenericType) → (∀ name ∈ namesOfList gs, isIdentifier name) →
    (∀ k ∈ indicesOfList gs, k < 2 ^ 64) →
      Scans arguments (TypeTag.join (charsList full gs))
        (TypeTag.join <$> expandList full arguments gs)
  | [], _, _ => .nil
  | g :: rest, names, fits => by
    rw [namesOfList, List.forall_mem_append] at names
    rw [indicesOfList, List.forall_mem_append] at fits
    have tail := (scans_joinTail rest names.2 fits.2).append .close fun rest _ => .cons rfl _
    apply (((scans_chars g names.1 fits.1).append tail ?_).mark '<' rfl (by decide)).congr
    · rw [charsList, TypeTag.join]
      simp
    · rw [expandList]
      cases g.expand full arguments with
      | error e => rfl
      | ok text =>
        cases expandList full arguments rest with
        | error e => rfl
        | ok texts => exact congrArg Except.ok (by simp [TypeTag.join])
    · intro behind _
      rw [List.append_assoc]
      exact ends_joinTail _ (.cons rfl _)

theorem scans_joinTail : (gs : List GenericType) →
    (∀ name ∈ namesOfList gs, isIdentifier name) → (∀ k ∈ indicesOfList gs, k < 2 ^ 64) →
      Scans arguments (TypeTag.joinTail (charsList full gs))
        (TypeTag.joinTail <$> expandList full arguments gs)
  | [], _, _ => .nil
  | g :: rest, names, fits => by
    rw [namesOfList, List.forall_mem_append] at names
    rw [indicesOfList, List.forall_mem_append] at fits
    have one := (scans_chars g names.1 fits.1).append (scans_joinTail rest names.2 fits.2)
      fun behind => ends_joinTail _
    apply ((one.mark ' ' rfl (by decide)).mark ',' rfl (by decide)).congr
    · rw [charsList]
      simp [TypeTag.joinTail]
    · rw [expandList]
      cases g.expand full arguments with
      | error e => rfl
      | ok text => cases expandList full arguments rest <;> rfl

end

end GenericType

end Move

end MoveWire
