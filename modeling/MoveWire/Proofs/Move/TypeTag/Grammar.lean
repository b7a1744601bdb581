import Mathlib.Data.List.Forall2
import MoveWire.Move.TypeTag
import MoveWire.Proofs.Address
import MoveWire.Proofs.Move.TypeTag.Brackets
import MoveWire.Proofs.Text.Blank

/-!
The grammar of types as text: keywords, vectors, and structs by address, module and name with the
types between their brackets; blanks stand around each of these. Whatever the grammar derives is
one segment, so the commas between type arguments are told from those inside of them.
-/

namespace MoveWire

open Text

/-- A character that neither separates nor surrounds the parts of a type. -/
structure Plain (c : Char) : Prop where
  solid : isBlank c = false
  not_open : c ≠ '<'
  not_close : c ≠ '>'
  not_comma : c ≠ ','
  not_colon : c ≠ ':'

theorem plain_of_range {c : Char} (h : 48 ≤ c.toNat ∧ c.toNat ≤ 57 ∨ 65 ≤ c.toNat ∧ c.toNat ≤ 90 ∨
    c.toNat = 95 ∨ 97 ≤ c.toNat ∧ c.toNat ≤ 122) : Plain c := by
  have other (d : Char) (apart : d.toNat < 48 ∨ 57 < d.toNat ∧ d.toNat < 65) : c ≠ d := by
    rintro rfl
    omega
  refine ⟨?_, other _ (by decide), other _ (by decide), other _ (by decide), other _ (by decide)⟩
  simp only [isBlank, Bool.or_eq_false_iff, Bool.and_eq_false_iff, decide_eq_false_iff_not,
    beq_eq_false_iff_ne]
  omega

theorem Text.Hex.plain_of_isDigit {c : Char} (h : isDigit c = true) : Plain c := by
  simp only [isDigit, Bool.or_eq_true, Bool.and_eq_true, decide_eq_true_eq, Char.le_def,
    UInt32.le_iff_toNat_le] at h
  apply plain_of_range
  rcases h with (⟨least, most⟩ | ⟨least, most⟩) | ⟨least, most⟩
  · exact .inl ⟨least, most⟩
  · exact .inr (.inr (.inr ⟨least, Nat.le_trans most (by decide)⟩))
  · exact .inr (.inl ⟨least, Nat.le_trans most (by decide)⟩)

namespace Move

theorem plain_of_isNameChar {c : Char} (h : isNameChar c = true) : Plain c := by
  simp only [isNameChar, isLetter, Decimal.isDigit, Bool.or_eq_true, Bool.and_eq_true,
    decide_eq_true_eq, beq_iff_eq, Char.le_def, UInt32.le_iff_toNat_le] at h
  apply plain_of_range
  rcases h with ((h | h) | h) | rfl
  · exact .inr (.inr (.inr h))
  · exact .inr (.inl h)
  · exact .inl h
  · exact .inr (.inr (.inl rfl))

/-- A letter with any letters, digits and underscores behind it, or an underscore with at least one
of them. -/
inductive Identifier : List Char → Prop
  | letter {c : Char} {rest : List Char} (first : isLetter c)
      (others : ∀ d ∈ rest, isNameChar d) : Identifier (c :: rest)
  | underscore {c : Char} {rest : List Char} (others : ∀ d ∈ c :: rest, isNameChar d) :
      Identifier ('_' :: c :: rest)

theorem isIdentifierChars_iff {cs : List Char} : isIdentifierChars cs = true ↔ Identifier cs := by
  constructor
  · intro h
    cases cs with
    | nil => cases h
    | cons c rest =>
      simp only [isIdentifierChars, Bool.and_eq_true, Bool.or_eq_true, beq_iff_eq,
        List.all_eq_true] at h
      rcases h.1 with letter | ⟨rfl, more⟩
      · exact .letter letter h.2
      · cases rest with
        | nil => cases more
        | cons d rest => exact .underscore h.2
  · rintro (⟨first, others⟩ | others)
    · simpa [isIdentifierChars, first] using others
    · simpa [isIdentifierChars] using others

theorem isIdentifier_iff {name : String} : isIdentifier name = true ↔ Identifier name.toList :=
  isIdentifierChars_iff

theorem Identifier.isNameChar {cs : List Char} (h : Identifier cs) :
    ∀ c ∈ cs, Move.isNameChar c = true := by
  cases h with
  | letter first others =>
    exact List.forall_mem_cons.mpr ⟨by simp [Move.isNameChar, first], others⟩
  | underscore others => exact List.forall_mem_cons.mpr ⟨rfl, others⟩

theorem Identifier.plain {cs : List Char} (h : Identifier cs) : ∀ c ∈ cs, Plain c :=
  fun c member => plain_of_isNameChar (h.isNameChar c member)

theorem Identifier.ne_nil {cs : List Char} (h : Identifier cs) : cs ≠ [] := by
  cases h with
  | letter => exact List.cons_ne_nil _ _
  | underscore => exact List.cons_ne_nil _ _

end Move

theorem Address.IsLiteral.plain {cs digits : List Char} {a : Address} (h : IsLiteral cs a digits) :
    ∀ c ∈ cs, Plain c := by
  rw [h.marked]
  refine List.forall_mem_cons.mpr ⟨plain_of_range (by decide), ?_⟩
  refine List.forall_mem_cons.mpr ⟨plain_of_range (by decide), ?_⟩
  exact fun c member => Hex.plain_of_isDigit (h.hex c member)

namespace TypeTag

/-- The words for types without parts. -/
def keywords : List (String × TypeTag) :=
  [("bool", .bool), ("u8", .u8), ("u16", .u16), ("u32", .u32), ("u64", .u64), ("u128", .u128),
    ("u256", .u256), ("address", .address), ("signer", .signer)]

/-- The literal of an address between blanks. -/
def SpellsAddress (cs : List Char) (a : Address) : Prop :=
  ∃ literal digits, Spaced cs literal ∧ Address.IsLiteral literal a digits

/-- An identifier between blanks. -/
structure SpellsName (cs : List Char) (name : String) : Prop where
  spaced : Spaced cs name.toList
  identifier : Move.Identifier name.toList

/-- An address, a module and a name with double colons between them. -/
inductive SpellsPath : List Char → Address → String → String → Prop
  | path {first second third : List Char} {owner : Address} {moduleName name : String}
      (address : SpellsAddress first owner) (inside : SpellsName second moduleName)
      (last : SpellsName third name) :
      SpellsPath (first ++ "::".toList ++ (second ++ "::".toList ++ third)) owner moduleName name

/-- The texts of types. -/
inductive Derives : List Char → TypeTag → Prop
  | keyword {cs : List Char} {word : String} {tag : TypeTag} (listed : (word, tag) ∈ keywords)
      (spaced : Spaced cs word.toList) : Derives cs tag
  | vector {cs inner : List Char} {item : TypeTag} (each : Derives inner item)
      (spaced : Spaced cs ("vector<".toList ++ inner ++ ['>'])) : Derives cs (.vector item)
  | struct {cs : List Char} {owner : Address} {moduleName name : String}
      (path : SpellsPath cs owner moduleName name) : Derives cs (.struct owner moduleName name [])
  | generic {cs after : List Char} {parts : List (List Char)} {owner : Address}
      {moduleName name : String} {arguments : List TypeTag}
      (path : SpellsPath cs owner moduleName name) (some : parts ≠ [])
      (each : List.Forall₂ Derives parts arguments) (blank : Blanks after) :
      Derives (cs ++ ('<' :: [','].intercalate parts ++ ['>']) ++ after)
        (.struct owner moduleName name arguments)

/-- What follows for a type when it follows for the types inside of it holds of all texts. -/
theorem Derives.induction {motive : List Char → TypeTag → Prop}
    (keyword : ∀ cs word tag, (word, tag) ∈ keywords → Spaced cs word.toList → motive cs tag)
    (vector : ∀ cs inner item, Derives inner item → motive inner item →
      Spaced cs ("vector<".toList ++ inner ++ ['>']) → motive cs (.vector item))
    (struct : ∀ cs owner moduleName name, SpellsPath cs owner moduleName name →
      motive cs (.struct owner moduleName name []))
    (generic : ∀ cs after parts owner moduleName name arguments,
      SpellsPath cs owner moduleName name → parts ≠ [] → List.Forall₂ Derives parts arguments →
      List.Forall₂ motive parts arguments → Blanks after →
      motive (cs ++ ('<' :: [','].intercalate parts ++ ['>']) ++ after)
        (.struct owner moduleName name arguments))
    {cs : List Char} {tag : TypeTag} (h : Derives cs tag) : motive cs tag :=
  @Derives.rec (fun cs tag _ => motive cs tag) (fun parts tags _ => List.Forall₂ motive parts tags)
    (keyword _ _ _) (fun each spaced ih => vector _ _ _ each ih spaced) (struct _ _ _ _)
    (fun path some each blank ih => generic _ _ _ _ _ _ _ path some each ih blank)
    .nil (fun _ _ first rest => .cons first rest) cs tag h

theorem not_separator_of_blank {c : Char} (h : isBlank c = true) :
    c ≠ '<' ∧ c ≠ '>' ∧ c ≠ ',' ∧ c ≠ ':' := by
  refine ⟨?_, ?_, ?_, ?_⟩
  all_goals
    rintro rfl
    cases h

theorem segment_of_blanks {cs : List Char} (h : Blanks cs) : Segment cs := by
  refine .of_forall fun c member => ?_
  obtain ⟨no_open, no_close, no_comma, -⟩ := not_separator_of_blank (h c member)
  exact ⟨no_open, no_close, no_comma⟩

theorem segment_of_plain {cs : List Char} (h : ∀ c ∈ cs, Plain c) : Segment cs :=
  .of_forall fun c member => ⟨(h c member).not_open, (h c member).not_close, (h c member).not_comma⟩

theorem trimmed_of_plain {cs : List Char} (h : ∀ c ∈ cs, Plain c) : Trimmed cs :=
  .of_forall fun c member => (h c member).solid

theorem Segment.spaced {cs core : List Char} (h : Segment core) (spaced : Spaced cs core) :
    Segment cs := by
  obtain ⟨before, after, front, back, rfl⟩ := spaced
  exact ((segment_of_blanks front).append h).append (segment_of_blanks back)

/-- Plain characters between blanks, at least one. -/
def Word (cs : List Char) : Prop := ∃ core, Spaced cs core ∧ core ≠ [] ∧ ∀ c ∈ core, Plain c

theorem Word.not_separator {cs : List Char} (h : Word cs) :
    ∀ c ∈ cs, c ≠ '<' ∧ c ≠ '>' ∧ c ≠ ',' ∧ c ≠ ':' := by
  obtain ⟨core, spaced, -, plain⟩ := h
  refine spaced.forall_mem (fun c => not_separator_of_blank) fun c member => ?_
  exact ⟨(plain c member).not_open, (plain c member).not_close, (plain c member).not_comma,
    (plain c member).not_colon⟩

theorem Word.trimStart_ne_nil {cs : List Char} (h : Word cs) : trimStart cs ≠ [] := by
  obtain ⟨core, spaced, some, plain⟩ := h
  exact (spaced.trimStart (trimmed_of_plain plain) some).ne_nil some

theorem Word.trimEnd_ne_nil {cs : List Char} (h : Word cs) : trimEnd cs ≠ [] := by
  obtain ⟨core, spaced, some, plain⟩ := h
  exact (spaced.trimEnd (trimmed_of_plain plain) some).ne_nil some

theorem SpellsAddress.word {cs : List Char} {a : Address} (h : SpellsAddress cs a) : Word cs := by
  obtain ⟨literal, digits, spaced, spelled⟩ := h
  exact ⟨literal, spaced, by simp [spelled.marked], spelled.plain⟩

theorem SpellsName.word {cs : List Char} {name : String} (h : SpellsName cs name) : Word cs :=
  ⟨name.toList, h.spaced, h.identifier.ne_nil, h.identifier.plain⟩

theorem SpellsAddress.trimStart {cs : List Char} {a : Address} (h : SpellsAddress cs a) :
    SpellsAddress (trimStart cs) a := by
  obtain ⟨literal, digits, spaced, spelled⟩ := h
  have trimmed := trimmed_of_plain spelled.plain
  exact ⟨literal, digits, spaced.trimStart trimmed (by simp [spelled.marked]), spelled⟩

theorem SpellsName.trimEnd {cs : List Char} {name : String} (h : SpellsName cs name) :
    SpellsName (trimEnd cs) name :=
  ⟨h.spaced.trimEnd (trimmed_of_plain h.identifier.plain) h.identifier.ne_nil, h.identifier⟩

section Path

variable {cs : List Char} {owner : Address} {moduleName name : String}

theorem SpellsPath.trimStart (h : SpellsPath cs owner moduleName name) :
    SpellsPath (trimStart cs) owner moduleName name := by
  cases h with
  | path address inside last =>
    rw [List.append_assoc, trimStart_append_of_ne_nil address.word.trimStart_ne_nil,
      ← List.append_assoc]
    exact .path address.trimStart inside last

theorem SpellsPath.trimStart_ne_nil (h : SpellsPath cs owner moduleName name) :
    Text.trimStart cs ≠ [] := by
  cases h with
  | path address inside last =>
    rw [List.append_assoc, trimStart_append_of_ne_nil address.word.trimStart_ne_nil]
    exact List.append_ne_nil_of_left_ne_nil address.word.trimStart_ne_nil _

theorem SpellsPath.trimEnd (h : SpellsPath cs owner moduleName name) :
    SpellsPath (trimEnd cs) owner moduleName name := by
  cases h with
  | path address inside last =>
    rw [← List.append_assoc, trimEnd_append_of_ne_nil last.word.trimEnd_ne_nil, List.append_assoc]
    exact .path address inside last.trimEnd

theorem SpellsPath.trim (h : SpellsPath cs owner moduleName name) :
    SpellsPath (trim cs) owner moduleName name := h.trimStart.trimEnd

/-- Blanks around a path belong to its address and to its last name. -/
theorem SpellsPath.of_spaced {core : List Char} (spaced : Spaced cs core)
    (h : SpellsPath core owner moduleName name) : SpellsPath cs owner moduleName name := by
  obtain ⟨before, after, front, back, rfl⟩ := spaced
  cases h with
  | @path first second third _ _ _ address inside last =>
    obtain ⟨literal, digits, spaced, spelled⟩ := address
    have start : Spaced (before ++ first) first := ⟨before, [], front, .nil, by simp⟩
    have stop : Spaced (third ++ after) third := ⟨[], after, .nil, back, by simp⟩
    have whole := SpellsPath.path ⟨literal, digits, start.trans spaced, spelled⟩ inside
      ⟨stop.trans last.spaced, last.identifier⟩
    simpa only [List.append_assoc] using whole

theorem SpellsPath.not_bracket (h : SpellsPath cs owner moduleName name) :
    ∀ c ∈ cs, c ≠ '<' ∧ c ≠ '>' ∧ c ≠ ',' := by
  have colons : ∀ c ∈ "::".toList, c ≠ '<' ∧ c ≠ '>' ∧ c ≠ ',' := by
    intro c member
    obtain rfl : c = ':' := by simpa using member
    decide
  have word {text : List Char} (given : Word text) : ∀ c ∈ text, c ≠ '<' ∧ c ≠ '>' ∧ c ≠ ',' := by
    intro c member
    obtain ⟨no_open, no_close, no_comma, -⟩ := given.not_separator c member
    exact ⟨no_open, no_close, no_comma⟩
  cases h with
  | path address inside last =>
    simp only [List.forall_mem_append]
    exact ⟨⟨word address.word, colons⟩, ⟨word inside.word, colons⟩, word last.word⟩

theorem SpellsPath.colon_mem (h : SpellsPath cs owner moduleName name) : ':' ∈ cs := by
  cases h with
  | path => simp

/-- Without blanks in front, a path starts with the mark of its address. -/
theorem SpellsPath.marked (h : SpellsPath cs owner moduleName name)
    (front : ∀ c ∈ cs.head?, isBlank c = false) : ∃ rest, cs = '0' :: rest := by
  cases h with
  | path address inside last =>
    obtain ⟨literal, digits, ⟨before, after, blank, -, rfl⟩, spelled⟩ := address
    rw [spelled.marked] at front ⊢
    cases before with
    | nil => exact ⟨_, rfl⟩
    | cons c before => cases (front c rfl).symm.trans (blank c List.mem_cons_self)

end Path

/-- Blanks around the text of a type make no difference. -/
theorem Derives.of_spaced {cs core : List Char} {tag : TypeTag} (spaced : Spaced cs core)
    (h : Derives core tag) : Derives cs tag := by
  cases h with
  | keyword listed inner => exact .keyword listed (spaced.trans inner)
  | vector each inner => exact .vector each (spaced.trans inner)
  | struct path => exact .struct (path.of_spaced spaced)
  | @generic path after parts owner moduleName name arguments spelled some each blank =>
    obtain ⟨before, later, front, back, rfl⟩ := spaced
    have start : Spaced (before ++ path) path := ⟨before, [], front, .nil, by simp⟩
    have whole := Derives.generic (spelled.of_spaced start) some each (blank.append back)
    simpa only [List.append_assoc] using whole

theorem plain_of_keyword {word : String} {tag : TypeTag} (listed : (word, tag) ∈ keywords) :
    ∀ c ∈ word.toList, Plain c := by
  have named : ∀ entry ∈ keywords, entry.1.toList.all Move.isNameChar = true := by decide
  exact fun c member =>
    Move.plain_of_isNameChar (List.all_eq_true.mp (named _ listed) c member)

theorem forall_left_of_forall₂ {α β : Type} {p : α → Prop} {as : List α} {bs : List β}
    (h : List.Forall₂ (fun a _ => p a) as bs) : ∀ a ∈ as, p a :=
  ((List.forall₂_and_left (R := fun _ _ => True) as bs).mp (h.imp fun _ _ given => ⟨given, ⟨⟩⟩)).1

theorem plain_vector : ∀ c ∈ "vector".toList, Plain c :=
  fun c member => Move.plain_of_isNameChar (List.all_eq_true.mp rfl c member)

theorem Derives.segment {cs : List Char} {tag : TypeTag} (h : Derives cs tag) : Segment cs := by
  refine Derives.induction (motive := fun cs _ => Segment cs) ?keyword ?vector ?struct ?generic h
  case keyword =>
    intro cs word tag listed spaced
    exact (segment_of_plain (plain_of_keyword listed)).spaced spaced
  case vector =>
    intro cs inner item _ each spaced
    have lead : Segment "vector".toList := segment_of_plain plain_vector
    exact (lead.append each.balanced.enclosed).spaced spaced
  case struct => exact fun cs owner moduleName name path => .of_forall path.not_bracket
  case generic =>
    intro cs after parts owner moduleName name arguments path _ _ each blank
    have inner : Balanced ([','].intercalate parts) :=
      .intercalate fun part member => (forall_left_of_forall₂ each part member).balanced
    have lead : Segment cs := .of_forall path.not_bracket
    exact (lead.append inner.enclosed).append (segment_of_blanks blank)

theorem Derives.not_blanks {cs : List Char} {tag : TypeTag} (h : Derives cs tag) : ¬Blanks cs := by
  cases h with
  | keyword listed spaced =>
    have some : ∀ entry ∈ keywords, entry.1.toList ≠ [] := by decide
    obtain ⟨before, after, -, -, rfl⟩ := spaced
    obtain ⟨c, member⟩ := List.exists_mem_of_ne_nil _ (some _ listed)
    exact not_blanks_of_mem (by simp [member]) (plain_of_keyword listed c member).solid
  | vector each spaced =>
    obtain ⟨before, after, -, -, rfl⟩ := spaced
    exact not_blanks_of_mem (c := '<') (by simp) (by decide)
  | struct path => exact not_blanks_of_mem path.colon_mem (by decide)
  | generic => exact not_blanks_of_mem (c := '<') (by simp) (by decide)

theorem not_blanks_intercalate {parts : List (List Char)} (some : parts ≠ [])
    (h : ∀ part ∈ parts, ¬Blanks part) : ¬Blanks ([','].intercalate parts) := by
  cases parts with
  | nil => exact absurd rfl some
  | cons part rest =>
    cases rest with
    | nil => simpa using h
    | cons next rest =>
      rw [List.intercalate_cons_cons]
      exact not_blanks_of_mem (c := ',') (by simp) (by decide)

theorem trimmed_enclosed (cs : List Char) : Trimmed ('<' :: cs ++ ['>']) where
  front c first := by
    cases first
    rfl
  back c last := by
    rw [List.getLast?_concat] at last
    cases last
    rfl

theorem trim_enclosed {cs after : List Char} (some : trimStart cs ≠ []) (blank : Blanks after)
    (inner : List Char) :
    trim (cs ++ ('<' :: inner ++ ['>']) ++ after) = trimStart cs ++ ('<' :: inner ++ ['>']) := by
  have stop : trimEnd ('<' :: inner ++ ['>']) = '<' :: inner ++ ['>'] :=
    trimEnd_of_trimmed (trimmed_enclosed inner)
  rw [trim, List.append_assoc, trimStart_append_of_ne_nil some, ← List.append_assoc,
    trimEnd_append blank, trimEnd_append_of_ne_nil (by rw [stop]; exact List.cons_ne_nil _ _), stop]

end TypeTag

end MoveWire
