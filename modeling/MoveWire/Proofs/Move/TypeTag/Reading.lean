import MoveWire.Move.TypeTag.Parser
import MoveWire.Proofs.Fallible
import MoveWire.Proofs.Move.TypeTag.Grammar
import MoveWire.Proofs.Move.TypeTag.Parts

/-!
Reading what the grammar of types derives. Each step of the reader takes such a text apart where the
grammar put it together, so the text is read as its type where enough levels are left for it, and
is refused for its depth where they are not.
-/

namespace MoveWire.TypeTag

open Text

/-- How the parts of a type are read where `left` more levels may nest: not at all if none may. -/
def inside : Nat → Fallible (List Char → Fallible TypeTag)
  | 0 => refuse .depth
  | left + 1 => .ok (parseWithin left)

/-- One level of a type, given without blanks at its ends; its parts are read by `inside`. -/
def parseLevel (inside : Fallible (List Char → Fallible TypeTag)) (cs : List Char) :
    Fallible TypeTag :=
  if cs.isEmpty then refuse .empty
  else
    match ofKeyword? cs with
    | some tag => .ok tag
    | none =>
      match stripStart? "vector<".toList cs with
      | some rest => do
        let inner ← vectorItem rest cs
        let parseOne ← inside
        checkBalanced inner
        return .vector (← parseOne inner)
      | none =>
        match splitPath? cs with
        | none => refuse (.unknownType (String.ofList cs))
        | some _ => do return (← parseStruct inside cs).toTypeTag

theorem parseWithin_eq (left : Nat) (cs : List Char) :
    parseWithin left cs = parseLevel (inside left) (trim cs) := by
  cases left <;> rfl

theorem parseWithin_trim (left : Nat) (cs : List Char) :
    parseWithin left (trim cs) = parseWithin left cs := by
  rw [parseWithin_eq, trim_trim, ← parseWithin_eq]

variable {inner : Fallible (List Char → Fallible TypeTag)}

theorem parseStruct_trim (cs : List Char) : parseStruct inner (trim cs) = parseStruct inner cs := by
  rw [parseStruct, trim_trim, parseStruct]

theorem ofKeyword?_eq_some_iff {cs : List Char} {tag : TypeTag} :
    ofKeyword? cs = some tag ↔ ∃ word, (word, tag) ∈ keywords ∧ cs = word.toList := by
  constructor
  · intro h
    have spelled {text : String} (same : String.ofList cs = text) : cs = text.toList := by
      rw [← same, String.toList_ofList]
    unfold ofKeyword? at h
    split at h <;> cases h
    all_goals
      refine ⟨_, ?_, spelled ‹_›⟩
      simp [keywords]
  · rintro ⟨word, listed, rfl⟩
    have each : ∀ entry ∈ keywords, ofKeyword? entry.1.toList = some entry.2 := by decide
    exact each _ listed

/-- Keywords have neither colons nor brackets. -/
theorem ofKeyword?_eq_none {cs : List Char} {c : Char} (member : c ∈ cs) (h : ¬Plain c) :
    ofKeyword? cs = none := by
  cases keyword : ofKeyword? cs with
  | none => rfl
  | some tag =>
    obtain ⟨word, listed, rfl⟩ := ofKeyword?_eq_some_iff.mp keyword
    exact absurd (plain_of_keyword listed c member) h

theorem splitPath?_append {before : List Char} (h : ∀ c ∈ before, c ≠ ':') (rest : List Char) :
    splitPath? (before ++ "::".toList ++ rest) = some (before, rest) := by
  induction before with
  | nil => rfl
  | cons a before ih =>
    obtain ⟨no_colon, others⟩ := List.forall_mem_cons.mp h
    obtain ⟨b, more, form⟩ : ∃ b more, before ++ "::".toList ++ rest = b :: more := by
      cases before with
      | nil => exact ⟨_, _, rfl⟩
      | cons b more => exact ⟨_, _, rfl⟩
    have step := ih others
    rw [List.cons_append, List.cons_append]
    rw [form] at step ⊢
    rw [splitPath?, if_neg fun both => no_colon both.1, step]
    rfl

theorem splitPath?_eq_some {cs before rest : List Char} (h : splitPath? cs = some (before, rest)) :
    cs = before ++ "::".toList ++ rest := by
  fun_induction splitPath? cs generalizing before with
  | case1 => cases h
  | case2 => cases h
  | case3 a b more colons =>
    obtain ⟨rfl, rfl⟩ := colons
    cases h
    rfl
  | case4 a b more _ ih =>
    obtain ⟨⟨front, back⟩, split, given⟩ := Option.map_eq_some_iff.mp h
    cases given
    rw [ih split]
    rfl

theorem splitPath?_word {before : List Char} (h : Word before) (rest : List Char) :
    splitPath? (before ++ "::".toList ++ rest) = some (before, rest) :=
  splitPath?_append (fun c member => (h.not_separator c member).2.2.2) rest

theorem spellsName_of_isIdentifier {cs : List Char}
    (h : ¬(!Move.isIdentifier (String.ofList (trim cs))) = true) :
    SpellsName cs (String.ofList (trim cs)) := by
  rw [Bool.not_eq_true', Bool.not_eq_false] at h
  refine ⟨?_, Move.isIdentifier_iff.mp h⟩
  rw [String.toList_ofList]
  exact spaced_trim cs

section Path

variable {path whole : List Char} {owner : Address} {moduleName name : String}

theorem spellsPath_of_parsePath (run : parsePath path whole = .ok (owner, moduleName, name)) :
    SpellsPath path owner moduleName name := by
  unfold parsePath at run
  cases outer : splitPath? path with
  | none =>
    rw [outer] at run
    cases run
  | some parts =>
    rw [outer] at run
    dsimp only at run
    cases inner : splitPath? parts.2 with
    | none =>
      rw [inner] at run
      cases run
    | some names =>
      rw [inner] at run
      dsimp only at run
      split at run
      · cases run
      · next literal =>
        split at run
        · cases run
        · next first =>
          split at run
          · cases run
          · next second =>
            cases run
            obtain ⟨digits, spelled⟩ := Address.parseLiteral_eq_ok_iff.mp literal
            rw [splitPath?_eq_some outer, splitPath?_eq_some inner]
            exact .path ⟨_, digits, spaced_trim _, spelled⟩ (spellsName_of_isIdentifier first)
              (spellsName_of_isIdentifier second)

theorem parsePath_of_spellsPath (h : SpellsPath path owner moduleName name) :
    parsePath path whole = .ok (owner, moduleName, name) := by
  have name_trim {text : List Char} {name : String} (given : SpellsName text name) :
      trim text = name.toList :=
    trim_of_spaced given.spaced (trimmed_of_plain given.identifier.plain)
  cases h with
  | path address inside last =>
    have outer := splitPath?_word address.word
    have inner := splitPath?_word inside.word
    obtain ⟨literal, digits, spaced, spelled⟩ := address
    have read := Address.parseLiteral_eq_ok_iff.mpr ⟨digits, spelled⟩
    rw [parsePath]
    simp only [outer, inner, trim_of_spaced spaced (trimmed_of_plain spelled.plain),
      name_trim inside, name_trim last, String.ofList_toList, read,
      Move.isIdentifier_iff.mpr inside.identifier, Move.isIdentifier_iff.mpr last.identifier]
    rfl

end Path

/-- Segments between brackets are read one by one. -/
theorem parseArguments_enclosed {parts : List (List Char)} (some : parts ≠ [])
    (each : ∀ part ∈ parts, Segment part) (solid : ∀ part ∈ parts, ¬Blanks part)
    (parseOne : List Char → Fallible TypeTag) (whole : List Char) :
    parseArguments parseOne ('<' :: [','].intercalate parts ++ ['>']) whole =
      parts.mapM fun part => parseOne (trim part) := by
  have surrounded : (stripStart? ['<'] ('<' :: [','].intercalate parts ++ ['>'])).bind
      (stripEnd? '>') = .some ([','].intercalate parts) := by
    have start : stripStart? ['<'] ('<' :: [','].intercalate parts ++ ['>']) =
        .some ([','].intercalate parts ++ ['>']) := stripStart?_eq_some_iff.mpr rfl
    rw [start, Option.bind_some, stripEnd?_eq_some_iff]
  have balanced : checkBalanced ([','].intercalate parts) = .ok () :=
    checkBalanced_eq_ok_iff.mpr (.intercalate fun part member => (each part member).balanced)
  have not_blank : (trim ([','].intercalate parts)).isEmpty = false :=
    List.isEmpty_eq_false_iff.mpr (mt blanks_of_trim (not_blanks_intercalate some solid))
  have split := splitArguments_intercalate some each
  rw [parseArguments, surrounded]
  simp only [balanced, not_blank, bind, Except.bind, split, List.mapM_map]
  refine Fallible.mapM_congr fun part member => ?_
  rw [Function.comp_apply, if_neg]
  rw [List.isEmpty_iff]
  exact mt blanks_of_trim (solid part member)

/-- Whatever type arguments were read stood between brackets, with commas between them. -/
theorem parseArguments_eq_ok {parseOne : List Char → Fallible TypeTag} {text whole : List Char}
    {tags : List TypeTag} (run : parseArguments parseOne text whole = .ok tags) :
    ∃ parts, parts ≠ [] ∧ text = '<' :: [','].intercalate parts ++ ['>'] ∧
      List.Forall₂ (fun part tag => parseOne (trim part) = .ok tag) parts tags := by
  unfold parseArguments at run
  cases body : (stripStart? ['<'] text).bind (stripEnd? '>') with
  | none =>
    rw [body] at run
    cases run
  | some cs =>
    rw [body] at run
    obtain ⟨rest, start, stop⟩ := Option.bind_eq_some_iff.mp body
    obtain ⟨-, -, run⟩ := Fallible.bind_eq_ok.mp run
    split at run
    · cases run
    · rw [splitArguments, Fallible.mapM_eq_ok, List.forall₂_map_left_iff] at run
      refine ⟨segments (0 : Int) [] cs, segments_ne_nil 0 [] cs, ?_,
        run.imp fun part tag read => ?_⟩
      · rw [stripStart?_eq_some_iff.mp start, stripEnd?_eq_some_iff.mp stop, intercalate_segments]
        rfl
      · split at read
        · cases read
        · exact read

section Struct

variable {cs : List Char} {owner : Address} {moduleName name : String}

/-- Text that starts with a path is read as a struct. -/
theorem parseLevel_of_path (path : SpellsPath cs owner moduleName name)
    (front : ∀ c ∈ cs.head?, isBlank c = false) (rest : List Char) :
    parseLevel inner (cs ++ rest) = StructTag.toTypeTag <$> parseStruct inner (cs ++ rest) := by
  obtain ⟨more, mark⟩ := path.marked front
  have some : (cs ++ rest).isEmpty = false := by
    rw [mark]
    rfl
  have no_keyword : ofKeyword? (cs ++ rest) = none :=
    ofKeyword?_eq_none (List.mem_append_left rest path.colon_mem) fun plain => plain.not_colon rfl
  have no_vector : stripStart? "vector<".toList (cs ++ rest) = none := by
    rw [mark]
    rfl
  obtain ⟨parts, split⟩ : ∃ parts, splitPath? (cs ++ rest) = .some parts := by
    cases path with
    | path address =>
      rw [List.append_assoc]
      exact ⟨_, splitPath?_word address.word _⟩
  -- Only the branch for structs is left.
  rw [parseLevel, some, no_keyword, no_vector]
  simp only [split]
  cases parseStruct inner (cs ++ rest) <;> rfl

theorem parseStruct_path (path : SpellsPath cs owner moduleName name) :
    parseStruct inner cs = .ok ⟨owner, moduleName, name, []⟩ := by
  have bare : ∀ c ∈ trim cs, decide (c ≠ '<') = true :=
    fun c member => decide_eq_true (path.trim.not_bracket c member).1
  have front : (trim cs).takeWhile (· ≠ '<') = trim cs := List.takeWhile_eq_self_iff.mpr bare
  have back : (trim cs).dropWhile (· ≠ '<') = [] := List.dropWhile_eq_nil_iff.mpr bare
  have read : parsePath (trim cs) (trim cs) = .ok (owner, moduleName, name) :=
    parsePath_of_spellsPath path.trim
  rw [parseStruct]
  simp only [front, back, read, bind, Except.bind]
  rfl

/-- The type arguments of a struct are read from the brackets behind its path. -/
theorem parseStruct_generic {after : List Char} {parts : List (List Char)}
    {arguments : List TypeTag} (path : SpellsPath cs owner moduleName name) (some : parts ≠ [])
    (each : List.Forall₂ Derives parts arguments) (blank : Blanks after) :
    parseStruct inner (cs ++ ('<' :: [','].intercalate parts ++ ['>']) ++ after) = (do
      let parseOne ← inner
      let tags ← parts.mapM fun part => parseOne (trim part)
      return ⟨owner, moduleName, name, tags⟩) := by
  have bare : ∀ c ∈ trimStart cs, decide (c ≠ '<') = true :=
    fun c member => decide_eq_true (path.trimStart.not_bracket c member).1
  have front (text : List Char) :
      (trimStart cs ++ ('<' :: text)).takeWhile (· ≠ '<') = trimStart cs := by
    rw [List.takeWhile_append_of_pos bare]
    exact List.append_nil _
  have back (text : List Char) :
      (trimStart cs ++ ('<' :: text)).dropWhile (· ≠ '<') = '<' :: text :=
    List.dropWhile_append_of_pos bare
  have read (whole : List Char) :
      parsePath (trimStart cs) whole = .ok (owner, moduleName, name) :=
    parsePath_of_spellsPath path.trimStart
  rw [parseStruct, trim_enclosed path.trimStart_ne_nil blank]
  simp only [List.cons_append, front, back, read, bind, Except.bind]
  cases inner with
  | error => rfl
  | ok parseOne =>
    have segments := forall_left_of_forall₂ (each.imp fun _ _ derived => derived.segment)
    have solid := forall_left_of_forall₂ (each.imp fun _ _ derived => derived.not_blanks)
    have given := parseArguments_enclosed some segments solid parseOne
    simp only [List.cons_append] at given
    simp only [given]
    rfl

end Struct

theorem parseLevel_vector {text : List Char} {item : TypeTag} (derived : Derives text item) :
    parseLevel inner ("vector<".toList ++ text ++ ['>']) =
      (do let parseOne ← inner; return .vector (← parseOne text)) := by
  have no_keyword : ofKeyword? ("vector<".toList ++ text ++ ['>']) = none :=
    ofKeyword?_eq_none (c := '<') (by simp) fun plain => plain.not_open rfl
  have start : stripStart? "vector<".toList ("vector<".toList ++ text ++ ['>']) =
      .some (text ++ ['>']) := stripStart?_eq_some_iff.mpr (List.append_assoc _ _ _)
  have solid : (trim text).isEmpty = false :=
    List.isEmpty_eq_false_iff.mpr (mt blanks_of_trim derived.not_blanks)
  have item_read (whole : List Char) : vectorItem (text ++ ['>']) whole = .ok text := by
    rw [vectorItem, stripEnd?_eq_some_iff.mpr rfl]
    simp only [solid]
    rfl
  have balanced : checkBalanced text = .ok () :=
    checkBalanced_eq_ok_iff.mpr derived.segment.balanced
  rw [parseLevel, no_keyword, start]
  simp only [item_read, bind, Except.bind]
  cases inner with
  | error => rfl
  | ok parseOne =>
    simp only [balanced]
    rfl

theorem parseLevel_keyword {word : String} {tag : TypeTag} (listed : (word, tag) ∈ keywords) :
    parseLevel inner word.toList = .ok tag := by
  have each : ∀ entry ∈ keywords, parseLevel inner entry.1.toList = .ok entry.2 := by
    simp only [keywords, List.forall_mem_cons]
    exact ⟨rfl, rfl, rfl, rfl, rfl, rfl, rfl, rfl, rfl, List.forall_mem_nil _⟩
  exact each _ listed

/-- The text is read as this type where enough levels are left for it, and is refused for its
depth where they are not. -/
def ReadAs (cs : List Char) (tag : TypeTag) : Prop :=
  ∀ left, parseWithin left cs = if tag.textDepth ≤ left then .ok tag else refuse .depth

theorem bind_if_room {α β : Type} {room : Prop} [Decidable room] (a : α) (k : α → Fallible β) :
    ((if room then .ok a else refuse .depth) >>= k) = if room then k a else refuse .depth := by
  split <;> rfl

/-- What is made of the parts of a type needs one level more than the parts do. -/
theorem inside_bind {α β : Type} (read : (List Char → Fallible TypeTag) → Fallible α) {depth : Nat}
    {parts : α} (h : ∀ less, read (parseWithin less) =
      if depth ≤ less then .ok parts else refuse .depth) (make : α → β) (left : Nat) :
    (do let parseOne ← inside left; let parts ← read parseOne; return make parts) =
      if depth + 1 ≤ left then .ok (make parts) else refuse .depth := by
  cases left with
  | zero => rfl -- No part is looked at.
  | succ less =>
    rw [inside, Fallible.ok_bind, h less, bind_if_room]
    simp only [Nat.add_le_add_iff_right]
    rfl

theorem mapM_parseWithin {parts : List (List Char)} {tags : List TypeTag}
    (h : List.Forall₂ ReadAs parts tags) (left : Nat) :
    (parts.mapM fun part => parseWithin left (trim part)) =
      if textDepthOfList tags ≤ left then .ok tags else refuse .depth := by
  induction h with
  | nil => simp [textDepthOfList, pure, Except.pure]
  | @cons part tag parts tags first _ ih =>
    rw [List.mapM_cons, parseWithin_trim, first left, ih, textDepthOfList, bind_if_room,
      bind_if_room]
    simp only [Nat.max_le, ite_and]
    rfl

/-- A struct is read if its type arguments are, with one level less for them. -/
theorem parseStruct_inside {cs after : List Char} {parts : List (List Char)} {s : StructTag}
    (path : SpellsPath cs s.owner s.moduleName s.name) (some : parts ≠ [])
    (derived : List.Forall₂ Derives parts s.arguments)
    (each : List.Forall₂ ReadAs parts s.arguments) (blank : Blanks after) (left : Nat) :
    parseStruct (inside left) (cs ++ ('<' :: [','].intercalate parts ++ ['>']) ++ after) =
      if s.toTypeTag.textDepth ≤ left then .ok s else refuse .depth := by
  obtain ⟨owner, moduleName, name, arguments⟩ := s
  have depth : (StructTag.toTypeTag ⟨owner, moduleName, name, arguments⟩).textDepth =
      textDepthOfList arguments + 1 := by
    cases derived with
    | nil => exact absurd rfl some
    | cons => rfl
  rw [parseStruct_generic path some derived blank, depth]
  exact inside_bind (fun parseOne => parts.mapM fun part => parseOne (trim part))
    (mapM_parseWithin each) (StructTag.mk owner moduleName name) left

theorem readAs_keyword {cs : List Char} {word : String} {tag : TypeTag}
    (listed : (word, tag) ∈ keywords) (spaced : Spaced cs word.toList) : ReadAs cs tag := by
  intro left
  have shallow : ∀ entry ∈ keywords, entry.2.textDepth = 0 := by decide
  rw [parseWithin_eq, trim_of_spaced spaced (trimmed_of_plain (plain_of_keyword listed)),
    parseLevel_keyword listed, shallow _ listed, if_pos (Nat.zero_le left)]

theorem readAs_vector {cs text : List Char} {item : TypeTag} (derived : Derives text item)
    (each : ReadAs text item) (spaced : Spaced cs ("vector<".toList ++ text ++ ['>'])) :
    ReadAs cs (.vector item) := by
  intro left
  have trimmed : Trimmed ("vector<".toList ++ text ++ ['>']) := by
    have lead : Trimmed "vector".toList := trimmed_of_plain plain_vector
    exact lead.append (trimmed_enclosed text)
  have depth : (vector item).textDepth = item.textDepth + 1 := rfl
  rw [parseWithin_eq, trim_of_spaced spaced trimmed, parseLevel_vector derived, depth]
  exact inside_bind (fun parseOne => parseOne text) each vector left

theorem readAs_path {cs : List Char} {owner : Address} {moduleName name : String}
    (path : SpellsPath cs owner moduleName name) :
    ReadAs cs (.struct owner moduleName name []) := by
  intro left
  have whole := @parseLevel_of_path (inside left) _ _ _ _ path.trim (trimmed_trim cs).front []
  rw [List.append_nil, parseStruct_trim, parseStruct_path path] at whole
  rw [parseWithin_eq, whole]
  exact (if_pos (Nat.zero_le left)).symm

theorem readAs_generic {cs after : List Char} {parts : List (List Char)} {s : StructTag}
    (path : SpellsPath cs s.owner s.moduleName s.name) (some : parts ≠ [])
    (derived : List.Forall₂ Derives parts s.arguments)
    (each : List.Forall₂ ReadAs parts s.arguments) (blank : Blanks after) :
    ReadAs (cs ++ ('<' :: [','].intercalate parts ++ ['>']) ++ after) s.toTypeTag := by
  intro left
  have whole := @parseLevel_of_path (inside left) _ _ _ _ path.trimStart (front_trimStart cs)
    ('<' :: [','].intercalate parts ++ ['>'])
  rw [← trim_enclosed path.trimStart_ne_nil blank, parseStruct_trim,
    parseStruct_inside path some derived each blank] at whole
  rw [parseWithin_eq, whole]
  split <;> rfl

/-- Whatever the grammar derives is read, unless it nests too deep. -/
theorem Derives.readAs {cs : List Char} {tag : TypeTag} (h : Derives cs tag) : ReadAs cs tag := by
  refine h.induction ?keyword ?vector ?struct ?generic
  case keyword => exact fun cs word tag listed spaced => readAs_keyword listed spaced
  case vector => exact fun cs text item derived each spaced => readAs_vector derived each spaced
  case struct => exact fun cs owner moduleName name path => readAs_path path
  case generic =>
    intro cs after parts owner moduleName name arguments path some derived each blank
    exact @readAs_generic cs after parts ⟨owner, moduleName, name, arguments⟩ path some derived
      each blank

/-- A struct on its own is read like one inside of a type. -/
theorem Derives.parseStruct {cs : List Char} {s : StructTag} (h : Derives cs s.toTypeTag)
    (left : Nat) : parseStruct (inside left) cs =
      if s.toTypeTag.textDepth ≤ left then .ok s else refuse .depth := by
  obtain ⟨owner, moduleName, name, arguments⟩ := s
  cases h with
  | keyword listed => simp [keywords, StructTag.toTypeTag] at listed
  | struct path =>
    rw [parseStruct_path path]
    exact (if_pos (Nat.zero_le left)).symm
  | generic path some derived blank =>
    exact @parseStruct_inside _ _ _ ⟨owner, moduleName, name, arguments⟩ path some derived
      (derived.imp fun _ _ part => part.readAs) blank left

end MoveWire.TypeTag
