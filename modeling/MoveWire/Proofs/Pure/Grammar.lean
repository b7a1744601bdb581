import MoveWire.Move.PureType
import MoveWire.Proofs.Move.TypeTag.Text

/-!
The grammar of pure types as text: keywords, and the heads of vectors and options with a type in
brackets behind them; blanks stand around each type and in front of each bracket. A text is read as
a type exactly when the grammar derives it and no more than 128 heads nest. A text in which more
heads nest is refused for that, whatever they nest around, and any other text is no known type.
-/

namespace MoveWire.PureType

open Text

/-- The words for types without parts. -/
def keywords : List (String × PureType) :=
  [("bool", .bool), ("u8", .u8), ("u16", .u16), ("u32", .u32), ("u64", .u64), ("u128", .u128),
    ("u256", .u256), ("address", .address), ("string", .string)]

/-- The words in front of brackets. -/
def heads : List (String × (PureType → PureType)) := [("vector", vector), ("option", option)]

/-- A head with brackets around `inner`, all of it between blanks. -/
def Wraps (head : String) (cs inner : List Char) : Prop :=
  ∃ gap, Blanks gap ∧ Spaced cs (head.toList ++ gap ++ ('<' :: inner ++ ['>']))

/-- The texts of pure types. -/
inductive Derives : List Char → PureType → Prop
  | keyword {cs : List Char} {word : String} {type : PureType} (listed : (word, type) ∈ keywords)
      (spaced : Spaced cs word.toList) : Derives cs type
  | generic {cs inner : List Char} {head : String} {make : PureType → PureType} {item : PureType}
      (listed : (head, make) ∈ heads) (wraps : Wraps head cs inner) (part : Derives inner item) :
      Derives cs (make item)

/-- At least so many heads nest in a text, whatever the innermost brackets stand around. -/
inductive Nests : Nat → List Char → Prop
  | whatever (cs : List Char) : Nests 0 cs
  | inside {cs inner : List Char} {head : String} {make : PureType → PureType} {n : Nat}
      (listed : (head, make) ∈ heads) (wraps : Wraps head cs inner) (deeper : Nests n inner) :
      Nests (n + 1) cs

theorem vector_mem_heads : ("vector", vector) ∈ heads := .head _

theorem option_mem_heads : ("option", option) ∈ heads := .tail _ (.head _)

theorem cases_of_heads {head : String} {make : PureType → PureType}
    (listed : (head, make) ∈ heads) :
    head = "vector" ∧ make = vector ∨ head = "option" ∧ make = option := by
  simpa [heads] using listed

theorem depth_make {head : String} {make : PureType → PureType} (listed : (head, make) ∈ heads)
    (item : PureType) : (make item).depth = item.depth + 1 := by
  rcases cases_of_heads listed with ⟨-, rfl⟩ | ⟨-, rfl⟩ <;> rfl

theorem depth_keyword {word : String} {type : PureType} (listed : (word, type) ∈ keywords) :
    type.depth = 0 := by
  have flat : ∀ entry ∈ keywords, entry.2.depth = 0 := by decide
  exact flat (word, type) listed

theorem ofKeyword?_eq_some_iff {cs : List Char} {type : PureType} :
    ofKeyword? cs = some type ↔ ∃ word, (word, type) ∈ keywords ∧ cs = word.toList := by
  constructor
  · intro h
    have spelled {text : String} (same : String.ofList cs = text) : cs = text.toList := by
      rw [← same, String.toList_ofList]
    unfold ofKeyword? at h
    split at h <;> cases h
    all_goals
      refine ⟨_, ?_, spelled ‹_›⟩
      simp [keywords]
  · rintro ⟨word, listed, rfl⟩
    have each : ∀ entry ∈ keywords, ofKeyword? entry.1.toList = some entry.2 := by decide
    exact each (word, type) listed

theorem trimmed_keyword {word : String} {type : PureType} (listed : (word, type) ∈ keywords) :
    Trimmed word.toList := by
  have solid : ∀ entry ∈ keywords, entry.1.toList.all (!isBlank ·) = true := by decide
  refine .of_forall fun c member => ?_
  simpa using List.all_eq_true.mp (solid (word, type) listed) c member

theorem argument?_eq_some_iff {head : String} {cs inner : List Char} :
    argument? head cs = some inner ↔
      ∃ gap, Blanks gap ∧ cs = head.toList ++ gap ++ ('<' :: inner ++ ['>']) := by
  have bracket (rest : List Char) : trimStart ('<' :: rest) = '<' :: rest :=
    dropWhile_of_head? (by rintro c ⟨⟩; rfl)
  simp only [argument?, Option.bind_eq_bind, Option.bind_eq_some_iff, stripStart?_eq_some_iff,
    stripEnd?_eq_some_iff]
  constructor
  · rintro ⟨rest, rfl, _, trimmed, rfl⟩
    obtain ⟨gap, blank, whole⟩ := trimStart_spec rest
    rw [trimmed] at whole
    exact ⟨gap, blank, by rw [whole, List.append_assoc]; rfl⟩
  · rintro ⟨gap, blank, rfl⟩
    refine ⟨gap ++ ('<' :: inner ++ ['>']), List.append_assoc _ _ _, _, ?_, rfl⟩
    rw [trimStart_append blank]
    exact bracket _

theorem trimmed_wrapped {head : String} {make : PureType → PureType}
    (listed : (head, make) ∈ heads) (gap inner : List Char) :
    Trimmed (head.toList ++ gap ++ ('<' :: inner ++ ['>'])) where
  front c first := by
    rcases cases_of_heads listed with ⟨rfl, -⟩ | ⟨rfl, -⟩
    · cases first
      rfl
    · cases first
      rfl
  back c last := by
    rw [← List.append_assoc, List.getLast?_concat] at last
    cases last
    rfl

theorem wraps_iff {head : String} {make : PureType → PureType} (listed : (head, make) ∈ heads)
    {cs inner : List Char} : Wraps head cs inner ↔ argument? head (trim cs) = some inner := by
  rw [argument?_eq_some_iff]
  constructor
  · rintro ⟨gap, blank, spaced⟩
    exact ⟨gap, blank, trim_of_spaced spaced (trimmed_wrapped listed gap inner)⟩
  · rintro ⟨gap, blank, core⟩
    exact ⟨gap, blank, core ▸ spaced_trim cs⟩

/-- A text that starts with one head does not start with the other. -/
theorem argument?_vector_of_option {cs inner : List Char}
    (there : argument? "option" cs = some inner) : argument? "vector" cs = none := by
  obtain ⟨gap, -, rfl⟩ := argument?_eq_some_iff.mp there
  cases other : argument? "vector" ("option".toList ++ gap ++ ('<' :: inner ++ ['>'])) with
  | none => rfl
  | some _ =>
    obtain ⟨_, -, same⟩ := argument?_eq_some_iff.mp other
    exact absurd (List.cons.inj same).1 (by decide)

section Level

variable {cs inner : List Char} {head : String} {make : PureType → PureType}

theorem parseWithin_of_keyword {word : String} {type : PureType}
    (listed : (word, type) ∈ keywords) (spaced : Spaced cs word.toList) (left : Nat) :
    parseWithin left cs = .ok type := by
  have core := trim_of_spaced spaced (trimmed_keyword listed)
  have known : ofKeyword? (trim cs) = some type := ofKeyword?_eq_some_iff.mpr ⟨word, listed, core⟩
  rw [parseWithin]
  simp only [known]

/-- Keywords have no brackets. -/
theorem ofKeyword?_of_wraps (listed : (head, make) ∈ heads) (wraps : Wraps head cs inner) :
    ofKeyword? (trim cs) = none := by
  cases known : ofKeyword? (trim cs) with
  | none => rfl
  | some type =>
    have plain : ∀ entry ∈ keywords, '<' ∉ entry.1.toList := by decide
    obtain ⟨word, keyword, core⟩ := ofKeyword?_eq_some_iff.mp known
    obtain ⟨gap, -, bracket⟩ := argument?_eq_some_iff.mp ((wraps_iff listed).mp wraps)
    refine absurd ?_ (plain _ keyword)
    rw [← core, bracket]
    simp

theorem arguments_of_wraps (listed : (head, make) ∈ heads) (wraps : Wraps head cs inner) :
    ((argument? "vector" (trim cs)).map (vector, ·) <|>
      (argument? "option" (trim cs)).map (option, ·)) = some (make, inner) := by
  have there := (wraps_iff listed).mp wraps
  rcases cases_of_heads listed with ⟨rfl, rfl⟩ | ⟨rfl, rfl⟩
  · rw [there]
    rfl
  · rw [argument?_vector_of_option there, there]
    rfl

theorem parseWithin_of_wraps (listed : (head, make) ∈ heads) (wraps : Wraps head cs inner)
    (left : Nat) : parseWithin (left + 1) cs = make <$> parseWithin left inner := by
  rw [parseWithin]
  simp only [ofKeyword?_of_wraps listed wraps, arguments_of_wraps listed wraps]

theorem parseWithin_zero_of_wraps (listed : (head, make) ∈ heads) (wraps : Wraps head cs inner) :
    parseWithin 0 cs = .error (.parse .depth) := by
  rw [parseWithin]
  simp only [ofKeyword?_of_wraps listed wraps, arguments_of_wraps listed wraps]

/-- A text is a keyword, has a head and brackets, or is refused as no known type. -/
theorem level_cases (cs : List Char) :
    (∃ word type, (word, type) ∈ keywords ∧ Spaced cs word.toList) ∨
    (∃ head make inner, (head, make) ∈ heads ∧ Wraps head cs inner) ∨
    ∀ left, ∃ name, parseWithin left cs = .error (.unknownType name) := by
  cases known : ofKeyword? (trim cs) with
  | some type =>
    obtain ⟨word, listed, core⟩ := ofKeyword?_eq_some_iff.mp known
    exact .inl ⟨word, type, listed, core ▸ spaced_trim cs⟩
  | none =>
    refine .inr ?_
    cases first : argument? "vector" (trim cs) with
    | some inner =>
      exact .inl ⟨_, _, inner, vector_mem_heads, (wraps_iff vector_mem_heads).mpr first⟩
    | none =>
      cases second : argument? "option" (trim cs) with
      | some inner =>
        exact .inl ⟨_, _, inner, option_mem_heads, (wraps_iff option_mem_heads).mpr second⟩
      | none =>
        refine .inr fun left => ⟨String.ofList (trim cs), ?_⟩
        rw [parseWithin]
        simp only [known, first, second]
        rfl

end Level

theorem Derives.readAs {cs : List Char} {type : PureType} (h : Derives cs type) : ∀ left,
    parseWithin left cs = if type.depth ≤ left then .ok type else .error (.parse .depth) := by
  induction h with
  | @keyword cs word type listed spaced =>
    intro left
    have shallow : type.depth ≤ left := by
      rw [depth_keyword listed]
      exact Nat.zero_le left
    rw [parseWithin_of_keyword listed spaced, if_pos shallow]
  | @generic cs inner head make item listed wraps part ih =>
    intro left
    rw [depth_make listed]
    cases left with
    | zero => rw [parseWithin_zero_of_wraps listed wraps, if_neg (Nat.not_succ_le_zero _)]
    | succ left =>
      rw [parseWithin_of_wraps listed wraps, ih left]
      by_cases room : item.depth ≤ left
      · rw [if_pos room, if_pos (Nat.succ_le_succ room)]
        rfl
      · rw [if_neg room, if_neg fun fits => room (Nat.le_of_succ_le_succ fits)]
        rfl

/-- Heads for which no level is left are refused before what they stand around is looked at. -/
theorem Nests.refused {left : Nat} {cs : List Char} (h : Nests (left + 1) cs) :
    parseWithin left cs = .error (.parse .depth) := by
  induction left generalizing cs with
  | zero =>
    cases h with
    | inside listed wraps => exact parseWithin_zero_of_wraps listed wraps
  | succ left ih =>
    cases h with
    | inside listed wraps deeper =>
      rw [parseWithin_of_wraps listed wraps, ih deeper]
      rfl

/-- What becomes of a text: it is derived and read, heads nest too deep, or it is no known type. -/
theorem parseWithin_cases (left : Nat) (cs : List Char) :
    (∃ type, Derives cs type ∧ type.depth ≤ left) ∨ Nests (left + 1) cs ∨
      ∃ name, parseWithin left cs = .error (.unknownType name) := by
  induction left generalizing cs with
  | zero =>
    rcases level_cases cs with ⟨word, type, listed, spaced⟩ | ⟨head, make, inner, listed, wraps⟩ |
      unknown
    · exact .inl ⟨type, .keyword listed spaced, (depth_keyword listed).le⟩
    · exact .inr (.inl (.inside listed wraps (.whatever inner)))
    · exact .inr (.inr (unknown 0))
  | succ left ih =>
    rcases level_cases cs with ⟨word, type, listed, spaced⟩ | ⟨head, make, inner, listed, wraps⟩ |
      unknown
    · exact .inl ⟨type, .keyword listed spaced, (depth_keyword listed).le.trans (Nat.zero_le _)⟩
    · rcases ih inner with ⟨item, part, room⟩ | deeper | ⟨name, refused⟩
      · exact .inl ⟨make item, .generic listed wraps part,
          (depth_make listed item).le.trans (Nat.succ_le_succ room)⟩
      · exact .inr (.inl (.inside listed wraps deeper))
      · exact .inr (.inr ⟨name, by rw [parseWithin_of_wraps listed wraps, refused]; rfl⟩)
    · exact .inr (.inr (unknown (left + 1)))

theorem parseWithin_eq_ok_iff {left : Nat} {cs : List Char} {type : PureType} :
    parseWithin left cs = .ok type ↔ Derives cs type ∧ type.depth ≤ left := by
  constructor
  · intro run
    rcases parseWithin_cases left cs with ⟨other, derived, room⟩ | deep | ⟨name, refused⟩
    · have same := derived.readAs left
      rw [if_pos room, run] at same
      cases same
      exact ⟨derived, room⟩
    · rw [deep.refused] at run
      cases run
    · rw [refused] at run
      cases run
  · rintro ⟨derived, room⟩
    rw [derived.readAs, if_pos room]

theorem parseWithin_eq_depth_iff {left : Nat} {cs : List Char} :
    parseWithin left cs = .error (.parse .depth) ↔ Nests (left + 1) cs := by
  constructor
  · intro run
    rcases parseWithin_cases left cs with ⟨type, read⟩ | deep | ⟨name, refused⟩
    · rw [parseWithin_eq_ok_iff.mpr read] at run
      cases run
    · exact deep
    · rw [refused] at run
      cases run
  · exact Nests.refused

theorem parseWithin_eq_unknown_iff {left : Nat} {cs : List Char} :
    (∃ name, parseWithin left cs = .error (.unknownType name)) ↔
      (¬∃ type, Derives cs type ∧ type.depth ≤ left) ∧ ¬Nests (left + 1) cs := by
  constructor
  · rintro ⟨name, refused⟩
    constructor
    · rintro ⟨type, read⟩
      rw [parseWithin_eq_ok_iff.mpr read] at refused
      cases refused
    · intro deep
      rw [deep.refused] at refused
      cases refused
  · rintro ⟨underived, shallow⟩
    rcases parseWithin_cases left cs with read | deep | unknown
    · exact absurd read underived
    · exact absurd deep shallow
    · exact unknown

theorem wraps_text (head : String) (item : PureType) :
    Wraps head (head ++ "<" ++ item.text ++ ">").toList item.text.toList := by
  refine ⟨[], .nil, ?_⟩
  have whole : (head ++ "<" ++ item.text ++ ">").toList =
      head.toList ++ [] ++ ('<' :: item.text.toList ++ ['>']) := by simp
  rw [whole]
  exact .refl _

theorem text_mem_keywords {type : PureType} (flat : type.depth = 0) :
    (type.text, type) ∈ keywords := by
  cases type with
  | vector | option => cases flat
  | _ => decide

theorem derives_text (type : PureType) : Derives type.text.toList type := by
  induction type with
  | vector item ih => exact .generic vector_mem_heads (wraps_text "vector" item) ih
  | option item ih => exact .generic option_mem_heads (wraps_text "option" item) ih
  | _ => exact .keyword (text_mem_keywords rfl) (.refl _)

theorem parse_text (type : PureType) :
    parse type.text = if type.depth ≤ 128 then .ok type else .error (.parse .depth) :=
  (derives_text type).readAs maxTypeDepth

theorem pureType?_struct {owner : Address} {moduleName name : String} {arguments : List TypeTag}
    {type : PureType} (h : (TypeTag.struct owner moduleName name arguments).pureType? = some type) :
    type = .string ∨ type = .address ∨
      ∃ item inner, arguments = [item] ∧ item.pureType? = some inner ∧ type = .option inner := by
  unfold TypeTag.pureType? at h
  dsimp only at h
  split_ifs at h
  · cases h
    exact .inl rfl
  · cases h
    exact .inr (.inl rfl)
  · split at h
    · obtain ⟨inner, found, rfl⟩ := Option.map_eq_some_iff.mp h
      exact .inr (.inr ⟨_, inner, rfl, found, rfl⟩)
    · cases h

theorem eq_vector_of_pureType? {tag : TypeTag} {inner : PureType}
    (h : tag.pureType? = some (.vector inner)) :
    ∃ item, tag = .vector item ∧ item.pureType? = some inner := by
  cases tag with
  | vector item =>
    obtain ⟨_, found, same⟩ := Option.map_eq_some_iff.mp h
    cases same
    exact ⟨item, rfl, found⟩
  | struct =>
    obtain other | other | ⟨_, _, -, -, other⟩ := pureType?_struct h
    all_goals cases other
  | _ => cases h

theorem eq_struct_of_pureType? {tag : TypeTag} {inner : PureType}
    (h : tag.pureType? = some (.option inner)) :
    ∃ owner moduleName name item, tag = .struct owner moduleName name [item] ∧
      item.pureType? = some inner := by
  cases tag with
  | vector item =>
    obtain ⟨_, -, other⟩ := Option.map_eq_some_iff.mp h
    cases other
  | struct owner moduleName name arguments =>
    obtain other | other | ⟨item, _, rfl, found, same⟩ := pureType?_struct h
    · cases other
    · cases other
    · cases same
      exact ⟨owner, moduleName, name, item, rfl, found⟩
  | _ => cases h

/-- A level of the pure type is a level of the Move type, since an option has a type argument. -/
theorem depth_le_of_pureType? {tag : TypeTag} {type : PureType} (h : tag.pureType? = some type) :
    type.depth ≤ tag.textDepth := by
  induction type generalizing tag with
  | vector inner ih =>
    obtain ⟨item, rfl, found⟩ := eq_vector_of_pureType? h
    exact Nat.succ_le_succ (ih found)
  | option inner ih =>
    obtain ⟨owner, moduleName, name, item, rfl, found⟩ := eq_struct_of_pureType? h
    have level : (TypeTag.struct owner moduleName name [item]).textDepth = item.textDepth + 1 := by
      simp [TypeTag.textDepth, TypeTag.textDepthOfList]
    rw [level]
    exact Nat.succ_le_succ (ih found)
  | _ => exact Nat.zero_le _

/-- A text is read as a pure type exactly if the grammar derives it and at most 128 heads nest; it
is refused for its depth exactly if more than 128 heads nest, whatever they nest around, and as no
known type otherwise. So printed types that nest no deeper are read back, and among them are all
pure types of Move types that were read from text. -/
theorem parse_accepts_pure_grammar :
    (∀ text : String,
      (∀ type, parse text = .ok type ↔ Derives text.toList type ∧ type.depth ≤ 128) ∧
      (parse text = .error (.parse .depth) ↔ Nests 129 text.toList) ∧
      ((∃ name, parse text = .error (.unknownType name)) ↔
        (¬∃ type, Derives text.toList type ∧ type.depth ≤ 128) ∧ ¬Nests 129 text.toList)) ∧
    (∀ type : PureType,
      parse type.text = if type.depth ≤ 128 then .ok type else .error (.parse .depth)) ∧
    ∀ text tag type, TypeTag.parse text = .ok tag → tag.pureType? = some type →
      parse type.text = .ok type := by
  refine ⟨fun text => ⟨fun type => parseWithin_eq_ok_iff, parseWithin_eq_depth_iff,
    parseWithin_eq_unknown_iff⟩, parse_text, ?_⟩
  intro text tag type read pure
  have depth : type.depth ≤ 128 :=
    (depth_le_of_pureType? pure).trans (TypeTag.spelledWithin_of_parse read).depth
  rw [parse_text, if_pos depth]

/-- Options of identifiers are read from their Move text, and so is the pure text of their type. -/
theorem identifier_options_read_back :
    let text := "vector< 0x1::option::Option<0x2::object::ID> >"
    let tag : TypeTag :=
      .vector (.struct .stdlib "option" "Option" [.struct .framework "object" "ID" []])
    let type : PureType := .vector (.option .address)
    TypeTag.parse text = .ok tag ∧ tag.pureType? = some type ∧ parse type.text = .ok type := by
  intro text tag type
  have read : TypeTag.parse text = .ok tag := by decide +kernel
  have pure : tag.pureType? = some type := by decide +kernel
  exact ⟨read, pure, parse_accepts_pure_grammar.2.2 text tag type read pure⟩

end MoveWire.PureType
