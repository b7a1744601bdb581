import MoveWire.Move.Parameter
import MoveWire.Proofs.Fallible
import MoveWire.Proofs.Move.TypeTag.Printed

/-!
Types with numbered parameters, as a module declares them, and their text. Putting arguments in the
place of the parameters can be done to the type or to its text: from the text that this gives, the
grammar derives the type.
-/

namespace MoveWire.Move

inductive GenericType where
  | primitive (tag : TypeTag) (simple : tag.isPrimitive)
  | parameter (index : Nat)
  | vector (item : GenericType)
  | struct (owner : Address) (moduleName name : String) (arguments : List GenericType)

namespace GenericType

/-- The name of a parameter. -/
def parameterChars (index : Nat) : List Char := 'T' :: Nat.toDigits 10 index

mutual

/-- The text of a type, with parameters by their names. -/
def chars (full : Bool) : GenericType → List Char
  | .primitive tag _ => tag.chars full
  | .parameter index => parameterChars index
  | .vector item => "vector<".toList ++ chars full item ++ ['>']
  | .struct owner moduleName name arguments =>
    TypeTag.structChars full owner moduleName name ++ TypeTag.join (charsList full arguments)

def charsList (full : Bool) : List GenericType → List (List Char)
  | [] => []
  | g :: rest => chars full g :: charsList full rest

end

def text (full : Bool) (g : GenericType) : String := String.ofList (g.chars full)

mutual

/-- The numbers of the parameters in a type, in the order of its text. -/
def indices : GenericType → List Nat
  | .primitive .. => []
  | .parameter index => [index]
  | .vector item => indices item
  | .struct _ _ _ arguments => indicesOfList arguments

def indicesOfList : List GenericType → List Nat
  | [] => []
  | g :: rest => indices g ++ indicesOfList rest

end

mutual

/-- The module and struct names in a type. -/
def names : GenericType → List String
  | .primitive .. => []
  | .parameter _ => []
  | .vector item => names item
  | .struct _ moduleName name arguments => moduleName :: name :: namesOfList arguments

def namesOfList : List GenericType → List String
  | [] => []
  | g :: rest => names g ++ namesOfList rest

end

mutual

/-- The type with arguments in the place of its parameters, if there is one for each. -/
def instantiate? (arguments : List TypeTag) : GenericType → Option TypeTag
  | .primitive tag _ => some tag
  | .parameter index => arguments[index]?
  | .vector item => (instantiate? arguments item).map .vector
  | .struct owner moduleName name inner =>
    (instantiateList? arguments inner).map (.struct owner moduleName name)

def instantiateList? (arguments : List TypeTag) : List GenericType → Option (List TypeTag)
  | [] => some []
  | g :: rest => do return (← instantiate? arguments g) :: (← instantiateList? arguments rest)

end

/-- A parameter for which a call has no type argument. -/
def missing (arguments : List TypeTag) (index : Nat) : WireError :=
  .invalid (.typeParameterRange (String.ofList (parameterChars index)) arguments.length)

mutual

/-- The text of a type with the texts of arguments in the place of its parameters. -/
def expand (full : Bool) (arguments : List TypeTag) : GenericType → Fallible (List Char)
  | .primitive tag _ => .ok (tag.chars full)
  | .parameter index =>
    match arguments[index]? with
    | some argument => .ok (argument.chars false)
    | none => .error (missing arguments index)
  | .vector item => do return "vector<".toList ++ (← expand full arguments item) ++ ['>']
  | .struct owner moduleName name inner => do
    return TypeTag.structChars full owner moduleName name ++
      TypeTag.join (← expandList full arguments inner)

def expandList (full : Bool) (arguments : List TypeTag) :
    List GenericType → Fallible (List (List Char))
  | [] => .ok []
  | g :: rest => do
    return (← expand full arguments g) :: (← expandList full arguments rest)

end

variable {full : Bool} {arguments : List TypeTag}

theorem chars_vector (item : GenericType) :
    (vector item).chars full = "vector<".toList ++ item.chars full ++ ['>'] := rfl

theorem chars_struct (owner : Address) (moduleName name : String) (inner : List GenericType) :
    (struct owner moduleName name inner).chars full =
      TypeTag.structChars full owner moduleName name ++ TypeTag.join (charsList full inner) := rfl

mutual

/-- There is an argument for each parameter, or one of them is missed. -/
theorem expand_cases : (g : GenericType) →
    ((∀ k ∈ g.indices, k < arguments.length) ∧ ∃ tag text, g.instantiate? arguments = some tag ∧
      g.expand full arguments = .ok text) ∨
    ∃ k ∈ g.indices, arguments.length ≤ k ∧ g.expand full arguments = .error (missing arguments k)
  | .primitive tag _ => .inl ⟨nofun, tag, _, rfl, rfl⟩
  | .parameter index => by
    by_cases inside : index < arguments.length
    · have there : arguments[index]? = some arguments[index] := List.getElem?_eq_getElem inside
      left
      refine ⟨by simpa [indices] using inside, arguments[index],
        arguments[index].chars false, there, ?_⟩
      rw [expand, there]
    · right
      refine ⟨index, List.mem_cons_self, Nat.not_lt.mp inside, ?_⟩
      rw [expand, List.getElem?_eq_none (Nat.not_lt.mp inside)]
  | .vector item => by
    rcases expand_cases item with ⟨inRange, tag, text, filled, expanded⟩ |
      ⟨k, member, short, refused⟩
    · left
      refine ⟨inRange, .vector tag, "vector<".toList ++ text ++ ['>'], ?_, ?_⟩
      · rw [instantiate?, filled, Option.map_some]
      · rw [expand, expanded]
        rfl
    · right
      refine ⟨k, member, short, ?_⟩
      rw [expand, refused]
      rfl
  | .struct owner moduleName name inner => by
    rcases expandList_cases inner with ⟨inRange, tags, texts, filled, expanded⟩ |
      ⟨k, member, short, refused⟩
    · left
      refine ⟨inRange, .struct owner moduleName name tags,
        TypeTag.structChars full owner moduleName name ++ TypeTag.join texts, ?_, ?_⟩
      · rw [instantiate?, filled, Option.map_some]
      · rw [expand, expanded]
        rfl
    · right
      refine ⟨k, member, short, ?_⟩
      rw [expand, refused]
      rfl

theorem expandList_cases : (gs : List GenericType) →
    ((∀ k ∈ indicesOfList gs, k < arguments.length) ∧ ∃ tags texts,
      instantiateList? arguments gs = some tags ∧ expandList full arguments gs = .ok texts) ∨
    ∃ k ∈ indicesOfList gs, arguments.length ≤ k ∧
      expandList full arguments gs = .error (missing arguments k)
  | [] => .inl ⟨nofun, [], [], rfl, rfl⟩
  | g :: rest => by
    rcases expand_cases g with ⟨inRange, tag, text, filled, expanded⟩ | ⟨k, member, short, refused⟩
    · rcases expandList_cases rest with ⟨others, tags, texts, all_filled, all_expanded⟩ |
        ⟨k, member, short, refused⟩
      · left
        refine ⟨List.forall_mem_append.mpr ⟨inRange, others⟩, tag :: tags, text :: texts, ?_, ?_⟩
        · rw [instantiateList?, filled, all_filled]
          rfl
        · rw [expandList, expanded, all_expanded]
          rfl
      · right
        refine ⟨k, List.mem_append_right _ member, short, ?_⟩
        rw [expandList, expanded, refused]
        rfl
    · right
      refine ⟨k, List.mem_append_left _ member, short, ?_⟩
      rw [expandList, refused]
      rfl

end

mutual

/-- The instance is derived from the text that has the texts of the arguments in it. -/
theorem derives_expand (known : ∀ argument ∈ arguments, ∀ name ∈ argument.names,
    isIdentifier name) : (g : GenericType) → (∀ name ∈ g.names, isIdentifier name) →
    ∀ {tag text}, g.instantiate? arguments = some tag → g.expand full arguments = .ok text →
      TypeTag.Derives text tag
  | .primitive tag simple, _, _, _, filled, expanded => by
    cases filled
    cases expanded
    exact TypeTag.derives_primitive simple
  | .parameter index, _, tag, text, filled, expanded => by
    have there : arguments[index]? = some tag := filled
    rw [expand, there] at expanded
    cases expanded
    exact TypeTag.derives_chars tag (known tag (List.mem_of_getElem? there))
  | .vector item, names, _, _, filled, expanded => by
    obtain ⟨tag, inner, rfl⟩ := Option.map_eq_some_iff.mp filled
    obtain ⟨text, spelled, given⟩ := Fallible.bind_eq_ok.mp expanded
    cases given
    exact .vector (derives_expand known item names inner spelled) (.refl _)
  | .struct owner moduleName name inner, names, _, _, filled, expanded => by
    rw [GenericType.names, List.forall_mem_cons, List.forall_mem_cons] at names
    obtain ⟨first, second, others⟩ := names
    obtain ⟨tags, all_filled, rfl⟩ := Option.map_eq_some_iff.mp filled
    obtain ⟨texts, spelled, given⟩ := Fallible.bind_eq_ok.mp expanded
    cases given
    exact TypeTag.derives_join (TypeTag.spellsPath_structChars owner first second)
      (derives_expandList known inner others all_filled spelled)

theorem derives_expandList (known : ∀ argument ∈ arguments, ∀ name ∈ argument.names,
    isIdentifier name) : (gs : List GenericType) → (∀ name ∈ namesOfList gs, isIdentifier name) →
    ∀ {tags texts}, instantiateList? arguments gs = some tags →
      expandList full arguments gs = .ok texts → List.Forall₂ TypeTag.Derives texts tags
  | [], _, _, _, filled, expanded => by
    cases filled
    cases expanded
    exact .nil
  | g :: rest, names, _, _, filled, expanded => by
    rw [namesOfList, List.forall_mem_append] at names
    obtain ⟨tag, first, later⟩ := Option.bind_eq_some_iff.mp filled
    obtain ⟨tags, others, given⟩ := Option.bind_eq_some_iff.mp later
    cases given
    obtain ⟨text, spelled, later⟩ := Fallible.bind_eq_ok.mp expanded
    obtain ⟨texts, all_spelled, given⟩ := Fallible.bind_eq_ok.mp later
    cases given
    exact .cons (derives_expand known g names.1 first spelled)
      (derives_expandList known rest names.2 others all_spelled)

end

mutual

/-- A type without parameters has the text of the type that it is. -/
theorem chars_of_closed : (g : GenericType) → ∀ {tag}, g.instantiate? [] = some tag →
    g.chars full = tag.chars full
  | .primitive _ _, tag, closed => by
    cases closed
    rfl
  | .parameter index, tag, closed => by
    cases closed
  | .vector item, tag, closed => by
    obtain ⟨inner, filled, rfl⟩ := Option.map_eq_some_iff.mp closed
    rw [chars_vector, chars_of_closed item filled, TypeTag.chars_vector]
  | .struct owner moduleName name inner, tag, closed => by
    obtain ⟨tags, filled, rfl⟩ := Option.map_eq_some_iff.mp closed
    rw [chars_struct, charsList_of_closed inner filled, TypeTag.chars_struct,
      TypeTag.argumentChars_eq]

theorem charsList_of_closed : (gs : List GenericType) → ∀ {tags},
    instantiateList? [] gs = some tags → charsList full gs = tags.map (·.chars full)
  | [], tags, closed => by
    cases closed
    rfl
  | g :: rest, tags, closed => by
    obtain ⟨tag, first, later⟩ := Option.bind_eq_some_iff.mp closed
    obtain ⟨tags, others, given⟩ := Option.bind_eq_some_iff.mp later
    cases given
    rw [charsList, chars_of_closed g first, charsList_of_closed rest others, List.map_cons]

end

end GenericType

end MoveWire.Move
