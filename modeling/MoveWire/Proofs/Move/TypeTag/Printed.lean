import MoveWire.Move.TypeTag.Printer
import MoveWire.Proofs.Move.TypeTag.Grammar
import MoveWire.Proofs.Move.TypeTag.Parts

/-!
Printed types are among the texts of the grammar: if all names are identifiers, a type is derived
from its text, with short and with full addresses.
-/

namespace MoveWire

open Text

namespace Address

/-- The text of an address in a type is a literal of the address. -/
theorem isLiteral_chars (full : Bool) (a : Address) :
    ∃ digits, IsLiteral (a.chars full) a digits := by
  cases full with
  | false => exact ⟨_, isLiteral_shortText a⟩
  | true => exact ⟨_, isLiteral_text a⟩

end Address

namespace TypeTag

variable {full : Bool}

theorem derives_primitive {tag : TypeTag} (h : tag.isPrimitive) : Derives (tag.chars full) tag := by
  have listed : (String.ofList (tag.chars full), tag) ∈ keywords := by
    cases tag with
    | vector => cases h
    | struct => cases h
    | _ => exact List.mem_of_elem_eq_true rfl
  refine .keyword listed ?_
  rw [String.toList_ofList]
  exact .refl _

theorem spellsPath_structChars (owner : Address) {moduleName name : String}
    (first : Move.isIdentifier moduleName) (second : Move.isIdentifier name) :
    SpellsPath (structChars full owner moduleName name) owner moduleName name := by
  obtain ⟨digits, spelled⟩ := Address.isLiteral_chars full owner
  have path := SpellsPath.path ⟨_, digits, .refl _, spelled⟩
    ⟨.refl _, Move.isIdentifier_iff.mp first⟩ ⟨.refl _, Move.isIdentifier_iff.mp second⟩
  simpa only [structChars, List.append_assoc] using path

/-- Texts of type arguments behind the first one. -/
def joinTail (texts : List (List Char)) : List Char := texts.flatMap fun text => ',' :: ' ' :: text

/-- Texts of type arguments between brackets, nothing if there are none. -/
def join : List (List Char) → List Char
  | [] => []
  | first :: rest => '<' :: first ++ joinTail rest ++ ['>']

theorem tailChars_eq (tags : List TypeTag) :
    tailChars full tags = joinTail (tags.map (·.chars full)) := by
  induction tags with
  | nil => rfl
  | cons tag rest ih =>
    rw [tailChars, ih]
    simp [joinTail]

/-- Type arguments are printed as their joined texts. -/
theorem argumentChars_eq (tags : List TypeTag) :
    argumentChars full tags = join (tags.map (·.chars full)) := by
  cases tags with
  | nil => rfl
  | cons first rest => rw [argumentChars, tailChars_eq, List.map_cons, join]

/-- Joined texts have commas between them, and blanks behind the commas. -/
theorem append_joinTail (first : List Char) (rest : List (List Char)) :
    first ++ joinTail rest = [','].intercalate (first :: rest.map (' ' :: ·)) := by
  induction rest generalizing first with
  | nil => simp [joinTail]
  | cons text rest ih =>
    rw [List.map_cons, List.intercalate_cons_cons, ← ih]
    simp [joinTail]

theorem chars_struct (owner : Address) (moduleName name : String) (arguments : List TypeTag) :
    (struct owner moduleName name arguments).chars full =
      structChars full owner moduleName name ++ argumentChars full arguments := rfl

theorem chars_vector (item : TypeTag) :
    (vector item).chars full = "vector<".toList ++ item.chars full ++ ['>'] := rfl

/-- A struct is derived from a path with texts of its type arguments behind it. -/
theorem derives_join {path : List Char} {owner : Address} {moduleName name : String}
    {texts : List (List Char)} {tags : List TypeTag}
    (spelled : SpellsPath path owner moduleName name) (each : List.Forall₂ Derives texts tags) :
    Derives (path ++ join texts) (.struct owner moduleName name tags) := by
  cases each with
  | nil =>
    rw [join, List.append_nil]
    exact .struct spelled
  | @cons text tag texts tags one others =>
    have spaced (cs : List Char) : Spaced (' ' :: cs) cs := ⟨[' '], [], .single rfl, .nil, by simp⟩
    have parts : List.Forall₂ Derives (texts.map (' ' :: ·)) tags := by
      rw [List.forall₂_map_left_iff]
      exact others.imp fun cs _ derived => .of_spaced (spaced cs) derived
    have whole := Derives.generic spelled (List.cons_ne_nil _ _) (.cons one parts) .nil
    rwa [← append_joinTail, List.append_nil] at whole

/-- A struct is derived from its text if its type arguments are derived from theirs. -/
theorem derives_struct {owner : Address} {moduleName name : String} {arguments : List TypeTag}
    (path : SpellsPath (structChars full owner moduleName name) owner moduleName name)
    (each : ∀ tag ∈ arguments, Derives (tag.chars full) tag) :
    Derives ((struct owner moduleName name arguments).chars full)
      (.struct owner moduleName name arguments) := by
  rw [chars_struct, argumentChars_eq]
  apply derives_join path
  rw [List.forall₂_map_left_iff, List.forall₂_same]
  exact each

mutual

theorem derives_chars : (tag : TypeTag) → (∀ name ∈ tag.names, Move.isIdentifier name) →
    Derives (tag.chars full) tag
  | .vector item, h => .vector (derives_chars item (by simpa using h)) (.refl _)
  | .struct owner moduleName name arguments, h => by
    simp only [names_struct, List.forall_mem_cons, List.forall_mem_flatMap] at h
    obtain ⟨first, second, inner⟩ := h
    exact derives_struct (spellsPath_structChars owner first second)
      (derives_charsList arguments inner)
  | .bool, _ | .u8, _ | .u16, _ | .u32, _ | .u64, _ | .u128, _ | .u256, _ | .address, _
  | .signer, _ => derives_primitive rfl

theorem derives_charsList : (tags : List TypeTag) →
    (∀ tag ∈ tags, ∀ name ∈ tag.names, Move.isIdentifier name) →
      ∀ tag ∈ tags, Derives (tag.chars full) tag
  | [], _ => nofun
  | first :: rest, h => by
    obtain ⟨one, others⟩ := List.forall_mem_cons.mp h
    exact List.forall_mem_cons.mpr ⟨derives_chars first one, derives_charsList rest others⟩

end

end TypeTag

end MoveWire
