import MoveWire.Move.TypeTag

/-!
What a type is made of: the types inside of it, the names and lengths that they bring along, and
how deep vectors and structs nest.
-/

namespace MoveWire.TypeTag

mutual

/-- A type and all types inside of it. -/
def parts : TypeTag → List TypeTag
  | .vector item => .vector item :: parts item
  | .struct owner moduleName name arguments =>
    .struct owner moduleName name arguments :: partsOfList arguments
  | tag => [tag]

def partsOfList : List TypeTag → List TypeTag
  | [] => []
  | tag :: rest => parts tag ++ partsOfList rest

end

mutual

/-- The most vectors and structs that lie on one way from a type down to a type without parts. -/
def depth : TypeTag → Nat
  | .vector item => depth item + 1
  | .struct _ _ _ arguments => depthOfList arguments + 1
  | _ => 0

def depthOfList : List TypeTag → Nat
  | [] => 0
  | tag :: rest => max (depth tag) (depthOfList rest)

end

mutual

/-- The most vectors and structs with type arguments that lie on one way from a type down to a
type without parts. -/
def textDepth : TypeTag → Nat
  | .vector item => textDepth item + 1
  | .struct _ _ _ arguments => if arguments.isEmpty then 0 else textDepthOfList arguments + 1
  | _ => 0

def textDepthOfList : List TypeTag → Nat
  | [] => 0
  | tag :: rest => max (textDepth tag) (textDepthOfList rest)

end

/-- The module and struct names in a type. -/
def names (tag : TypeTag) : List String :=
  tag.parts.flatMap fun
    | .struct _ moduleName name _ => [moduleName, name]
    | _ => []

/-- The lengths in bytes of the names in a type, and its counts of type arguments. -/
def lengths (tag : TypeTag) : List Nat :=
  tag.parts.flatMap fun
    | .struct _ moduleName name arguments =>
      [moduleName.utf8ByteSize, name.utf8ByteSize, arguments.length]
    | _ => []

theorem partsOfList_eq (tags : List TypeTag) : partsOfList tags = tags.flatMap parts := by
  induction tags with
  | nil => rfl
  | cons tag rest ih => rw [partsOfList, ih, List.flatMap_cons]

theorem depthOfList_le {tags : List TypeTag} {n : Nat} :
    depthOfList tags ≤ n ↔ ∀ tag ∈ tags, tag.depth ≤ n := by
  induction tags with
  | nil => simp [depthOfList]
  | cons tag rest ih => rw [depthOfList, Nat.max_le, ih, List.forall_mem_cons]

@[simp] theorem names_vector (item : TypeTag) : (vector item).names = item.names := by
  simp [names, parts]

@[simp] theorem names_struct (owner : Address) (moduleName name : String)
    (arguments : List TypeTag) : (struct owner moduleName name arguments).names =
      moduleName :: name :: arguments.flatMap names := by
  simp only [names, parts, List.flatMap_cons, partsOfList_eq, List.flatMap_assoc]
  rfl

@[simp] theorem lengths_vector (item : TypeTag) : (vector item).lengths = item.lengths := by
  simp [lengths, parts]

@[simp] theorem lengths_struct (owner : Address) (moduleName name : String)
    (arguments : List TypeTag) : (struct owner moduleName name arguments).lengths =
      moduleName.utf8ByteSize :: name.utf8ByteSize :: arguments.length ::
        arguments.flatMap lengths := by
  simp only [lengths, parts, List.flatMap_cons, partsOfList_eq, List.flatMap_assoc]
  rfl

/-- Types without parts bring along no names and no lengths, and nest nothing. -/
theorem primitive_parts {tag : TypeTag} (h : tag.isPrimitive) :
    tag.names = [] ∧ tag.lengths = [] ∧ tag.depth = 0 := by
  cases tag with
  | vector => cases h
  | struct => cases h
  | _ => exact ⟨rfl, rfl, rfl⟩

end MoveWire.TypeTag
