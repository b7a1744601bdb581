import MoveWire.Address
import MoveWire.Move.Identifier

/-!
Types of Move values, as they stand in transactions. A type has a total order: primitive types by
their place in the list below, then vectors, then structs by address, names and type arguments.
-/

namespace MoveWire

inductive TypeTag where
  | bool
  | u8
  | u16
  | u32
  | u64
  | u128
  | u256
  | address
  | signer
  | vector (item : TypeTag)
  | struct (owner : Address) (moduleName name : String) (arguments : List TypeTag)

/-- A struct type on its own. -/
structure StructTag where
  owner : Address
  moduleName : String
  name : String
  arguments : List TypeTag

def StructTag.toTypeTag (s : StructTag) : TypeTag :=
  .struct s.owner s.moduleName s.name s.arguments

namespace TypeTag

def asStruct? : TypeTag → Option StructTag
  | .struct owner moduleName name arguments => some ⟨owner, moduleName, name, arguments⟩
  | _ => none

def isPrimitive : TypeTag → Bool
  | .vector _ => false
  | .struct .. => false
  | _ => true

/-- The place of a type's form in the order. -/
def rank : TypeTag → Nat
  | .bool => 0
  | .u8 => 1
  | .u16 => 2
  | .u32 => 3
  | .u64 => 4
  | .u128 => 5
  | .u256 => 6
  | .address => 7
  | .signer => 8
  | .vector _ => 9
  | .struct .. => 10

mutual

def compare : TypeTag → TypeTag → Ordering
  | .vector a, .vector b => compare a b
  | .struct a m n as, .struct b k l bs =>
    (Ord.compare a b).then ((Ord.compare m k).then ((Ord.compare n l).then (compareLists as bs)))
  | a, b => Ord.compare a.rank b.rank

def compareLists : List TypeTag → List TypeTag → Ordering
  | [], [] => .eq
  | [], _ :: _ => .lt
  | _ :: _, [] => .gt
  | a :: as, b :: bs => (compare a b).then (compareLists as bs)

end

instance : Ord TypeTag := ⟨compare⟩

mutual

def beq : TypeTag → TypeTag → Bool
  | .vector a, .vector b => beq a b
  | .struct a m n as, .struct b k l bs => a == b && m == k && n == l && beqLists as bs
  | .vector _, _ => false
  | .struct .., _ => false
  | a, b => a.rank == b.rank

def beqLists : List TypeTag → List TypeTag → Bool
  | [], [] => true
  | a :: as, b :: bs => beq a b && beqLists as bs
  | _, _ => false

end

mutual

theorem beq_iff : (a b : TypeTag) → (beq a b = true ↔ a = b)
  | .vector a, b => by cases b <;> simp [beq, beq_iff a]
  | .struct a m n as, b => by cases b <;> simp [beq, beqLists_iff as, and_assoc]
  | .bool, b => by cases b <;> simp [beq, rank]
  | .u8, b => by cases b <;> simp [beq, rank]
  | .u16, b => by cases b <;> simp [beq, rank]
  | .u32, b => by cases b <;> simp [beq, rank]
  | .u64, b => by cases b <;> simp [beq, rank]
  | .u128, b => by cases b <;> simp [beq, rank]
  | .u256, b => by cases b <;> simp [beq, rank]
  | .address, b => by cases b <;> simp [beq, rank]
  | .signer, b => by cases b <;> simp [beq, rank]

theorem beqLists_iff : (as bs : List TypeTag) → (beqLists as bs = true ↔ as = bs)
  | [], bs => by cases bs <;> simp [beqLists]
  | a :: as, bs => by cases bs <;> simp [beqLists, beq_iff a, beqLists_iff as]

end

instance : DecidableEq TypeTag := fun a b => decidable_of_iff _ (beq_iff a b)

end TypeTag

deriving instance DecidableEq for StructTag

/-- Is this the struct of this name, whatever its type arguments? -/
def StructTag.named (s : StructTag) (owner : Address) (moduleName name : String) : Bool :=
  s.owner == owner && s.moduleName == moduleName && s.name == name

end MoveWire
