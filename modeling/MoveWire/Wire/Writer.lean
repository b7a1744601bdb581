import MoveWire.Wire.Reader

/-!
Byte forms of the values that readers read. Forms are put one behind the other; a form that needs
a count or a tag outside its range fails as a whole.
-/

namespace MoveWire.Writer

def number (width n : Nat) : Bytes := Bytes.ofNat width n

def u16 (v : UInt16) : Bytes := number 2 v.toNat

def u32 (v : UInt32) : Bytes := number 4 v.toNat

def u64 (v : UInt64) : Bytes := number 8 v.toNat

def u128 (v : U128) : Bytes := number 16 v.toNat

def u256 (v : U256) : Bytes := number 32 v.toNat

def bool (v : Bool) : Bytes := [if v then 1 else 0]

/-- Groups of seven bits, lowest first, in at most `left` bytes. -/
def uleb128Digits : (left : Nat) → Nat → Bytes
  | 0, _ => []
  | left + 1, n =>
    if n < 128 then [UInt8.ofNat n] else UInt8.ofNat (n % 128 + 128) :: uleb128Digits left (n / 128)

def uleb128 (v : UInt32) : Bytes := uleb128Digits 5 v.toNat

def length (n : Nat) : Fallible Bytes :=
  if n < 2 ^ 32 then .ok (uleb128 (UInt32.ofNat n)) else .error (.range (.length n))

def bytes (v : Bytes) : Fallible Bytes := do return (← length v.length) ++ v

def string (v : String) : Fallible Bytes := bytes (Text.Utf8.encode v)

def items {α : Type} (item : α → Fallible Bytes) (v : List α) : Fallible Bytes := do
  return (← v.mapM item).flatten

def vector {α : Type} (item : α → Fallible Bytes) (v : List α) : Fallible Bytes := do
  let count ← length v.length
  return count ++ (← items item v)

def option {α : Type} (item : α → Fallible Bytes) : Option α → Fallible Bytes
  | none => .ok [0]
  | some a => do return 1 :: (← item a)

def tag (width : TagWidth) (n : UInt32) : Fallible Bytes :=
  match width with
  | .one =>
    if n.toNat < 2 ^ 8 then .ok [n.toUInt8] else .error (.range (.discriminant n.toNat))
  | .four => .ok (u32 n)

end MoveWire.Writer
