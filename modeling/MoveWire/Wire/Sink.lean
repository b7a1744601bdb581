import MoveWire.Wire.Writer

/-!
Writing into a buffer, behind the bytes that are there. A write of several parts that fails leaves
the bytes of the parts before in the buffer, so counts and tags are looked at first.
-/

namespace MoveWire

abbrev Sink := EStateM WireError Bytes

namespace Sink

def put (bytes : Bytes) : Sink Unit := fun written => .ok () (written ++ bytes)

def length (n : Nat) : Sink Unit :=
  if n < 2 ^ 32 then put (Writer.uleb128 (UInt32.ofNat n)) else throw (.range (.length n))

def bytes (v : Bytes) : Sink Unit := do
  length v.length
  put v

def string (v : String) : Sink Unit := bytes (Text.Utf8.encode v)

def vector {α : Type} (item : α → Sink Unit) (v : List α) : Sink Unit := do
  length v.length
  v.forM item

def option {α : Type} (item : α → Sink Unit) : Option α → Sink Unit
  | none => put [0]
  | some a => do
    put [1]
    item a

def tag (width : TagWidth) (n : UInt32) : Sink Unit :=
  match width with
  | .one =>
    if n.toNat < 2 ^ 8 then put [n.toUInt8] else throw (.range (.discriminant n.toNat))
  | .four => put (Writer.u32 n)

/-- The number of a variant, then what the variant holds. -/
def union (width : TagWidth) (n : UInt32) (payload : Sink Unit) : Sink Unit := do
  tag width n
  payload

end Sink

end MoveWire
