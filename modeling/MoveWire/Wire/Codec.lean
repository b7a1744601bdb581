import MoveWire.Wire.Writer

/-!
Codecs: a byte form of a type together with its reader. Sequences, options, pairs and tagged
unions are put together from the codecs of their parts, so that a law of a codec follows from the
same law of its parts.
-/

namespace MoveWire

structure Codec (α : Type) where
  write : α → Fallible Bytes
  read : Reader α

namespace Codec

variable {α β : Type}

def encode (c : Codec α) (a : α) : Fallible Bytes := c.write a

/-- Decoding takes the whole byte string. -/
def decode (c : Codec α) (bytes : Bytes) : Fallible α := c.read.readAll bytes

def unit : Codec Unit := ⟨fun _ => .ok [], pure ()⟩

def bool : Codec Bool := ⟨fun v => .ok (Writer.bool v), Reader.bool⟩

def u8 : Codec UInt8 := ⟨fun v => .ok [v], Reader.u8⟩

def u16 : Codec UInt16 := ⟨fun v => .ok (Writer.u16 v), Reader.u16⟩

def u32 : Codec UInt32 := ⟨fun v => .ok (Writer.u32 v), Reader.u32⟩

def u64 : Codec UInt64 := ⟨fun v => .ok (Writer.u64 v), Reader.u64⟩

def u128 : Codec U128 := ⟨fun v => .ok (Writer.u128 v), Reader.u128⟩

def u256 : Codec U256 := ⟨fun v => .ok (Writer.u256 v), Reader.u256⟩

def fixed (n : Nat) : Codec (FixedBytes n) := ⟨fun v => .ok v.bytes, Reader.fixed n⟩

def bytes : Codec Bytes := ⟨Writer.bytes, Reader.bytes⟩

def string : Codec String := ⟨Writer.string, Reader.string⟩

def vector (c : Codec α) : Codec (List α) := ⟨Writer.vector c.write, Reader.vector c.read⟩

def option (c : Codec α) : Codec (Option α) := ⟨Writer.option c.write, Reader.option c.read⟩

def pair (a : Codec α) (b : Codec β) : Codec (α × β) where
  write v := do
    let first ← a.write v.1
    return first ++ (← b.write v.2)
  read := do
    let first ← a.read
    let second ← b.read
    pure (first, second)

/-- The codec of a type that carries the same information. -/
def map (c : Codec α) (make : α → β) (take : β → α) : Codec β where
  write b := c.write (take b)
  read := make <$> c.read

end Codec

/-- One case of a union: the codec of what it holds, and how to make and recognise it. -/
structure Variant (α : Type) where
  Payload : Type
  codec : Codec Payload
  make : Payload → α
  take : α → Option Payload

/-- A case that holds nothing. -/
def Variant.constant {α : Type} [DecidableEq α] (a : α) : Variant α where
  Payload := Unit
  codec := .unit
  make _ := a
  take b := if b = a then some () else none

namespace Codec

variable {α : Type}

/-- Writes the first of these variants that the value is one of, numbered from `n`. -/
def writeVariant (width : TagWidth) (n : Nat) (a : α) : List (Variant α) → Fallible Bytes
  | [] => .ok []
  | v :: rest =>
    match v.take a with
    | some payload => do
      let tag ← Writer.tag width (UInt32.ofNat n)
      return tag ++ (← v.codec.write payload)
    | none => writeVariant width (n + 1) a rest

/-- A tagged union: the number of the variant in the list, then what the variant holds. -/
def union (width : TagWidth) (name : String) (variants : List (Variant α)) : Codec α where
  write a := writeVariant width 0 a variants
  read := do
    let n ← Reader.tag width
    match variants[n]? with
    | some v => v.make <$> v.codec.read
    | none => throw (.unknownVariant name n)

end Codec

end MoveWire
