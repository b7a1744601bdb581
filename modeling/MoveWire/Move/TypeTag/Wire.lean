import MoveWire.Move.TypeTag

/-!
The byte form of Move types: a tag, then the item of a vector or the parts of a struct. Writing
takes types of any depth and any names; reading takes at most 128 levels, and identifiers only.
-/

namespace MoveWire

namespace TypeTag

/-- The number of a type's form; it does not follow the order of types. -/
def wireTag : TypeTag → UInt8
  | .bool => 0
  | .u8 => 1
  | .u64 => 2
  | .u128 => 3
  | .address => 4
  | .signer => 5
  | .vector _ => 6
  | .struct .. => 7
  | .u16 => 8
  | .u32 => 9
  | .u256 => 10

/-- The form of a struct without its type arguments. -/
def writePath (owner : Address) (moduleName name : String) : Fallible Bytes := do
  let owner ← Address.codec.write owner
  let moduleName ← Writer.string moduleName
  return owner ++ (moduleName ++ (← Writer.string name))

mutual

def write : TypeTag → Fallible Bytes
  | .vector item => do return wireTag (.vector item) :: (← write item)
  | .struct owner moduleName name arguments => do
    let path ← writePath owner moduleName name
    let count ← Writer.length arguments.length
    return wireTag (.struct owner moduleName name arguments) ::
      path ++ (count ++ (← writeList arguments))
  | tag => .ok [wireTag tag]

def writeList : List TypeTag → Fallible Bytes
  | [] => .ok []
  | tag :: rest => do
    let first ← write tag
    return first ++ (← writeList rest)

end

def readIdentifier : Reader String := do
  let start ← Reader.offset
  let name ← Reader.string
  if Move.isIdentifier name then pure name
  else throw (.invalid (.identifier name start))

/-- Reads a struct, its type arguments by `argument`. -/
def readStruct (argument : Reader TypeTag) : Reader StructTag := do
  let owner ← Address.codec.read
  let moduleName ← readIdentifier
  let name ← readIdentifier
  let arguments ← Reader.vector argument
  pure ⟨owner, moduleName, name, arguments⟩

/-- Reads a type inside of which `left` more levels may nest. -/
def readWithin (left : Nat) : Reader TypeTag := do
  let start ← Reader.offset
  let tag ← Reader.u8
  match tag.toNat with
  | 0 => pure .bool
  | 1 => pure .u8
  | 2 => pure .u64
  | 3 => pure .u128
  | 4 => pure .address
  | 5 => pure .signer
  | 6 =>
    match left with
    | 0 => throw (.invalid (.typeTagDepth start))
    | left + 1 => .vector <$> readWithin left
  | 7 =>
    match left with
    | 0 => throw (.invalid (.typeTagDepth start))
    | left + 1 => StructTag.toTypeTag <$> readStruct (readWithin left)
  | 8 => pure .u16
  | 9 => pure .u32
  | 10 => pure .u256
  | other => throw (.unknownVariant "TypeTag" other)

def codec : Codec TypeTag := ⟨write, readWithin maxTypeDepth⟩

end TypeTag

namespace StructTag

def write (s : StructTag) : Fallible Bytes := do
  let path ← TypeTag.writePath s.owner s.moduleName s.name
  let count ← Writer.length s.arguments.length
  return path ++ (count ++ (← TypeTag.writeList s.arguments))

def codec : Codec StructTag := ⟨write, TypeTag.readStruct (TypeTag.readWithin maxTypeDepth)⟩

end StructTag

end MoveWire
