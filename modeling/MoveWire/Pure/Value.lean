import MoveWire.Address
import MoveWire.Pure.Type

/-!
Values of pure types. The byte form of a value does not depend on its type, but reading one does;
writing a value as of a type checks it first.
-/

namespace MoveWire

inductive PureValue where
  | bool (value : Bool)
  | u8 (value : UInt8)
  | u16 (value : UInt16)
  | u32 (value : UInt32)
  | u64 (value : UInt64)
  | u128 (value : U128)
  | u256 (value : U256)
  | address (value : Address)
  | string (value : String)
  | vector (items : List PureValue)
  | absent
  | present (value : PureValue)

namespace PureValue

/-- The name of a value's form. -/
def kind : PureValue → String
  | .bool _ => "bool"
  | .u8 _ => "u8"
  | .u16 _ => "u16"
  | .u32 _ => "u32"
  | .u64 _ => "u64"
  | .u128 _ => "u128"
  | .u256 _ => "u256"
  | .address _ => "address"
  | .string _ => "string"
  | .vector _ => "vector"
  | .absent => "option"
  | .present _ => "option"

mutual

def write : PureValue → Fallible Bytes
  | .bool v => Codec.bool.write v
  | .u8 v => Codec.u8.write v
  | .u16 v => Codec.u16.write v
  | .u32 v => Codec.u32.write v
  | .u64 v => Codec.u64.write v
  | .u128 v => Codec.u128.write v
  | .u256 v => Codec.u256.write v
  | .address v => Address.codec.write v
  | .string v => Codec.string.write v
  | .vector items => do
    let count ← Writer.length items.length
    return count ++ (← writeItems items)
  | .absent => .ok [0]
  | .present v => do return 1 :: (← write v)

def writeItems : List PureValue → Fallible Bytes
  | [] => .ok []
  | v :: rest => do
    let first ← write v
    return first ++ (← writeItems rest)

end

mutual

/-- Does the value have the type? Refuses the first part that does not. -/
def check (type : PureType) : PureValue → Fallible Unit
  | .vector items =>
    match type with
    | .vector item => checkItems item items
    | _ => .error (.invalid (.valueMismatch "vector" type.text))
  | .absent =>
    match type with
    | .option _ => .ok ()
    | _ => .error (.invalid (.valueMismatch "option" type.text))
  | .present v =>
    match type with
    | .option item => check item v
    | _ => .error (.invalid (.valueMismatch "option" type.text))
  | v =>
    match type, v with
    | .bool, .bool _ => .ok ()
    | .u8, .u8 _ => .ok ()
    | .u16, .u16 _ => .ok ()
    | .u32, .u32 _ => .ok ()
    | .u64, .u64 _ => .ok ()
    | .u128, .u128 _ => .ok ()
    | .u256, .u256 _ => .ok ()
    | .address, .address _ => .ok ()
    | .string, .string _ => .ok ()
    | _, _ => .error (.invalid (.valueMismatch v.kind type.text))

def checkItems (item : PureType) : List PureValue → Fallible Unit
  | [] => .ok ()
  | v :: rest => do
    check item v
    checkItems item rest

end

end PureValue

namespace PureType

def read : PureType → Reader PureValue
  | .bool => .bool <$> Codec.bool.read
  | .u8 => .u8 <$> Codec.u8.read
  | .u16 => .u16 <$> Codec.u16.read
  | .u32 => .u32 <$> Codec.u32.read
  | .u64 => .u64 <$> Codec.u64.read
  | .u128 => .u128 <$> Codec.u128.read
  | .u256 => .u256 <$> Codec.u256.read
  | .address => .address <$> Address.codec.read
  | .string => .string <$> Codec.string.read
  | .vector item => .vector <$> Reader.vector item.read
  | .option item => do
    match ← Reader.option item.read with
    | none => pure .absent
    | some v => pure (.present v)

/-- The codec of the values of a type. -/
def codec (type : PureType) : Codec PureValue where
  write v := do
    v.check type
    v.write
  read := type.read

def encode (type : PureType) (v : PureValue) : Fallible Bytes := type.codec.encode v

def decode (type : PureType) (bytes : Bytes) : Fallible PureValue := type.codec.decode bytes

end PureType

end MoveWire
