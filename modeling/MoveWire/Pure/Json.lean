import MoveWire.Json.Printer
import MoveWire.Number.Wide
import MoveWire.Pure.Value

/-!
Pure values as JSON. Integers above 32 bits are written as decimal text, and an option that holds
another option as an array of one item, so that the two levels stay apart. Reading takes an
integer as a number or as text, and bytes also as hexadecimal text.
-/

namespace MoveWire

namespace PureValue

mutual

def toJson : PureValue → Json
  | .bool v => .bool v
  | .u8 v => .integer v.toNat
  | .u16 v => .integer v.toNat
  | .u32 v => .integer v.toNat
  | .u64 v => .string (toString v.toNat)
  | .u128 v => .string (toString v.toNat)
  | .u256 v => .string (toString v.toNat)
  | .address v => v.toJson
  | .string v => .string v
  | .vector items => .array (itemsToJson items)
  | .absent => .null
  | .present .absent => .array [toJson .absent]
  | .present (.present v) => .array [toJson (.present v)]
  | .present v => toJson v

def itemsToJson : List PureValue → List Json
  | [] => []
  | v :: rest => toJson v :: itemsToJson rest

end

def mismatch (type : PureType) (json : Json) : WireError :=
  .invalid (.jsonMismatch json.compact type.text)

/-- The integer that a number or a text stands for. -/
def integerOfJson (type : PureType) : Json → Fallible Int
  | .integer n => .ok n
  | .string s => Wide.parse s
  | json => .error (mismatch type json)

/-- An integer as a number below `2 ^ bits`. -/
def narrow (type : PureType) (bits : Nat) (value : Int) : Fallible Nat :=
  if 0 ≤ value ∧ value < 2 ^ bits then .ok value.toNat
  else .error (.range (.jsonInteger value type.text))

def ofJson : PureType → Json → Fallible PureValue
  | .bool, json =>
    match json with
    | .bool v => .ok (.bool v)
    | _ => .error (mismatch .bool json)
  | .u8, json => do return .u8 (UInt8.ofNat (← narrow .u8 8 (← integerOfJson .u8 json)))
  | .u16, json => do return .u16 (UInt16.ofNat (← narrow .u16 16 (← integerOfJson .u16 json)))
  | .u32, json => do return .u32 (UInt32.ofNat (← narrow .u32 32 (← integerOfJson .u32 json)))
  | .u64, json => do return .u64 (UInt64.ofNat (← narrow .u64 64 (← integerOfJson .u64 json)))
  | .u128, json => do return .u128 (← Wide.toU128 (← integerOfJson .u128 json))
  | .u256, json => do return .u256 (← Wide.toU256 (← integerOfJson .u256 json))
  | .address, json =>
    match json with
    | .string s => .address <$> Address.parse s
    | _ => .error (mismatch .address json)
  | .string, json =>
    match json with
    | .string s => .ok (.string s)
    | _ => .error (mismatch .string json)
  | .vector item, json =>
    match json with
    | .string s =>
      if item = .u8 then do
        return .vector ((← Bytes.ofHex s "vector<u8>").map .u8)
      else .error (mismatch (.vector item) json)
    | .array items => .vector <$> items.mapM (ofJson item)
    | _ => .error (mismatch (.vector item) json)
  | .option item, json =>
    match json, item with
    | .null, _ => .ok .absent
    | .array [inner], .option _ => .present <$> ofJson item inner
    | _, .option _ => .error (mismatch (.option item) json)
    | _, _ => .present <$> ofJson item json

end PureValue

namespace PureType

/-- Encodes a value given as JSON as of the type that a text names. -/
def encodeJson (type : String) (json : Json) : Fallible Bytes := do
  let type ← parse type
  type.encode (← PureValue.ofJson type json)

def decodeNamed (type : String) (bytes : Bytes) : Fallible PureValue := do
  (← parse type).decode bytes

def encodeNamed (type : String) (v : PureValue) : Fallible Bytes := do
  (← parse type).encode v

def decodeJson (type : String) (bytes : Bytes) : Fallible Json :=
  PureValue.toJson <$> decodeNamed type bytes

end PureType

end MoveWire
