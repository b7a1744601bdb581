import MoveWire.Pure.Json
import MoveWire.View.Reading

/-!
Reading pure values of which every part carries its kind: an object of the kind `t` and the content
`v`. Unlike the plain view this one needs no type, and it can spell values that have none.
-/

namespace MoveWire.PureValue

/-- A part without parts of its own. -/
def leafOfJson (rules : ViewRules) (kind : String) (v : Json) : Except Refusal PureValue :=
  match kind with
  | "bool" => .bool <$> View.bool v
  | "u8" => .u8 <$> View.u8 rules v
  | "u16" => .u16 <$> View.u16 rules v
  | "u32" => .u32 <$> View.u32 rules v
  | "u64" => .u64 <$> View.u64 rules v
  | "u128" => .u128 <$> View.u128 rules v
  | "u256" => .u256 <$> View.u256 rules v
  | "address" => .address <$> View.address rules v
  | "string" => .string <$> View.text v
  | _ => View.shape

mutual

def ofKindedJson (rules : ViewRules) : Json → Except Refusal PureValue
  | .object [("t", .string "vector"), ("v", .array items)] =>
    .vector <$> ofKindedItems rules items
  | .object [("t", .string "option"), ("v", .null)] => .ok .absent
  | .object [("t", .string "option"), ("v", v)] => .present <$> ofKindedJson rules v
  | .object [("t", .string kind), ("v", v)] => leafOfJson rules kind v
  | _ => View.shape

def ofKindedItems (rules : ViewRules) : List Json → Except Refusal (List PureValue)
  | [] => .ok []
  | json :: rest => do
    let first ← ofKindedJson rules json
    return first :: (← ofKindedItems rules rest)

end

end MoveWire.PureValue
