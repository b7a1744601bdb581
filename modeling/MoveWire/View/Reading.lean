import MoveWire.Number.Wide
import MoveWire.Json.Value
import MoveWire.Signing.Error

/-!
Reading values from their JSON views. A view is refused for its shape or for what a text in it
says. Rules tell how addresses and whole numbers are spelled: exactly as views are written, or
freely, with short addresses and with numbers as text.
-/

namespace MoveWire

inductive Refusal where
  | shape
  | content (error : SigningError)
  deriving DecidableEq

abbrev ViewReader (α : Type) := Json → Except Refusal α

structure ViewRules where
  address : String → Fallible Address
  natural : Json → Option Nat

namespace ViewRules

def naturalOfNumber : Json → Option Nat
  | .integer n => if 0 ≤ n then some n.toNat else none
  | _ => none

def naturalOfText : Json → Option Nat
  | .string s =>
    match Wide.parse s with
    | .ok n => if 0 ≤ n then some n.toNat else none
    | .error _ => none
  | json => naturalOfNumber json

/-- Views as they are written. -/
def exact : ViewRules := ⟨Address.parse, naturalOfNumber⟩

def free : ViewRules := ⟨Address.parseLiteral, naturalOfText⟩

end ViewRules

namespace View

variable {α : Type}

def shape : Except Refusal α := .error .shape

def ofFallible : Fallible α → Except Refusal α
  | .ok a => .ok a
  | .error e => .error (.content (.wire e))

def ofSigned : Signed α → Except Refusal α
  | .ok a => .ok a
  | .error e => .error (.content e)

def text : ViewReader String
  | .string s => .ok s
  | _ => shape

def bool : ViewReader Bool
  | .bool b => .ok b
  | _ => shape

/-- A whole number below `2 ^ bits`. -/
def number (rules : ViewRules) (bits : Nat) : ViewReader Nat := fun json =>
  match rules.natural json with
  | some n => if n < 2 ^ bits then .ok n else shape
  | none => shape

def u8 (rules : ViewRules) : ViewReader UInt8 := fun json => UInt8.ofNat <$> number rules 8 json

def u16 (rules : ViewRules) : ViewReader UInt16 := fun json =>
  UInt16.ofNat <$> number rules 16 json

def u32 (rules : ViewRules) : ViewReader UInt32 := fun json =>
  UInt32.ofNat <$> number rules 32 json

def u64 (rules : ViewRules) : ViewReader UInt64 := fun json =>
  UInt64.ofNat <$> number rules 64 json

def u128 (rules : ViewRules) : ViewReader U128 := fun json =>
  BitVec.ofNat 128 <$> number rules 128 json

def u256 (rules : ViewRules) : ViewReader U256 := fun json =>
  BitVec.ofNat 256 <$> number rules 256 json

/-- A text that spells a value. -/
def parsed (parse : String → Fallible α) : ViewReader α := fun json => do
  ofFallible (parse (← text json))

def address (rules : ViewRules) : ViewReader Address := parsed rules.address

def list (item : ViewReader α) : ViewReader (List α)
  | .array items => items.mapM item
  | _ => shape

def nullable (item : ViewReader α) : ViewReader (Option α)
  | .null => .ok none
  | json => some <$> item json

/-- The items of a view that has to have `n` of them. -/
def tuple (n : Nat) : ViewReader (List Json)
  | .array items => if items.length = n then .ok items else shape
  | _ => shape

def pair {β : Type} (first : ViewReader α) (second : ViewReader β) : ViewReader (α × β)
  | .array [a, b] => do return (← first a, ← second b)
  | _ => shape

/-- A field of an object, if it is there. -/
def field? (name : String) (reader : ViewReader α) (json : Json) : Except Refusal (Option α) :=
  match json.field? name with
  | none => .ok none
  | some value => some <$> reader value

def required : Option α → Except Refusal α
  | some a => .ok a
  | none => shape

def field (name : String) (reader : ViewReader α) (json : Json) : Except Refusal α := do
  required (← field? name reader json)

def item (index : Nat) (reader : ViewReader α) (items : List Json) : Except Refusal α :=
  match items[index]? with
  | some json => reader json
  | none => shape

/-- The name of a variant and the view of what it holds. -/
def variant : ViewReader (String × Json)
  | .string name => .ok (name, .null)
  | .object [(name, content)] => .ok (name, content)
  | _ => shape

/-- A variant that holds nothing. -/
def constant (a : α) : ViewReader α
  | .null => .ok a
  | _ => shape

end View

end MoveWire
