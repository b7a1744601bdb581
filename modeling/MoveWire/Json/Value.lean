import MoveWire.Number.Binary64

/-!
JSON values. Numbers are integers where they fit a signed or an unsigned word of 64 bits and
floating-point numbers otherwise; the fields of an object are in the order of their names.
-/

namespace MoveWire

inductive Json where
  | null
  | bool (value : Bool)
  | integer (value : Int)
  | real (value : Binary64)
  | string (value : String)
  | array (items : List Json)
  | object (fields : List (String × Json))
  deriving Repr, Inhabited

namespace Json

/-- Puts a field at its place in the order of names, in place of one of the same name. -/
def insertField (name : String) (value : Json) : List (String × Json) → List (String × Json)
  | [] => [(name, value)]
  | (n, v) :: rest =>
    if name = n then (name, value) :: rest
    else if name < n then (name, value) :: (n, v) :: rest
    else (n, v) :: insertField name value rest

/-- An object of these fields; of two with one name the later one counts. -/
def record (fields : List (String × Json)) : Json :=
  .object (fields.foldl (fun sorted (name, value) => insertField name value sorted) [])

def field? (name : String) : Json → Option Json
  | .object fields => (fields.find? (·.1 == name)).map (·.2)
  | _ => none

def ofNat (n : Nat) : Json := .integer n

def option {α : Type} (view : α → Json) : Option α → Json
  | none => .null
  | some a => view a

end Json

end MoveWire
