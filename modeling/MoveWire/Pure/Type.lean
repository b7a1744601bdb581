import MoveWire.Text.Blank
import MoveWire.Wire.Error

/-!
Types of pure values, and their text. The text of a type nests at most 128 deep; blanks may stand
around every type and between `vector` or `option` and its bracket.
-/

namespace MoveWire

inductive PureType where
  | bool
  | u8
  | u16
  | u32
  | u64
  | u128
  | u256
  | address
  | string
  | vector (item : PureType)
  | option (item : PureType)
  deriving DecidableEq, Repr

namespace PureType

def text : PureType → String
  | .bool => "bool"
  | .u8 => "u8"
  | .u16 => "u16"
  | .u32 => "u32"
  | .u64 => "u64"
  | .u128 => "u128"
  | .u256 => "u256"
  | .address => "address"
  | .string => "string"
  | .vector item => "vector<" ++ item.text ++ ">"
  | .option item => "option<" ++ item.text ++ ">"

/-- How deep `vector` and `option` nest. -/
def depth : PureType → Nat
  | .vector item => item.depth + 1
  | .option item => item.depth + 1
  | _ => 0

def ofKeyword? (cs : List Char) : Option PureType :=
  match String.ofList cs with
  | "bool" => some .bool
  | "u8" => some .u8
  | "u16" => some .u16
  | "u32" => some .u32
  | "u64" => some .u64
  | "u128" => some .u128
  | "u256" => some .u256
  | "address" => some .address
  | "string" => some .string
  | _ => none

/-- What stands between the bracket after this head and the bracket at the end. -/
def argument? (head : String) (cs : List Char) : Option (List Char) := do
  let rest ← Text.stripStart? head.toList cs
  let rest ← Text.stripStart? ['<'] (Text.trimStart rest)
  Text.stripEnd? '>' rest

/-- Reads a type inside of which `left` more heads may nest. -/
def parseWithin (left : Nat) (cs : List Char) : Fallible PureType :=
  let cs := Text.trim cs
  match ofKeyword? cs with
  | some type => .ok type
  | none =>
    match (argument? "vector" cs).map (vector, ·) <|> (argument? "option" cs).map (option, ·) with
    | none => .error (.unknownType (String.ofList cs))
    | some (make, inner) =>
      match left with
      | 0 => .error (.parse .depth)
      | left + 1 => make <$> parseWithin left inner

def parse (text : String) : Fallible PureType := parseWithin maxTypeDepth text.toList

end PureType

end MoveWire
