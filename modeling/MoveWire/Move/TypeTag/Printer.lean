import MoveWire.Move.TypeTag

/-!
Text of Move types. Addresses come out short, or all of them full; type arguments stand between
angle brackets with a comma and a blank between them.
-/

namespace MoveWire

def Address.chars (full : Bool) (a : Address) : List Char :=
  (if full then a.text else a.shortText).toList

namespace TypeTag

def structChars (full : Bool) (owner : Address) (moduleName name : String) : List Char :=
  owner.chars full ++ "::".toList ++ moduleName.toList ++ "::".toList ++ name.toList

mutual

def chars (full : Bool) : TypeTag → List Char
  | .bool => "bool".toList
  | .u8 => "u8".toList
  | .u16 => "u16".toList
  | .u32 => "u32".toList
  | .u64 => "u64".toList
  | .u128 => "u128".toList
  | .u256 => "u256".toList
  | .address => "address".toList
  | .signer => "signer".toList
  | .vector item => "vector<".toList ++ chars full item ++ ['>']
  | .struct owner moduleName name arguments =>
    structChars full owner moduleName name ++ argumentChars full arguments

/-- Type arguments between brackets, nothing if there are none. -/
def argumentChars (full : Bool) : List TypeTag → List Char
  | [] => []
  | first :: rest => '<' :: chars full first ++ tailChars full rest ++ ['>']

/-- Type arguments after the first one. -/
def tailChars (full : Bool) : List TypeTag → List Char
  | [] => []
  | tag :: rest => ',' :: ' ' :: chars full tag ++ tailChars full rest

end

def canonicalText (full : Bool) (tag : TypeTag) : String := String.ofList (tag.chars full)

def text (tag : TypeTag) : String := tag.canonicalText false

def toJson (tag : TypeTag) : Json := .string tag.text

end TypeTag

def StructTag.canonicalText (full : Bool) (s : StructTag) : String :=
  s.toTypeTag.canonicalText full

def StructTag.text (s : StructTag) : String := s.canonicalText false

end MoveWire
