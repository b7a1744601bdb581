import MoveWire.Move.TypeTag
import MoveWire.Pure.Type

/-!
Which Move types have pure values. These are the primitive types but `signer`, strings, object
identifiers, and vectors and options of such types; all others are passed as objects.
-/

namespace MoveWire

namespace StructTag

def isString (s : StructTag) : Bool :=
  s.named .stdlib "string" "String" || s.named .stdlib "ascii" "String"

def isObjectId (s : StructTag) : Bool := s.named .framework "object" "ID"

def isOption (s : StructTag) : Bool := s.named .stdlib "option" "Option"

def isTxContext (s : StructTag) : Bool := s.named .framework "tx_context" "TxContext"

end StructTag

namespace TypeTag

/-- A context is handed to a function by the chain and not by its caller. -/
def isTxContext (tag : TypeTag) : Bool := tag.asStruct?.any StructTag.isTxContext

def pureType? : TypeTag → Option PureType
  | .bool => some .bool
  | .u8 => some .u8
  | .u16 => some .u16
  | .u32 => some .u32
  | .u64 => some .u64
  | .u128 => some .u128
  | .u256 => some .u256
  | .address => some .address
  | .signer => none
  | .vector item => item.pureType?.map .vector
  | .struct owner moduleName name arguments =>
    let s : StructTag := ⟨owner, moduleName, name, arguments⟩
    if s.isString then some .string
    else if s.isObjectId then some .address
    else if s.isOption then
      match arguments with
      | [item] => item.pureType?.map .option
      | _ => none
    else none

end TypeTag

end MoveWire
