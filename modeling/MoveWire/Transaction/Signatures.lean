import MoveWire.Address
import Std.Data.HashMap

/-!
Parameter types of functions: from any source, or from a table in which the entry made last for a
function counts.
-/

namespace MoveWire

structure FunctionName where
  package : ObjectId
  moduleName : String
  function : String
  deriving DecidableEq, Hashable

def FunctionName.text (f : FunctionName) : String :=
  f.package.shortText ++ "::" ++ f.moduleName ++ "::" ++ f.function

/-- Gives the parameter types of a function as text. -/
abbrev SignatureSource := FunctionName → Fallible (List String)

abbrev Signatures := Std.HashMap FunctionName (List String)

namespace Signatures

def ofList (entries : List (FunctionName × List String)) : Signatures :=
  entries.foldl (fun table (name, parameters) => table.insert name parameters) ∅

def source (table : Signatures) : SignatureSource := fun name =>
  match table[name]? with
  | some parameters => .ok parameters
  | none => .error (.unknownType name.text)

end Signatures

end MoveWire
