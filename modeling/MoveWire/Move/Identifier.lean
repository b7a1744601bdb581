import MoveWire.Number.Decimal

/-!
Names of modules, structs and functions: a letter or an underscore, then letters, digits and
underscores, all of them ASCII. An underscore alone is no name.
-/

namespace MoveWire.Move

def isLetter (c : Char) : Bool := ('a' ≤ c && c ≤ 'z') || ('A' ≤ c && c ≤ 'Z')

def isNameChar (c : Char) : Bool := isLetter c || Decimal.isDigit c || c == '_'

def isIdentifierChars : List Char → Bool
  | [] => false
  | c :: rest => (isLetter c || (c == '_' && !rest.isEmpty)) && rest.all isNameChar

def isIdentifier (name : String) : Bool := isIdentifierChars name.toList

end MoveWire.Move
