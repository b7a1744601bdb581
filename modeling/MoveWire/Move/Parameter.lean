import MoveWire.Move.TypeTag.Parser
import MoveWire.Move.TypeTag.Printer
import MoveWire.Number.Decimal

/-!
Types of function parameters, as a module declares them. A reference counts as what it refers to,
and `T0`, `T1`, … stand for the type arguments of a call, unless a colon is in front of them.
-/

namespace MoveWire.Move

def dropReference (text : List Char) : List Char :=
  let text := Text.trim text
  match Text.stripStart? "&mut ".toList text with
  | some rest => Text.trimStart rest
  | none =>
    match Text.stripStart? ['&'] text with
    | some rest => Text.trimStart rest
    | none => text

/-- The digits of a word that stands for a type argument. -/
def typeParameter? : List Char → Option (List Char)
  | 'T' :: c :: rest => if (c :: rest).all Decimal.isDigit then some (c :: rest) else none
  | _ => none

/-- What stands for a word behind `before`, which ends with the word's separator. -/
def replaceWord (arguments : List TypeTag) (separator : Option Char) (word : List Char) :
    Fallible (List Char) :=
  match typeParameter? word with
  | none => .ok word
  | some digits =>
    if separator = some ':' then .ok word
    else
      let index := Decimal.ofDigits digits
      if 2 ^ 64 ≤ index then .error (.parse (.typeParameter (String.ofList word)))
      else
        match arguments[index]? with
        | some argument => .ok (argument.chars false)
        | none =>
          .error (.invalid (.typeParameterRange (String.ofList word) arguments.length))

/-- Puts type arguments in the place of their names. `word` is read so far, last character first,
behind the given separator. -/
def substitute (arguments : List TypeTag) (separator : Option Char) (word : List Char) :
    List Char → Fallible (List Char)
  | [] => replaceWord arguments separator word.reverse
  | c :: rest =>
    if isNameChar c then substitute arguments separator (c :: word) rest
    else do
      let front ← replaceWord arguments separator word.reverse
      return front ++ c :: (← substitute arguments (some c) [] rest)

/-- The type of a parameter in a call with these type arguments. -/
def parseParameter (text : String) (arguments : List TypeTag) : Fallible TypeTag := do
  TypeTag.parseChars (← substitute arguments none [] (dropReference text.toList))

end MoveWire.Move
