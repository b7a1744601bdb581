import MoveWire.Text.Hidden

/-!
Text between quotes, for messages: what cannot be seen is written as an escape. A character stands
between single quotes and a text between double quotes; each escapes only its own quote.
-/

namespace MoveWire.Text.Quoted

def hexDigits (n : Nat) : List Char := Nat.toDigits 16 n

def escape (quote c : Char) : List Char :=
  if c = '\x00' then ['\\', '0']
  else if c = '\t' then ['\\', 't']
  else if c = '\r' then ['\\', 'r']
  else if c = '\n' then ['\\', 'n']
  else if c = quote || c = '\\' then ['\\', c]
  else if isHidden c then ['\\', 'u', '\x7b'] ++ hexDigits c.toNat ++ ['\x7d']
  else [c]

def char (c : Char) : String := String.ofList ('\'' :: escape '\'' c ++ ['\''])

def text (s : String) : String := String.ofList ('"' :: s.toList.flatMap (escape '"') ++ ['"'])

end MoveWire.Text.Quoted
