import MoveWire.Number.Power

/-!
Decimal digits of whole numbers, and numbers of limited width with a sign in front. Only digits
stand in such a number, at least one of them.
-/

namespace MoveWire.Decimal

def isDigit (c : Char) : Bool := '0' ≤ c && c ≤ '9'

def ofDigits (digits : List Char) : Nat := digits.foldl (fun n c => n * 10 + (c.toNat - 48)) 0

def ofDigits? (cs : List Char) : Option Nat :=
  if !cs.isEmpty && cs.all isDigit then some (ofDigits cs) else none

/-- A number below `2 ^ bits`; a plus sign may stand in front of it. -/
def unsigned? (bits : Nat) (cs : List Char) : Option Nat := do
  let n ← match cs with
    | '+' :: rest => ofDigits? rest
    | _ => ofDigits? cs
  if n < 2 ^ bits then some n else none

/-- A number with `bits` bits of which one is for the sign. -/
def signed? (bits : Nat) (cs : List Char) : Option Int := do
  let n : Int ← match cs with
    | '+' :: rest => (ofDigits? rest).map fun n => (n : Int)
    | '-' :: rest => (ofDigits? rest).map fun n => -(n : Int)
    | _ => (ofDigits? cs).map fun n => (n : Int)
  if -(2 ^ (bits - 1)) ≤ n ∧ n < 2 ^ (bits - 1) then some n else none

end MoveWire.Decimal
