import MoveWire.Transaction.Argument
import Std.Data.HashMap

/-!
The inputs of a transaction under construction. Each is held once, at the place where it was added
first, whatever types are declared for it; an index finds that place without a search.
-/

namespace MoveWire

instance : Hashable ObjectArg := ⟨fun arg => hash arg.id⟩

instance : Hashable CallArg where
  hash
    | .pure arg => hash arg.bytes
    | .object arg => hash arg

/-- The index holds each input without its declared type. -/
structure InputTable where
  entries : Array CallArg
  places : Std.HashMap CallArg Nat
  places_iff : ∀ arg i, places[arg]? = some i ↔ entries[i]?.map CallArg.undeclared = some arg

namespace InputTable

def empty : InputTable where
  entries := #[]
  places := ∅
  places_iff := by simp

def size (t : InputTable) : Nat := t.entries.size

def toList (t : InputTable) : List CallArg := t.entries.toList

/-- Where the input is, whatever type was declared for it. -/
def place? (t : InputTable) (arg : CallArg) : Option Nat := t.places[arg.undeclared]?

/-- Puts an input that the table does not hold at the end. -/
def push (t : InputTable) (arg : CallArg) (fresh : t.place? arg = none) : InputTable where
  entries := t.entries.push arg
  places := t.places.insert arg.undeclared t.entries.size
  places_iff other i := by
    have old := t.places_iff other i
    rw [Std.HashMap.getElem?_insert, Array.getElem?_push]
    by_cases key : arg.undeclared = other
    · subst key
      have absent : ∀ i : Nat, t.entries[i]?.map CallArg.undeclared ≠ some arg.undeclared := by
        intro i held
        rw [← t.places_iff] at held
        simp [place?, held] at fresh
      by_cases last : i = t.entries.size
      · simp [last]
      · simp [last, absent i, Ne.symm last]
    · by_cases last : i = t.entries.size
      · subst last
        simp [key, t.places_iff]
      · simp [key, last, old]

end InputTable

end MoveWire
