import MoveWire.Move.TypeTag.Parser

/-!
Brackets and commas as a machine counts them. The depth is a number of 32 bits, which comes around
when it leaves its range, and the parts of a text are cut out of it at the places of their bytes.
Below `2 ^ 31` brackets this is what `checkBalanced` and `splitArguments` do.
-/

namespace MoveWire.TypeTag

section Counting

variable {δ : Type} [OfNat δ 0] [OfNat δ 1] [Add δ] [Sub δ] [DecidableEq δ]

end Counting

/-- The depth is counted in 32 bits. -/
def checkBalanced32 (cs : List Char) : Fallible Unit := checkFrom cs (0 : Int32) cs

end MoveWire.TypeTag
