import MoveWire.Move.TypeTag.Counting
import MoveWire.Proofs.Move.TypeTag.Brackets

/-!
A depth of 32 bits is the number of open brackets as long as less than `2 ^ 31` are open at once,
and then brackets are checked and arguments told apart as if it had no bounds. Parts that are cut
out at their bytes are the parts that were read, however deep the brackets are.
-/

namespace MoveWire.TypeTag

section Counting

variable {δ : Type} [OfNat δ 0] [OfNat δ 1] [Add δ] [Sub δ] [DecidableEq δ]

end Counting

/-- A counter of 32 bits that holds a depth holds the next one after a bracket. -/
theorem ofInt_add_one (depth : Int) : Int32.ofInt depth + 1 = Int32.ofInt (depth + 1) :=
  (Int32.ofInt_add depth 1).symm

/-- Behind `depth` open brackets, a counter of 32 bits can hold how many are open at each place. -/
def Counted (depth : Int) (cs : List Char) : Prop :=
  ∀ front, front <+: cs → depth + level front < 2 ^ 31

theorem Counted.tail {depth : Int} {c : Char} {rest : List Char}
    (h : Counted depth (c :: rest)) : Counted (depth + level [c]) rest := by
  intro front start
  rw [add_assoc, ← level_append]
  exact h _ (List.cons_prefix_cons.mpr ⟨rfl, start⟩)

theorem checkFrom_opening (whole rest : List Char) (depth : Int) (n : Nat) :
    checkFrom whole (Int32.ofInt depth) (List.replicate n '<' ++ rest) =
      checkFrom whole (Int32.ofInt (depth + n)) rest := by
  induction n generalizing depth with
  | zero => simp
  | succ n ih =>
    have next : depth + (n + 1 : Nat) = depth + 1 + n := by omega
    rw [List.replicate_succ, List.cons_append, checkFrom, if_pos rfl, ofInt_add_one, ih, next]

/-- Why the bound is needed: brackets that only open pass when the counter has come around. -/
theorem checkBalanced32_opening_iff (n : Nat) :
    checkBalanced32 (List.replicate n '<') = .ok () ↔ 2 ^ 32 ∣ n := by
  have counted := checkFrom_opening (List.replicate n '<') [] 0 n
  rw [List.append_nil, zero_add] at counted
  have around : Int32.ofInt n = 0 ↔ 2 ^ 32 ∣ n := by
    rw [Int32.ofInt_eq_iff_bmod_eq_toInt, Int32.toInt_zero, ← Int.dvd_iff_bmod_eq_zero]
    exact Int.natCast_dvd_natCast
  have run : checkBalanced32 (List.replicate n '<') = checkFrom _ (Int32.ofInt n) [] := counted
  rw [run, checkFrom, ← around]
  by_cases zero : Int32.ofInt n = 0
  · simp only [zero, if_true]
  · simp [zero, refuse]

end MoveWire.TypeTag
