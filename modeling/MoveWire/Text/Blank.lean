/-!
Blank characters and trimming. A character is blank when it has the Unicode property White_Space.
-/

namespace MoveWire.Text

def isBlank (c : Char) : Bool :=
  let n := c.toNat
  (0x09 ≤ n && n ≤ 0x0D) || n == 0x20 || n == 0x85 || n == 0xA0 || n == 0x1680 ||
    (0x2000 ≤ n && n ≤ 0x200A) || n == 0x2028 || n == 0x2029 || n == 0x202F || n == 0x205F ||
    n == 0x3000

theorem isBlank_of_isWhitespace {c : Char} (h : c.isWhitespace = true) : isBlank c = true := by
  simp only [Char.isWhitespace, Bool.or_eq_true, decide_eq_true_eq] at h
  rcases h with ((h | h) | h) | h <;> subst h <;> decide

def trimStart (cs : List Char) : List Char := cs.dropWhile isBlank

def trimEnd (cs : List Char) : List Char := (cs.reverse.dropWhile isBlank).reverse

def trim (cs : List Char) : List Char := trimEnd (trimStart cs)

def trimString (s : String) : String := String.ofList (trim s.toList)

/-- The rest of a text that starts with the given characters. -/
def stripStart? : (lead : List Char) → List Char → Option (List Char)
  | [], cs => some cs
  | _ :: _, [] => none
  | l :: lead, c :: cs => if l = c then stripStart? lead cs else none

/-- The text before the given last character. -/
def stripEnd? (last : Char) (cs : List Char) : Option (List Char) :=
  if cs.getLast? = some last then some cs.dropLast else none

theorem stripStart?_eq_some_iff {lead cs rest : List Char} :
    stripStart? lead cs = some rest ↔ cs = lead ++ rest := by
  fun_induction stripStart? lead cs with
  | case1 cs => simp [eq_comm]
  | case2 => simp
  | case3 lead c cs ih => simp [ih]
  | case4 l lead c cs h =>
    simp only [reduceCtorEq, List.cons_append, List.cons.injEq, false_iff, not_and]
    exact fun e => absurd e.symm h

theorem stripEnd?_eq_some_iff {last : Char} {cs rest : List Char} :
    stripEnd? last cs = some rest ↔ cs = rest ++ [last] := by
  unfold stripEnd?
  split
  · next h =>
    obtain ⟨start, rfl⟩ := List.getLast?_eq_some_iff.mp h
    simp
  · next h =>
    simp only [reduceCtorEq, false_iff]
    rintro rfl
    simp at h

end MoveWire.Text
