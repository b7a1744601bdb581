import MoveWire.Proofs.Move.TypeTag.Counting
import MoveWire.Proofs.Move.TypeTag.Grammar

/-!
Texts with commas, told apart at the commas outside of their brackets. Main statement: segments with
commas between them come apart into these segments, and every text that the reader of brackets
passes comes apart into segments that make it up again, as long as a counter of 32 bits can hold the
number of brackets.
-/

namespace MoveWire.TypeTag

open Text

/-- Brackets side by side, each around such brackets of its own. -/
inductive BracketWord : List Char → Prop where
  | nil : BracketWord []
  | enclosed {inner rest : List Char} : BracketWord inner → BracketWord rest →
      BracketWord ('<' :: inner ++ '>' :: rest)

/-- A word for each bracket that is open, up to the one that closes it, and a last word. -/
def ClosingWords : (depth : Nat) → List Char → Prop
  | 0, cs => BracketWord cs
  | depth + 1, cs => ∃ word rest, BracketWord word ∧ ClosingWords depth rest ∧
      cs = word ++ '>' :: rest

theorem ClosingWords.enclosed {depth : Nat} {word rest : List Char} (h : BracketWord word)
    (behind : ClosingWords depth rest) : ClosingWords depth ('<' :: word ++ '>' :: rest) := by
  cases depth with
  | zero => exact BracketWord.enclosed h behind
  | succ depth =>
    obtain ⟨others, further, word', rest', rfl⟩ := behind
    exact ⟨_, further, .enclosed h word', rest', by simp⟩

theorem BracketWord.balanced {cs : List Char} (h : BracketWord cs) : Balanced cs := by
  induction h with
  | nil => exact .of_forall nofun
  | enclosed _ _ inner rest =>
    have whole := inner.enclosed.balanced.append rest
    simpa using whole

/-- The part of a segment that has been read so far. -/
structure Begun (cs : List Char) : Prop where
  opened : ∀ front, front <+: cs → 0 ≤ level front
  inner : ∀ front, front ++ [','] <+: cs → level front ≠ 0

theorem Begun.nil : Begun [] where
  opened front start := by
    rw [List.prefix_nil.mp start]
    rfl
  inner front start := by simp at start

theorem Begun.segment {cs : List Char} (h : Begun cs) (closed : level cs = 0) : Segment cs :=
  ⟨⟨h.opened, closed⟩, h.inner⟩

theorem Begun.concat {cs : List Char} {c : Char} (h : Begun cs) (room : 0 ≤ level (cs ++ [c]))
    (inside : c = ',' → level cs ≠ 0) : Begun (cs ++ [c]) where
  opened front start := by
    rcases List.prefix_concat_iff.mp start with rfl | start
    · exact room
    · exact h.opened front start
  inner front start := by
    rcases List.prefix_concat_iff.mp start with same | start
    · obtain ⟨rfl, last⟩ := List.append_inj' same rfl
      exact inside (List.cons.inj last).1.symm
    · exact h.inner front start

/-- What has been read so far of a part is as deep as the splitter counts, and what follows closes
it, so a part ends where nothing is open. -/
theorem segment_of_mem_segments {depth : Int} {current cs : List Char}
    (begun : Begun current.reverse) (taken : level current.reverse = depth)
    (rest : Closing depth cs) : ∀ part ∈ segments depth current cs, Segment part := by
  induction cs generalizing depth current with
  | nil =>
    intro part member
    rw [segments, List.mem_singleton] at member
    rw [member]
    exact begun.segment (taken.trans (closing_nil_iff.mp rest))
  | cons c cs ih =>
    obtain ⟨room, behind⟩ := closing_cons_iff.mp rest
    have deeper : level (c :: current).reverse = depth + level [c] := by
      rw [List.reverse_cons, level_append, taken]
    have further (inside : c = ',' → level current.reverse ≠ 0) : Begun (c :: current).reverse := by
      rw [List.reverse_cons]
      refine begun.concat ?_ inside
      rw [← List.reverse_cons, deeper]
      exact behind.depth_nonneg
    rw [segments]
    split
    · next opens =>
      subst opens
      exact ih (further (by simp)) (by simpa using deeper) (by simpa using behind)
    · next no_open =>
      split
      · next closes =>
        subst closes
        exact ih (further (by simp)) (by simpa [sub_eq_add_neg] using deeper)
          (by simpa [sub_eq_add_neg] using behind)
      · next no_close =>
        rw [level_other no_open no_close, level_nil, add_zero] at behind deeper
        split
        · next comma =>
          obtain ⟨rfl, rfl⟩ := comma
          refine List.forall_mem_cons.mpr ⟨begun.segment taken, ?_⟩
          exact ih .nil rfl behind
        · next inside =>
          refine ih (further fun comma zero => inside ⟨comma, ?_⟩) deeper behind
          rw [← taken, zero]

theorem Balanced.segments {cs : List Char} (h : Balanced cs) :
    ∀ part ∈ segments (0 : Int) [] cs, Segment part :=
  segment_of_mem_segments .nil rfl (closing_zero_iff.mpr h)

theorem level_of_blanks {cs : List Char} (h : Blanks cs) : level cs = 0 :=
  (segment_of_blanks h).balanced.closed

/-- Blanks around a segment are no part of what makes it one. -/
theorem Segment.core {cs core : List Char} (h : Segment cs) (spaced : Spaced cs core) :
    Segment core := by
  obtain ⟨before, after, front, back, rfl⟩ := spaced
  have shifted (cs : List Char) : level (before ++ cs) = level cs := by
    rw [level_append, level_of_blanks front, zero_add]
  have inside {front : List Char} (start : front <+: core) :
      before ++ front <+: before ++ core ++ after :=
    ((List.prefix_append_right_inj before).mpr start).trans (List.prefix_append _ after)
  refine ⟨⟨fun front start => ?_, ?_⟩, fun front start => ?_⟩
  · rw [← shifted]
    exact h.balanced.opened _ (inside start)
  · have whole := h.balanced.closed
    rwa [level_append, shifted, level_of_blanks back, add_zero] at whole
  · rw [← shifted]
    refine h.inner _ ?_
    rw [List.append_assoc]
    exact inside start

end MoveWire.TypeTag
