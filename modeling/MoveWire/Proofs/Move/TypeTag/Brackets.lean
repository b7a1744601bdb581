import Mathlib.Data.List.Infix
import Mathlib.Tactic.Ring
import MoveWire.Move.TypeTag.Parser

/-!
Brackets and commas in the text of types. A balanced text takes the reader of brackets from any
depth back to the same depth; a segment keeps its commas inside of brackets, so segments with
commas between them are split into just these segments.
-/

namespace MoveWire.TypeTag

/-- How many brackets a text opens without closing them. -/
def level (cs : List Char) : Int := cs.count '<' - cs.count '>'

/-- Brackets close only after they open, and all of them close. -/
structure Balanced (cs : List Char) : Prop where
  opened : ∀ front, front <+: cs → 0 ≤ level front
  closed : level cs = 0

/-- A balanced text with no comma outside of its brackets. -/
structure Segment (cs : List Char) : Prop where
  balanced : Balanced cs
  inner : ∀ front, front ++ [','] <+: cs → level front ≠ 0

@[simp] theorem level_nil : level [] = 0 := rfl

@[simp] theorem level_append (as bs : List Char) : level (as ++ bs) = level as + level bs := by
  simp only [level, List.count_append]
  omega

@[simp] theorem level_open (cs : List Char) : level ('<' :: cs) = 1 + level cs := by
  simp [level]
  omega

@[simp] theorem level_close (cs : List Char) : level ('>' :: cs) = -1 + level cs := by
  simp [level]
  omega

theorem level_other {c : Char} (no_open : c ≠ '<') (no_close : c ≠ '>') (cs : List Char) :
    level (c :: cs) = level cs := by
  simp [level, List.count_cons_of_ne no_open, List.count_cons_of_ne no_close]

/-- Text without brackets does not change the level. -/
theorem level_eq_zero {cs : List Char} (h : ∀ c ∈ cs, c ≠ '<' ∧ c ≠ '>') : level cs = 0 := by
  have no_open : '<' ∉ cs := fun member => (h _ member).1 rfl
  have no_close : '>' ∉ cs := fun member => (h _ member).2 rfl
  rw [level, List.count_eq_zero_of_not_mem no_open, List.count_eq_zero_of_not_mem no_close]
  rfl

theorem prefix_append_cases {front as bs : List Char} (h : front <+: as ++ bs) :
    front <+: as ∨ ∃ more, more <+: bs ∧ front = as ++ more := by
  rcases List.prefix_or_prefix_of_prefix h (List.prefix_append as bs) with inside | ⟨more, rfl⟩
  · exact .inl inside
  · exact .inr ⟨more, (List.prefix_append_right_inj as).mp h, rfl⟩

theorem Balanced.of_forall {cs : List Char} (h : ∀ c ∈ cs, c ≠ '<' ∧ c ≠ '>') : Balanced cs where
  opened front start := by
    rw [level_eq_zero fun c member => h c (start.subset member)]
  closed := level_eq_zero h

theorem Balanced.append {as bs : List Char} (ha : Balanced as) (hb : Balanced bs) :
    Balanced (as ++ bs) where
  opened front start := by
    rcases prefix_append_cases start with inside | ⟨more, further, rfl⟩
    · exact ha.opened front inside
    · rw [level_append, ha.closed, zero_add]
      exact hb.opened more further
  closed := by rw [level_append, ha.closed, hb.closed, add_zero]

theorem Balanced.intercalate {parts : List (List Char)} (h : ∀ part ∈ parts, Balanced part) :
    Balanced ([','].intercalate parts) := by
  have comma : Balanced [','] := .of_forall (by simp)
  induction parts with
  | nil => exact .of_forall nofun
  | cons part rest ih =>
    obtain ⟨first, others⟩ := List.forall_mem_cons.mp h
    cases rest with
    | nil => rwa [List.intercalate_singleton]
    | cons next rest =>
      rw [List.intercalate_cons_cons]
      exact (first.append comma).append (ih others)

theorem Segment.of_forall {cs : List Char} (h : ∀ c ∈ cs, c ≠ '<' ∧ c ≠ '>' ∧ c ≠ ',') :
    Segment cs where
  balanced := .of_forall fun c member => ⟨(h c member).1, (h c member).2.1⟩
  inner front start := by
    have comma : ',' ∈ cs := start.subset (by simp)
    exact absurd rfl (h ',' comma).2.2

theorem Segment.append {as bs : List Char} (ha : Segment as) (hb : Segment bs) :
    Segment (as ++ bs) where
  balanced := ha.balanced.append hb.balanced
  inner front start := by
    rcases prefix_append_cases start with inside | ⟨more, further, same⟩
    · exact ha.inner front inside
    · rcases List.eq_nil_or_concat more with rfl | ⟨less, c, rfl⟩
      · -- The comma is the last character of the first text.
        exact ha.inner front (by rw [same, List.append_nil])
      · rw [List.concat_eq_append, ← List.append_assoc] at same
        obtain ⟨rfl, last⟩ := List.append_inj' same rfl
        obtain rfl := (List.cons.inj last).1
        rw [level_append, ha.balanced.closed, zero_add]
        exact hb.inner less (by rwa [List.concat_eq_append] at further)

/-- Brackets around a balanced text enclose all of its commas. -/
theorem Balanced.enclosed {cs : List Char} (h : Balanced cs) : Segment ('<' :: cs ++ ['>']) where
  balanced.opened front start := by
    rcases List.prefix_concat_iff.mp start with rfl | start
    · simp [h.closed]
    · rcases List.prefix_cons_iff.mp start with rfl | ⟨more, rfl, further⟩
      · exact le_rfl
      · have := h.opened more further
        rw [level_open]
        omega
  balanced.closed := by simp [h.closed]
  inner front start := by
    rcases List.prefix_concat_iff.mp start with same | start
    · have last := (List.append_inj' same rfl).2
      cases last
    · rcases List.prefix_cons_iff.mp start with none | ⟨more, same, further⟩
      · simp at none
      · cases front with
        | nil => cases same
        | cons c front =>
          obtain ⟨rfl, rfl⟩ := List.cons.inj same
          have := h.opened front ((List.prefix_append front [',']).trans further)
          rw [level_open]
          omega

/-- Behind `depth` open brackets, brackets close only after they open, and all of them close. -/
structure Closing (depth : Int) (cs : List Char) : Prop where
  opened : ∀ front, front <+: cs → 0 ≤ depth + level front
  closed : depth + level cs = 0

theorem closing_zero_iff {cs : List Char} : Closing 0 cs ↔ Balanced cs := by
  constructor
  · intro h
    exact ⟨by simpa using h.opened, by simpa using h.closed⟩
  · intro h
    exact ⟨by simpa using h.opened, by simpa using h.closed⟩

theorem Closing.depth_nonneg {depth : Int} {cs : List Char} (h : Closing depth cs) : 0 ≤ depth := by
  simpa using h.opened [] List.nil_prefix

theorem closing_nil_iff {depth : Int} : Closing depth [] ↔ depth = 0 := by
  constructor
  · intro h
    simpa using h.closed
  · rintro rfl
    refine ⟨fun front start => ?_, rfl⟩
    rw [List.prefix_nil.mp start]
    rfl

/-- One character is a step from a depth to the next one. -/
theorem closing_cons_iff {depth : Int} {c : Char} {rest : List Char} :
    Closing depth (c :: rest) ↔ 0 ≤ depth ∧ Closing (depth + level [c]) rest := by
  have step (cs : List Char) : depth + level [c] + level cs = depth + level (c :: cs) := by
    rw [add_assoc, ← level_append]
    rfl
  constructor
  · intro h
    refine ⟨h.depth_nonneg, fun front start => ?_, ?_⟩
    · rw [step]
      exact h.opened _ (List.cons_prefix_cons.mpr ⟨rfl, start⟩)
    · rw [step]
      exact h.closed
  · rintro ⟨room, h⟩
    refine ⟨fun front start => ?_, ?_⟩
    · rcases List.prefix_cons_iff.mp start with rfl | ⟨more, rfl, further⟩
      · simpa using room
      · rw [← step]
        exact h.opened more further
    · rw [← step]
      exact h.closed

/-- The reader of brackets walks through exactly the texts that bring its depth back to zero. -/
theorem checkFrom_eq_ok_iff {whole cs : List Char} {depth : Int} (room : 0 ≤ depth) :
    checkFrom whole depth cs = .ok () ↔ Closing depth cs := by
  induction cs generalizing depth with
  | nil =>
    rw [checkFrom, closing_nil_iff]
    by_cases none : depth = 0
    · simp [none]
    · simp [none, refuse]
  | cons c rest ih =>
    rw [checkFrom, closing_cons_iff]
    by_cases opens : c = '<'
    · subst opens
      rw [if_pos rfl, ih (by omega)]
      simp [room]
    · by_cases closes : c = '>'
      · subst closes
        rw [if_neg opens, if_pos rfl]
        by_cases below : depth - 1 < 0
        · -- One bracket too many: the depth behind it is below zero.
          rw [if_pos below]
          refine iff_of_false (by simp [refuse]) ?_
          rintro ⟨-, behind⟩
          have := behind.depth_nonneg
          simp at this
          omega
        · rw [if_neg below, ih (by omega)]
          simp [room, sub_eq_add_neg]
      · rw [if_neg opens, if_neg closes, ih room, level_other opens closes]
        simp [room]

theorem checkBalanced_eq_ok_iff {cs : List Char} : checkBalanced cs = .ok () ↔ Balanced cs := by
  rw [checkBalanced, checkFrom_eq_ok_iff le_rfl]
  exact closing_zero_iff

/-- Text whose commas all stand inside of brackets is taken over as it is. -/
theorem segments_append {depth : Int} {cs : List Char}
    (h : ∀ front, front ++ [','] <+: cs → depth + level front ≠ 0) (current rest : List Char) :
    segments depth current (cs ++ rest) =
      segments (depth + level cs) (cs.reverse ++ current) rest := by
  induction cs generalizing depth current with
  | nil => simp
  | cons c cs ih =>
    have tail (front : List Char) (start : front ++ [','] <+: cs) :
        depth + level (c :: front) ≠ 0 :=
      h (c :: front) (List.cons_prefix_cons.mpr ⟨rfl, start⟩)
    rw [List.cons_append, segments, List.reverse_cons, List.append_assoc, List.singleton_append]
    by_cases opens : c = '<'
    · subst opens
      rw [if_pos rfl, ih, level_open, add_assoc]
      intro front start
      simpa [add_assoc] using tail front start
    · by_cases closes : c = '>'
      · subst closes
        rw [if_neg opens, if_pos rfl, ih, level_close]
        · congr 1
          ring
        · intro front start
          have := tail front start
          rw [level_close] at this
          omega
      · have splits : ¬(c = ',' ∧ depth = 0) := by
          rintro ⟨rfl, rfl⟩
          exact h [] (by simp) rfl
        rw [if_neg opens, if_neg closes, if_neg splits, ih, level_other opens closes]
        intro front start
        have := tail front start
        rwa [level_other opens closes] at this

theorem segments_of_segment {cs : List Char} (h : Segment cs) (rest : List Char) :
    segments (0 : Int) [] (cs ++ rest) = segments (0 : Int) cs.reverse rest := by
  rw [segments_append (by simpa using h.inner), h.balanced.closed, add_zero, List.append_nil]

@[simp] theorem segments_comma (current rest : List Char) :
    segments (0 : Int) current (',' :: rest) = current.reverse :: segments (0 : Int) [] rest := rfl

/-- Segments with commas between them are told apart by these commas. -/
theorem segments_intercalate {parts : List (List Char)} (some : parts ≠ [])
    (h : ∀ part ∈ parts, Segment part) :
    segments (0 : Int) [] ([','].intercalate parts) = parts := by
  induction parts with
  | nil => exact absurd rfl some
  | cons part rest ih =>
    obtain ⟨first, others⟩ := List.forall_mem_cons.mp h
    cases rest with
    | nil =>
      have alone := segments_of_segment first []
      rw [List.append_nil] at alone
      rw [List.intercalate_singleton, alone, segments, List.reverse_reverse]
    | cons next rest =>
      rw [List.intercalate_cons_cons, List.append_assoc, segments_of_segment first,
        List.singleton_append, segments_comma, List.reverse_reverse,
        ih (List.cons_ne_nil _ _) others]

theorem splitArguments_intercalate {parts : List (List Char)} (some : parts ≠ [])
    (h : ∀ part ∈ parts, Segment part) :
    splitArguments ([','].intercalate parts) = parts.map Text.trim := by
  rw [splitArguments, segments_intercalate some h]

section Counting

variable {δ : Type} [OfNat δ 0] [OfNat δ 1] [Add δ] [Sub δ] [DecidableEq δ]

theorem segments_ne_nil (depth : δ) (current cs : List Char) :
    segments depth current cs ≠ [] := by
  fun_induction segments depth current cs with
  | case1 => exact List.cons_ne_nil _ _
  | case2 depth current rest ih => exact ih
  | case3 depth current rest _ ih => exact ih
  | case4 => exact List.cons_ne_nil _ _
  | case5 depth current c rest _ _ _ ih => exact ih

/-- Whatever the parts of a text are, commas between them make it up again. -/
theorem intercalate_segments (depth : δ) (current cs : List Char) :
    [','].intercalate (segments depth current cs) = current.reverse ++ cs := by
  have whole (c : Char) (current rest : List Char) :
      (c :: current).reverse ++ rest = current.reverse ++ c :: rest := by
    simp
  fun_induction segments depth current cs with
  | case1 => simp
  | case2 depth current rest ih => rw [ih, whole]
  | case3 depth current rest _ ih => rw [ih, whole]
  | case4 depth current c rest _ _ comma ih =>
    rw [List.intercalate_cons_of_ne_nil (segments_ne_nil depth [] rest), ih, comma.1]
    simp
  | case5 depth current c rest _ _ _ ih => rw [ih, whole]

end Counting

end MoveWire.TypeTag
