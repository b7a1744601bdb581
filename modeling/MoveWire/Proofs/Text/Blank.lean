import Mathlib.Data.List.Basic
import Mathlib.Data.List.TakeWhile
import MoveWire.Text.Blank

/-!
Blanks around text. Trimming takes all of them off and nothing else, so a text without blanks at its
ends comes back out of any blanks around it.
-/

namespace MoveWire.Text

/-- No blank stands at either end of a text. -/
structure Trimmed (cs : List Char) : Prop where
  front : ∀ c ∈ cs.head?, isBlank c = false
  back : ∀ c ∈ cs.getLast?, isBlank c = false

theorem dropWhile_of_head? {p : Char → Bool} {cs : List Char} (h : ∀ c ∈ cs.head?, p c = false) :
    cs.dropWhile p = cs := by
  cases cs with
  | nil => rfl
  | cons c rest => exact List.dropWhile_cons_of_neg (by simp [h c rfl])

theorem trimStart_of_trimmed {cs : List Char} (h : Trimmed cs) : trimStart cs = cs :=
  dropWhile_of_head? h.front

theorem trimEnd_of_trimmed {cs : List Char} (h : Trimmed cs) : trimEnd cs = cs := by
  have stop : cs.reverse.dropWhile isBlank = cs.reverse :=
    dropWhile_of_head? (by rw [List.head?_reverse]; exact h.back)
  rw [trimEnd, stop, List.reverse_reverse]

theorem trim_of_trimmed {cs : List Char} (h : Trimmed cs) : trim cs = cs := by
  rw [trim, trimStart_of_trimmed h, trimEnd_of_trimmed h]

theorem trimString_of_trimmed {text : String} (h : Trimmed text.toList) :
    trimString text = text := by
  rw [trimString, trim_of_trimmed h, String.ofList_toList]

/-- Nothing but blanks. -/
def Blanks (cs : List Char) : Prop := ∀ c ∈ cs, isBlank c = true

/-- A text between blanks. -/
def Spaced (cs core : List Char) : Prop :=
  ∃ before after, Blanks before ∧ Blanks after ∧ cs = before ++ core ++ after

theorem Blanks.nil : Blanks [] := fun _ member => nomatch member

theorem Blanks.single {c : Char} (h : isBlank c = true) : Blanks [c] := by
  intro d member
  rwa [List.mem_singleton.mp member]

theorem not_blanks_of_mem {cs : List Char} {c : Char} (member : c ∈ cs)
    (solid : isBlank c = false) : ¬Blanks cs := by
  intro blank
  cases solid.symm.trans (blank c member)

theorem Blanks.append {as bs : List Char} (ha : Blanks as) (hb : Blanks bs) : Blanks (as ++ bs) :=
  List.forall_mem_append.mpr ⟨ha, hb⟩

theorem Spaced.refl (cs : List Char) : Spaced cs cs := ⟨[], [], .nil, .nil, by simp⟩

theorem Spaced.trans {cs middle core : List Char} (h : Spaced cs middle)
    (inner : Spaced middle core) : Spaced cs core := by
  obtain ⟨before, after, front, back, rfl⟩ := h
  obtain ⟨more, others, further, behind, rfl⟩ := inner
  exact ⟨before ++ more, others ++ after, front.append further, behind.append back, by simp⟩

theorem trimStart_append {before : List Char} (h : Blanks before) (cs : List Char) :
    trimStart (before ++ cs) = trimStart cs := List.dropWhile_append_of_pos h

/-- What is left of a text in front of another one keeps the other one behind it. -/
theorem trimStart_append_of_ne_nil {cs : List Char} (h : trimStart cs ≠ []) (rest : List Char) :
    trimStart (cs ++ rest) = trimStart cs ++ rest := by
  rw [trimStart, List.dropWhile_append, if_neg (by rwa [List.isEmpty_iff]), trimStart]

theorem trimEnd_append {after : List Char} (h : Blanks after) (cs : List Char) :
    trimEnd (cs ++ after) = trimEnd cs := by
  rw [trimEnd, List.reverse_append, List.dropWhile_append_of_pos, trimEnd]
  exact fun c member => h c (List.mem_reverse.mp member)

theorem trimEnd_append_of_ne_nil {cs : List Char} (h : trimEnd cs ≠ []) (front : List Char) :
    trimEnd (front ++ cs) = front ++ trimEnd cs := by
  have back : trimStart cs.reverse ≠ [] := fun none => h (List.reverse_eq_nil_iff.mpr none)
  have joined := trimStart_append_of_ne_nil back front.reverse
  rw [trimEnd, List.reverse_append, ← trimStart, joined, List.reverse_append, List.reverse_reverse]
  rfl

theorem front_trimStart (cs : List Char) : ∀ c ∈ (trimStart cs).head?, isBlank c = false := by
  intro c first
  have solid := List.head?_dropWhile_not isBlank cs
  rw [← trimStart, first] at solid
  exact solid

/-- Trimming takes off some blanks. -/
theorem trimStart_spec (cs : List Char) : ∃ before, Blanks before ∧ cs = before ++ trimStart cs :=
  ⟨cs.takeWhile isBlank, fun _ member => List.mem_takeWhile_imp member,
    List.takeWhile_append_dropWhile.symm⟩

theorem trimEnd_spec (cs : List Char) : ∃ after, Blanks after ∧ cs = trimEnd cs ++ after := by
  obtain ⟨before, blank, whole⟩ := trimStart_spec cs.reverse
  refine ⟨before.reverse, fun c member => blank c (List.mem_reverse.mp member), ?_⟩
  rw [trimEnd, ← List.reverse_append]
  exact List.reverse_eq_iff.mp whole

theorem spaced_trim (cs : List Char) : Spaced cs (trim cs) := by
  obtain ⟨before, front, whole⟩ := trimStart_spec cs
  obtain ⟨after, back, rest⟩ := trimEnd_spec (trimStart cs)
  refine ⟨before, after, front, back, ?_⟩
  rw [List.append_assoc, trim, ← rest]
  exact whole

theorem trim_of_spaced {cs core : List Char} (h : Spaced cs core) (trimmed : Trimmed core) :
    trim cs = core := by
  obtain ⟨before, after, front, back, rfl⟩ := h
  cases core with
  | nil =>
    have blank : Blanks (before ++ [] ++ after) := (front.append .nil).append back
    have none : trimStart (before ++ [] ++ after) = [] := List.dropWhile_eq_nil_iff.mpr blank
    rw [trim, none]
    rfl
  | cons c rest =>
    have start : trimStart (c :: rest ++ after) = c :: rest ++ after :=
      dropWhile_of_head? fun d first => trimmed.front d first
    rw [trim, List.append_assoc, trimStart_append front, start, trimEnd_append back]
    exact trimEnd_of_trimmed trimmed

theorem trimmed_trim (cs : List Char) : Trimmed (trim cs) where
  front c first := by
    obtain ⟨after, -, whole⟩ := trimEnd_spec (trimStart cs)
    refine front_trimStart cs c ?_
    rw [whole, List.head?_append, ← trim, first]
    rfl
  back c last := by
    rw [trim, trimEnd, List.getLast?_reverse] at last
    exact front_trimStart _ c last

theorem trim_trim (cs : List Char) : trim (trim cs) = trim cs := trim_of_trimmed (trimmed_trim cs)

theorem blanks_of_trim {cs : List Char} (h : trim cs = []) : Blanks cs := by
  obtain ⟨before, after, front, back, whole⟩ := spaced_trim cs
  rw [h, List.append_nil] at whole
  rw [whole]
  exact front.append back

/-- What holds of blanks and of the text between them holds of all characters. -/
theorem Spaced.forall_mem {cs core : List Char} {p : Char → Prop} (h : Spaced cs core)
    (blank : ∀ c, isBlank c = true → p c) (inner : ∀ c ∈ core, p c) : ∀ c ∈ cs, p c := by
  obtain ⟨before, after, front, back, rfl⟩ := h
  refine List.forall_mem_append.mpr ⟨List.forall_mem_append.mpr ⟨?_, inner⟩, ?_⟩
  · exact fun c member => blank c (front c member)
  · exact fun c member => blank c (back c member)

theorem Spaced.trimStart {cs core : List Char} (h : Spaced cs core) (trimmed : Trimmed core)
    (some : core ≠ []) : Spaced (trimStart cs) core := by
  obtain ⟨before, after, front, back, rfl⟩ := h
  have start := trimStart_of_trimmed trimmed
  refine ⟨[], after, .nil, back, ?_⟩
  rw [List.append_assoc, trimStart_append front, trimStart_append_of_ne_nil (by rwa [start]), start]
  rfl

theorem Spaced.trimEnd {cs core : List Char} (h : Spaced cs core) (trimmed : Trimmed core)
    (some : core ≠ []) : Spaced (trimEnd cs) core := by
  obtain ⟨before, after, front, back, rfl⟩ := h
  have stop := trimEnd_of_trimmed trimmed
  refine ⟨before, [], front, .nil, ?_⟩
  rw [trimEnd_append back, trimEnd_append_of_ne_nil (by rwa [stop]), stop, List.append_nil]

theorem Spaced.ne_nil {cs core : List Char} (h : Spaced cs core) (some : core ≠ []) : cs ≠ [] := by
  obtain ⟨before, after, -, -, rfl⟩ := h
  simp [some]

theorem trim_sublist (cs : List Char) : (trim cs).Sublist cs := by
  have back : (trim cs).Sublist (trimStart cs) := by
    rw [trim, trimEnd, ← List.reverse_sublist, List.reverse_reverse]
    exact List.dropWhile_sublist _
  exact back.trans (List.dropWhile_sublist _)

theorem Trimmed.of_forall {cs : List Char} (h : ∀ c ∈ cs, isBlank c = false) : Trimmed cs where
  front c first := h c (List.mem_of_mem_head? first)
  back c last := h c (List.mem_of_getLast? last)

theorem Trimmed.append {as bs : List Char} (ha : Trimmed as) (hb : Trimmed bs) :
    Trimmed (as ++ bs) where
  front c first := by
    rw [List.head?_append] at first
    rcases Option.or_eq_some_iff.mp first with first | ⟨-, first⟩
    · exact ha.front c first
    · exact hb.front c first
  back c last := by
    rw [List.getLast?_append] at last
    rcases Option.or_eq_some_iff.mp last with last | ⟨-, last⟩
    · exact hb.back c last
    · exact ha.back c last

end MoveWire.Text
