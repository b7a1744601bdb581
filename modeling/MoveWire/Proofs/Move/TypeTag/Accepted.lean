import MoveWire.Proofs.Move.TypeTag.Reading

/-!
Types are read exactly as the grammar derives them. Whatever is read is derived, level by level,
and whatever else is given is refused as text. Main statement: a text is read as a type exactly if
the grammar derives it and at most 128 levels lie one inside the other.
-/

namespace MoveWire.TypeTag

open Text

variable {inner : Fallible (List Char → Fallible TypeTag)}

/-- Parts are read only as the grammar derives them. -/
def Sound (inside : Fallible (List Char → Fallible TypeTag)) : Prop :=
  ∀ parseOne, inside = .ok parseOne → ∀ text tag, parseOne text = .ok tag → Derives text tag

theorem derives_of_parseStruct {cs : List Char} {s : StructTag} (sound : Sound inner)
    (run : parseStruct inner cs = .ok s) : Derives cs s.toTypeTag := by
  have whole : (trim cs).takeWhile (· ≠ '<') ++ (trim cs).dropWhile (· ≠ '<') = trim cs :=
    List.takeWhile_append_dropWhile
  refine .of_spaced (spaced_trim cs) ?_
  unfold parseStruct at run
  obtain ⟨⟨owner, moduleName, name⟩, path, run⟩ := Fallible.bind_eq_ok.mp run
  have spelled := spellsPath_of_parsePath path
  dsimp only at run
  split at run
  · next none =>
    cases run
    rw [List.isEmpty_iff.mp none, List.append_nil] at whole
    rw [← whole]
    exact .struct spelled
  · obtain ⟨parseOne, reader, run⟩ := Fallible.bind_eq_ok.mp run
    obtain ⟨tags, read, rest⟩ := Fallible.bind_eq_ok.mp run
    cases rest
    obtain ⟨parts, some, form, each⟩ := parseArguments_eq_ok read
    have derived : List.Forall₂ Derives parts tags := each.imp fun part tag given =>
      .of_spaced (spaced_trim part) (sound parseOne reader _ _ given)
    have given := Derives.generic spelled some derived .nil
    rw [List.append_nil, ← form, whole] at given
    exact given

theorem eq_append_of_vectorItem {rest whole text : List Char}
    (h : vectorItem rest whole = .ok text) : rest = text ++ ['>'] := by
  unfold vectorItem at h
  split at h
  · cases h
  · next close =>
    split at h
    · cases h
    · cases h
      exact stripEnd?_eq_some_iff.mp close

theorem derives_of_parseLevel {cs : List Char} {tag : TypeTag} (sound : Sound inner)
    (run : parseLevel inner cs = .ok tag) : Derives cs tag := by
  unfold parseLevel at run
  split at run
  · cases run
  · split at run
    · next keyword =>
      cases run
      obtain ⟨word, listed, rfl⟩ := ofKeyword?_eq_some_iff.mp keyword
      exact .keyword listed (.refl _)
    · split at run
      · next rest lead =>
        obtain ⟨text, enclosed, run⟩ := Fallible.bind_eq_ok.mp run
        obtain ⟨parseOne, reader, run⟩ := Fallible.bind_eq_ok.mp run
        obtain ⟨-, -, run⟩ := Fallible.bind_eq_ok.mp run
        obtain ⟨item, read, last⟩ := Fallible.bind_eq_ok.mp run
        cases last
        rw [stripStart?_eq_some_iff.mp lead, eq_append_of_vectorItem enclosed, ← List.append_assoc]
        exact .vector (sound parseOne reader text item read) (.refl _)
      · split at run
        · cases run
        · obtain ⟨s, read, rest⟩ := Fallible.bind_eq_ok.mp run
          cases rest
          exact derives_of_parseStruct sound read

theorem sound_inside (left : Nat) : Sound (inside left) := by
  -- The parts of a type are read with one level less.
  induction left with
  | zero => exact nofun
  | succ less ih =>
    rintro _ ⟨⟩ text tag read
    rw [parseWithin_eq] at read
    exact .of_spaced (spaced_trim text) (derives_of_parseLevel ih read)

theorem parseStruct_eq_ok_iff {left : Nat} {cs : List Char} {s : StructTag} :
    parseStruct (inside left) cs = .ok s ↔
      Derives cs s.toTypeTag ∧ s.toTypeTag.textDepth ≤ left := by
  constructor
  · intro read
    have derived := derives_of_parseStruct (sound_inside left) read
    refine ⟨derived, ?_⟩
    by_contra deep
    rw [derived.parseStruct left, if_neg deep] at read
    cases read
  · rintro ⟨derived, shallow⟩
    rw [derived.parseStruct left, if_pos shallow]

theorem parseWithin_eq_ok_iff {left : Nat} {cs : List Char} {tag : TypeTag} :
    parseWithin left cs = .ok tag ↔ Derives cs tag ∧ tag.textDepth ≤ left := by
  constructor
  · intro read
    have derived := sound_inside (left + 1) _ rfl cs tag read
    refine ⟨derived, ?_⟩
    by_contra deep
    rw [derived.readAs left, if_neg deep] at read
    cases read
  · rintro ⟨derived, shallow⟩
    rw [derived.readAs left, if_pos shallow]

/-- The text itself is what is wrong. -/
def OfText (e : WireError) : Prop := ∃ cause, e = .parse cause

open Fallible (FailsOnly)

theorem failsOnly_refuse {α : Type} (cause : ParseCause) :
    FailsOnly OfText (refuse cause : Fallible α) := .error ⟨cause, rfl⟩

theorem failsOnly_checkBalanced (cs : List Char) : FailsOnly OfText (checkBalanced cs) := by
  have counted (whole rest : List Char) (depth : Int) :
      FailsOnly OfText (checkFrom whole depth rest) := by
    fun_induction checkFrom whole depth rest with
    | case1 => exact .ok ()
    | case2 => exact failsOnly_refuse _
    | case3 depth rest ih => exact ih
    | case4 => exact failsOnly_refuse _
    | case5 depth rest _ _ ih => exact ih
    | case6 depth c rest _ _ ih => exact ih
  exact counted cs cs 0

theorem failsOnly_parsePath (path whole : List Char) : FailsOnly OfText (parsePath path whole) := by
  unfold parsePath
  dsimp only
  split
  · split
    · split
      · exact failsOnly_refuse _
      · split
        · exact failsOnly_refuse _
        · split
          · exact failsOnly_refuse _
          · exact .ok _
    · exact failsOnly_refuse _
  · exact failsOnly_refuse _

theorem failsOnly_parseArguments {parseOne : List Char → Fallible TypeTag}
    (each : ∀ part, FailsOnly OfText (parseOne part)) (text whole : List Char) :
    FailsOnly OfText (parseArguments parseOne text whole) := by
  unfold parseArguments
  dsimp only
  split
  · next inner _ =>
    refine (failsOnly_checkBalanced inner).bind fun _ _ => ?_
    split
    · exact failsOnly_refuse _
    · refine .mapM fun part _ => ?_
      split
      · exact failsOnly_refuse _
      · exact each part
  · exact failsOnly_refuse _

/-- Parts are refused as text, and so are parts for which no level is left. -/
structure RefusesAsText (inside : Fallible (List Char → Fallible TypeTag)) : Prop where
  room : FailsOnly OfText inside
  each : ∀ parseOne, inside = .ok parseOne → ∀ part, FailsOnly OfText (parseOne part)

theorem failsOnly_parseStruct (h : RefusesAsText inner) (cs : List Char) :
    FailsOnly OfText (parseStruct inner cs) := by
  unfold parseStruct
  refine (failsOnly_parsePath _ _).bind fun parts _ => ?_
  dsimp only
  split
  · exact .ok _
  · refine h.room.bind fun parseOne reader => ?_
    exact (failsOnly_parseArguments (h.each parseOne reader) _ _).bind fun tags _ => .ok _

theorem failsOnly_vectorItem (rest whole : List Char) :
    FailsOnly OfText (vectorItem rest whole) := by
  unfold vectorItem
  split
  · exact failsOnly_refuse _
  · split
    · exact failsOnly_refuse _
    · exact .ok _

theorem failsOnly_parseLevel (h : RefusesAsText inner) (cs : List Char) :
    FailsOnly OfText (parseLevel inner cs) := by
  unfold parseLevel
  split
  · exact failsOnly_refuse _
  · split
    · exact .ok _
    · split
      · refine (failsOnly_vectorItem _ _).bind fun text _ => ?_
        refine h.room.bind fun parseOne reader => ?_
        refine (failsOnly_checkBalanced text).bind fun _ _ => ?_
        exact (h.each parseOne reader text).bind fun item _ => .ok _
      · split
        · exact failsOnly_refuse _
        · exact (failsOnly_parseStruct h cs).bind fun s _ => .ok _

theorem refusesAsText_inside (left : Nat) : RefusesAsText (inside left) := by
  induction left with
  | zero => exact ⟨failsOnly_refuse _, nofun⟩
  | succ less ih =>
    refine ⟨.ok _, ?_⟩
    rintro _ ⟨⟩ part
    rw [parseWithin_eq]
    exact failsOnly_parseLevel ih (trim part)

theorem failsOnly_parseWithin (left : Nat) (cs : List Char) :
    FailsOnly OfText (parseWithin left cs) :=
  (refusesAsText_inside (left + 1)).each _ rfl cs

/-- A text is read as a type exactly if the grammar derives it and no more than 128 vectors and
lists of type arguments lie one inside the other. All other texts are refused, and for nothing but
the text. -/
theorem parse_accepts_grammar (text : String) :
    (∀ tag, parse text = .ok tag ↔ Derives text.toList tag ∧ tag.textDepth ≤ 128) ∧
    ((∃ tag, Derives text.toList tag ∧ tag.textDepth ≤ 128) ∨
      ∃ cause, parse text = .error (.parse cause)) := by
  have reads (tag : TypeTag) :
      parse text = .ok tag ↔ Derives text.toList tag ∧ tag.textDepth ≤ 128 := parseWithin_eq_ok_iff
  refine ⟨reads, ?_⟩
  cases run : parse text with
  | ok tag => exact .inl ⟨tag, (reads tag).mp run⟩
  | error e =>
    obtain ⟨cause, rfl⟩ := failsOnly_parseWithin maxTypeDepth text.toList e run
    exact .inr ⟨cause, rfl⟩

example : parse "\t0x0A :: coin::Coin < u8,vector< bool > >\n" =
    .ok (.struct (.ofNat 10) "coin" "Coin" [.u8, .vector .bool]) := by
  decide +kernel

end MoveWire.TypeTag
