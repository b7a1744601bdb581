import MoveWire.Proofs.Wire.Codec

/-!
The laws of tagged unions. Each value is of exactly one variant, so its form is the number of that
variant and the form of what the variant holds; reading goes by the number alone.
-/

namespace MoveWire

variable {α : Type}

/-- What a variant owes to the values of a domain: it recognises the values that it makes, and its
payloads fit, are readable and come back as those values are and do. -/
structure Variant.Conforms (v : Variant α) (d : Domain v.Payload) (e : Domain α) : Prop where
  codec : v.codec.Conforms d
  take_make : ∀ p, v.take (v.make p) = some p
  fits : ∀ {a p}, v.take a = some p → (d.Fits p ↔ e.Fits a)
  readable : ∀ {a p}, v.take a = some p → (d.Readable p ↔ e.Readable a)
  normal : ∀ {a p}, v.take a = some p → v.make (d.normal p) = e.normal a

/-- A variant that keeps all of the values that it takes. -/
def Variant.Exact (v : Variant α) : Prop := ∀ a p, v.take a = some p ↔ v.make p = a

theorem Variant.Conforms.of_exact {v : Variant α} {d : Domain v.Payload} {e : Domain α}
    (codec : v.codec.Conforms d) (h : v.Exact) (fits : ∀ p, d.Fits p ↔ e.Fits (v.make p))
    (readable : ∀ p, d.Readable p ↔ e.Readable (v.make p))
    (normal : ∀ p, v.make (d.normal p) = e.normal (v.make p)) : v.Conforms d e where
  codec := codec
  take_make p := (h _ p).mpr rfl
  fits taken := (h _ _).mp taken ▸ fits _
  readable taken := (h _ _).mp taken ▸ readable _
  normal taken := (h _ _).mp taken ▸ normal _

theorem Variant.Conforms.all {v : Variant α} (codec : v.codec.Conforms .all) (h : v.Exact) :
    v.Conforms .all .all :=
  .of_exact codec h (fun _ => .rfl) (fun _ => .rfl) fun _ => rfl

theorem Variant.constant_exact [DecidableEq α] (a : α) : (Variant.constant a).Exact := by
  refine fun b p => ⟨fun taken => ?_, fun made => made ▸ if_pos rfl⟩
  simp only [Variant.constant] at taken
  split at taken
  · next same => exact same.symm
  · cases taken

theorem Variant.constant_conforms [DecidableEq α] {a : α} {e : Domain α} (fits : e.Fits a)
    (readable : e.Readable a) (normal : e.normal a = a) :
    (Variant.constant a).Conforms .all e :=
  .of_exact Codec.unit_conforms (Variant.constant_exact a) (fun _ => iff_of_true trivial fits)
    (fun _ => iff_of_true trivial readable) fun _ => normal.symm

/-- Variants that make up a union: few enough to be numbered by a byte, one for every value, and
none that takes what a later one makes. -/
structure Variant.Partition (variants : List (Variant α)) (e : Domain α) : Prop where
  few : variants.length ≤ 256
  conforms : ∀ v ∈ variants, ∃ d, v.Conforms d e
  covers : ∀ a, ∃ v ∈ variants, (v.take a).isSome
  apart : variants.Pairwise fun v w => ∀ p, v.take (w.make p) = none

/-- A value that is at its place the first variant to recognise it. -/
structure Variant.Chosen (variants : List (Variant α)) (a : α) (n : Nat) (v : Variant α)
    (p : v.Payload) : Prop where
  place : variants[n]? = some v
  taken : v.take a = some p
  skipped : ∀ m < n, ∀ w, variants[m]? = some w → w.take a = none

namespace Codec

theorem writeVariant_chosen (width : TagWidth) {a : α} {v : Variant α} {p : v.Payload} :
    ∀ {variants : List (Variant α)} {n : Nat} (first : Nat), Variant.Chosen variants a n v p →
    writeVariant width first a variants = (do
      let tag ← Writer.tag width (UInt32.ofNat (first + n))
      return tag ++ (← v.codec.write p))
  | [], n, first, h => absurd h.place (by simp)
  | w :: rest, 0, first, h => by
    obtain rfl : w = v := by simpa using h.place
    simp only [writeVariant, h.taken, Nat.add_zero]
  | w :: rest, n + 1, first, h => by
    have other : w.take a = none := h.skipped 0 (Nat.succ_pos n) w rfl
    have later : Variant.Chosen rest a n v p :=
      ⟨by simpa using h.place, h.taken,
        fun m less u at_ => h.skipped (m + 1) (Nat.succ_lt_succ less) u (by simpa using at_)⟩
    simp only [writeVariant, other]
    rw [writeVariant_chosen width (first + 1) later, Nat.add_right_comm, Nat.add_assoc]

theorem exists_chosen {a : α} {variants : List (Variant α)}
    (covered : ∃ v ∈ variants, (v.take a).isSome) :
    ∃ n v p, Variant.Chosen variants a n v p := by
  induction variants with
  | nil => simp at covered
  | cons w rest ih =>
    cases taken : w.take a with
    | some p => exact ⟨0, w, p, rfl, taken, fun m less => absurd less (Nat.not_lt_zero m)⟩
    | none =>
      have later : ∃ v ∈ rest, (v.take a).isSome := by simpa [taken] using covered
      obtain ⟨n, v, p, chosen⟩ := ih later
      refine ⟨n + 1, v, p, by simpa using chosen.place, chosen.taken, fun m less u at_ => ?_⟩
      cases m with
      | zero => cases at_; exact taken
      | succ m => exact chosen.skipped m (Nat.lt_of_succ_lt_succ less) u (by simpa using at_)

/-- What a variant makes is of that variant, since no earlier one takes it. -/
theorem chosen_make {variants : List (Variant α)} {e : Domain α}
    (h : Variant.Partition variants e) {n : Nat} {v : Variant α} (place : variants[n]? = some v)
    (p : v.Payload) : Variant.Chosen variants (v.make p) n v p := by
  obtain ⟨d, conforms⟩ := h.conforms v (List.mem_of_getElem? place)
  refine ⟨place, conforms.take_make p, fun m less w at_ => ?_⟩
  obtain ⟨inside, rfl⟩ := List.getElem?_eq_some_iff.mp place
  obtain ⟨before, rfl⟩ := List.getElem?_eq_some_iff.mp at_
  exact List.pairwise_iff_getElem.mp h.apart m n before inside less p

/-- The form of a value of a union is the number of its variant and the form of its payload. -/
theorem union_write (width : TagWidth) (name : String) {variants : List (Variant α)} {a : α}
    {n : Nat} {v : Variant α} {p : v.Payload} (h : Variant.Chosen variants a n v p) :
    (union width name variants).write a = (do
      let tag ← Writer.tag width (UInt32.ofNat n)
      return tag ++ (← v.codec.write p)) := by
  have written := writeVariant_chosen width 0 h
  rwa [Nat.zero_add] at written

theorem Conforms.union (width : TagWidth) (name : String) {variants : List (Variant α)}
    {e : Domain α} (h : Variant.Partition variants e) :
    (union width name variants).Conforms e where
  carries a := by
    obtain ⟨n, v, p, chosen⟩ := exists_chosen (h.covers a)
    obtain ⟨d, conforms⟩ := h.conforms v (List.mem_of_getElem? chosen.place)
    have payload := conforms.codec.carries p
    have numbered := union_write width name chosen
    have small {m w} (place : variants[m]? = some w) : m < 256 :=
      Nat.lt_of_lt_of_le (List.getElem?_eq_some_iff.mp place).1 h.few
    obtain ⟨tag, tagged, tag_takes⟩ := Reader.tag_takes width (small chosen.place)
    refine ⟨?_, ?_, fun {form} written => ?_, ?_⟩
    · rw [numbered]
      exact ((Fallible.FormIf.of_ok tagged).append payload.form_if).congr
        ((and_iff_right trivial).trans (conforms.fits chosen.taken))
    · rw [numbered, ← conforms.normal chosen.taken,
        union_write width name (chosen_make h chosen.place (d.normal p)), payload.normal]
    · rw [numbered] at written
      obtain ⟨front, back, hf, hb, rfl⟩ := Fallible.append_eq_ok.mp written
      obtain rfl : tag = front := Except.ok.inj (tagged.symm.trans hf)
      refine ((Reader.ReadsBack.of_takes tag_takes).bind ?_).congr
        ((and_iff_right trivial).trans (conforms.readable chosen.taken))
        (conforms.normal chosen.taken)
      simp only [chosen.place]
      exact (payload.reads_back hb).map v.make
    · intro b form other rest tail ha hb same
      obtain ⟨m, w, q, chosen'⟩ := exists_chosen (h.covers b)
      obtain ⟨tag', tagged', tag_takes'⟩ := Reader.tag_takes width (small chosen'.place)
      rw [numbered] at ha
      rw [union_write width name chosen'] at hb
      obtain ⟨front, back, hf, hp, rfl⟩ := Fallible.append_eq_ok.mp ha
      obtain ⟨front', back', hf', hq, rfl⟩ := Fallible.append_eq_ok.mp hb
      obtain rfl : tag = front := Except.ok.inj (tagged.symm.trans hf)
      obtain rfl : tag' = front' := Except.ok.inj (tagged'.symm.trans hf')
      rw [List.append_assoc, List.append_assoc] at same
      have number := (tag_takes 0).whole (back ++ rest)
      rw [same, (tag_takes' 0).whole] at number
      obtain ⟨rfl, -⟩ := EStateM.Result.ok.inj number
      -- the same number is the same variant, so what is behind it is two payloads of one codec
      obtain rfl : w = v := Option.some.inj (chosen'.place.symm.trans chosen.place)
      obtain rfl : tag = tag' := Except.ok.inj (tagged.symm.trans tagged')
      obtain ⟨equal, rfl⟩ := payload.separate hp hq (List.append_cancel_left same)
      refine ⟨?_, rfl⟩
      rw [← conforms.normal chosen.taken, ← conforms.normal chosen'.taken, equal]
  canonical := by
    intro cursor a next run
    obtain ⟨n, after, number, inner⟩ := Stateful.bind_eq_ok run
    obtain ⟨tag, tagged, tag_rest⟩ := Reader.tag_eq_ok number
    cases place : variants[n]? with
    | none => simp only [place] at inner; cases inner
    | some v =>
      simp only [place] at inner
      obtain ⟨p, read, rfl⟩ := Stateful.map_eq_ok inner
      obtain ⟨d, conforms⟩ := h.conforms v (List.mem_of_getElem? place)
      obtain ⟨back, written, back_rest⟩ := conforms.codec.canonical _ _ _ read
      refine ⟨tag ++ back, ?_, by rw [tag_rest, back_rest, List.append_assoc]⟩
      rw [union_write width name (chosen_make h place p)]
      exact Fallible.append_eq_ok.mpr ⟨tag, back, tagged, written, rfl⟩

/-- A union whose variants hold nothing: all its values, each once. -/
theorem Conforms.enumeration [DecidableEq α] (width : TagWidth) (name : String) (values : List α)
    (few : values.length ≤ 256) (complete : ∀ a, a ∈ values) (once : values.Nodup) :
    (Codec.union width name (values.map Variant.constant)).Conforms .all := by
  refine .union width name ⟨by rwa [List.length_map], ?_, fun a => ?_, ?_⟩
  · intro v member
    obtain ⟨a, -, rfl⟩ := List.mem_map.mp member
    exact ⟨.all, Variant.constant_conforms trivial trivial rfl⟩
  · exact ⟨.constant a, List.mem_map_of_mem (complete a), by simp [Variant.constant]⟩
  · exact List.pairwise_map.mpr (once.imp fun differ _ => if_neg (Ne.symm differ))

end Codec

end MoveWire
