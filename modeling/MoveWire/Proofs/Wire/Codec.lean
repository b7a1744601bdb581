import MoveWire.Proofs.Wire.Reading
import MoveWire.Wire.Codec

/-!
The laws of a codec: which values have a form, that forms are read back or refused as a whole, that
no form begins with the form of another value, and that nothing but forms is read. The laws of a
codec that is put together follow from those of its parts.
-/

namespace MoveWire

variable {α β : Type}

/-- The values that a codec is for: those that have a form, those whose form can be read back, and
what reading back gives for a value. -/
structure Domain (α : Type) where
  Fits : α → Prop
  Readable : α → Prop
  normal : α → α

/-- There is a form if `fits`, and otherwise something is refused as out of range. -/
def Fallible.FormIf (x : Fallible Bytes) (fits : Prop) : Prop :=
  (fits → ∃ form, x = .ok form) ∧ (¬fits → ∃ cause, x = .error (.range cause))

/-- The form is taken for `a` if that is readable, and otherwise refused, wherever it stands. -/
def Reader.ReadsBack (r : Reader α) (form : Bytes) (readable : Prop) (a : α) : Prop :=
  (readable → ∀ start, r.Takes start form a) ∧ (¬readable → ∀ start, r.Refuses start form)

namespace Codec

/-- What a codec owes to one value. -/
structure Carries (c : Codec α) (d : Domain α) (a : α) : Prop where
  form_if : (c.write a).FormIf (d.Fits a)
  normal : c.write (d.normal a) = c.write a
  reads_back : ∀ {form}, c.write a = .ok form →
    c.read.ReadsBack form (d.Readable a) (d.normal a)
  separate : ∀ {b form other rest tail}, c.write a = .ok form → c.write b = .ok other →
    form ++ rest = other ++ tail → d.normal a = d.normal b ∧ form = other

/-- Whatever is read is the form of what it is read as. -/
def Canonical (c : Codec α) : Prop :=
  ∀ cursor a next, c.read cursor = .ok a next →
    ∃ form, c.write a = .ok form ∧ cursor.rest = form ++ next.rest

structure Conforms (c : Codec α) (d : Domain α) : Prop where
  carries : ∀ a, c.Carries d a
  canonical : c.Canonical

end Codec

theorem Fallible.FormIf.append {x y : Fallible Bytes} {p q : Prop} (hx : x.FormIf p)
    (hy : y.FormIf q) : Fallible.FormIf (do let front ← x; return front ++ (← y)) (p ∧ q) := by
  constructor
  · rintro ⟨hp, hq⟩
    obtain ⟨front, rfl⟩ := hx.1 hp
    obtain ⟨back, rfl⟩ := hy.1 hq
    exact ⟨front ++ back, rfl⟩
  · intro h
    by_cases hp : p
    · obtain ⟨front, rfl⟩ := hx.1 hp
      obtain ⟨cause, rfl⟩ := hy.2 fun hq => h ⟨hp, hq⟩
      exact ⟨cause, rfl⟩
    · obtain ⟨cause, rfl⟩ := hx.2 hp
      exact ⟨cause, rfl⟩

theorem Fallible.FormIf.cons {b : UInt8} {x : Fallible Bytes} {p : Prop} (h : x.FormIf p) :
    Fallible.FormIf (do return b :: (← x)) p := by
  constructor
  · intro hp
    obtain ⟨back, rfl⟩ := h.1 hp
    exact ⟨b :: back, rfl⟩
  · intro hp
    obtain ⟨cause, rfl⟩ := h.2 hp
    exact ⟨cause, rfl⟩

theorem Fallible.FormIf.of_ok {x : Fallible Bytes} {form : Bytes} (h : x = .ok form) :
    x.FormIf True :=
  ⟨fun _ => ⟨form, h⟩, fun never => absurd trivial never⟩

theorem Fallible.FormIf.congr {x : Fallible Bytes} {p q : Prop} (h : x.FormIf p) (same : p ↔ q) :
    x.FormIf q := by
  rwa [← propext same]

namespace Reader.ReadsBack

theorem bind {r : Reader α} {k : α → Reader β} {front back : Bytes} {p q : Prop} {a : α} {b : β}
    (first : r.ReadsBack front p a) (second : (k a).ReadsBack back q b) :
    (r >>= k).ReadsBack (front ++ back) (p ∧ q) b := by
  constructor
  · rintro ⟨hp, hq⟩ start
    exact (first.1 hp start).bind (second.1 hq _)
  · intro h start
    by_cases hp : p
    · exact (first.1 hp start).refuses_bind (second.2 (fun hq => h ⟨hp, hq⟩) _)
    · exact (first.2 hp start).bind k back

theorem map {r : Reader α} {form : Bytes} {p : Prop} {a : α} (h : r.ReadsBack form p a)
    (f : α → β) : (f <$> r).ReadsBack form p (f a) :=
  ⟨fun hp start => (h.1 hp start).map f, fun hp start => (h.2 hp start).map f⟩

theorem offset_bind {k : Nat → Reader β} {form : Bytes} {p : Prop} {b : β}
    (h : ∀ place, (k place).ReadsBack form p b) : (offset >>= k).ReadsBack form p b :=
  ⟨fun hp start => ((h start).1 hp start).offset_bind,
    fun hp start => ((h start).2 hp start).offset_bind⟩

theorem of_takes {r : Reader α} {form : Bytes} {a : α} (h : ∀ start, r.Takes start form a) :
    r.ReadsBack form True a :=
  ⟨fun _ => h, fun never => absurd trivial never⟩

theorem of_refuses {r : Reader α} {form : Bytes} (h : ∀ start, r.Refuses start form) (a : α) :
    r.ReadsBack form False a :=
  ⟨fun never => never.elim, fun _ => h⟩

theorem congr {r : Reader α} {form : Bytes} {p q : Prop} {a b : α} (h : r.ReadsBack form p a)
    (same : p ↔ q) (given : a = b) : r.ReadsBack form q b := by
  rwa [← propext same, ← given]

end Reader.ReadsBack

namespace Domain

/-- Values that can always be read back, and then are the same as before. -/
@[simp] def plain (fits : α → Prop) : Domain α := ⟨fits, fun _ => True, id⟩

/-- Values that all have a form. -/
@[simp] def all : Domain α := plain fun _ => True

@[simp] def pair (d : Domain α) (e : Domain β) : Domain (α × β) where
  Fits v := d.Fits v.1 ∧ e.Fits v.2
  Readable v := d.Readable v.1 ∧ e.Readable v.2
  normal v := (d.normal v.1, e.normal v.2)

@[simp] def map (d : Domain α) (make : α → β) (take : β → α) : Domain β where
  Fits b := d.Fits (take b)
  Readable b := d.Readable (take b)
  normal b := make (d.normal (take b))

@[simp] def vector (d : Domain α) : Domain (List α) where
  Fits v := v.length < 2 ^ 32 ∧ ∀ a ∈ v, d.Fits a
  Readable v := ∀ a ∈ v, d.Readable a
  normal v := v.map d.normal

@[simp] def option (d : Domain α) : Domain (Option α) where
  Fits v := ∀ a ∈ v, d.Fits a
  Readable v := ∀ a ∈ v, d.Readable a
  normal v := v.map d.normal

end Domain

namespace Codec

theorem Carries.congr {c : Codec α} {d e : Domain α} {a : α} (h : c.Carries d a)
    (fits : d.Fits a ↔ e.Fits a) (readable : d.Readable a ↔ e.Readable a)
    (normal : ∀ b, d.normal b = e.normal b) : c.Carries e a where
  form_if := h.form_if.congr fits
  normal := by rw [← normal, h.normal]
  reads_back written := (h.reads_back written).congr readable (normal a)
  separate written written' same := by
    rw [← normal, ← normal]
    exact h.separate written written' same

theorem Conforms.congr {c : Codec α} {d e : Domain α} (h : c.Conforms d)
    (fits : ∀ a, d.Fits a ↔ e.Fits a) (readable : ∀ a, d.Readable a ↔ e.Readable a)
    (normal : ∀ a, d.normal a = e.normal a) : c.Conforms e where
  carries a := (h.carries a).congr (fits a) (readable a) normal
  canonical := h.canonical

/-- Where every form can be read back, reading tells the forms apart. -/
theorem Conforms.plain {c : Codec α} {fits : α → Prop} (form_if : ∀ a, (c.write a).FormIf (fits a))
    (takes : ∀ {a form}, c.write a = .ok form → ∀ start, c.read.Takes start form a)
    (canonical : c.Canonical) : c.Conforms (.plain fits) where
  canonical := canonical
  carries a :=
    { form_if := form_if a
      normal := rfl
      reads_back := fun h => .of_takes (takes h)
      separate := by
        intro b form other rest tail ha hb same
        have first := (takes ha 0).whole rest
        rw [same, (takes hb 0).whole tail] at first
        obtain ⟨rfl, -⟩ := EStateM.Result.ok.inj first
        exact ⟨rfl, Except.ok.inj (ha.symm.trans hb)⟩ }

theorem Conforms.takes {c : Codec α} {d : Domain α} (h : c.Conforms d) {a : α} {form : Bytes}
    (written : c.write a = .ok form) (readable : d.Readable a) (start : Nat) :
    c.read.Takes start form (d.normal a) :=
  ((h.carries a).reads_back written).1 readable start

theorem Conforms.all {c : Codec α} {form : α → Bytes} (written : ∀ a, c.write a = .ok (form a))
    (takes : ∀ a start, c.read.Takes start (form a) a)
    (canonical : ∀ {cursor next a}, c.read cursor = .ok a next →
      cursor.rest = form a ++ next.rest) : c.Conforms .all :=
  .plain (fun a => .of_ok (written a))
    (fun {a _} h => Except.ok.inj ((written a).symm.trans h) ▸ takes a)
    fun _ a _ h => ⟨form a, written a, canonical h⟩

theorem unit_conforms : unit.Conforms .all :=
  .all (fun _ => rfl) (fun _ start => .pure () start) fun h => by cases h; rfl

theorem u8_conforms : u8.Conforms .all :=
  .all (fun _ => rfl) (fun b start => Reader.u8_takes start b) Reader.u8_eq_ok

theorem fixed_conforms (n : Nat) : (fixed n).Conforms .all :=
  .all (fun _ => rfl) (fun v start => Reader.fixed_takes start v) Reader.fixed_eq_ok

/-- Numbers in a fixed count of little-endian bytes. -/
theorem Conforms.word {c : Codec α} (width : Nat) {toNat : α → Nat} {ofNat : Nat → α}
    (write : ∀ v, c.write v = .ok (Writer.number width (toNat v)))
    (read : c.read = ofNat <$> Reader.number width) (bound : ∀ v, toNat v < 256 ^ width)
    (back : ∀ v, ofNat (toNat v) = v) (forth : ∀ n < 256 ^ width, toNat (ofNat n) = n) :
    c.Conforms .all := by
  refine .all write (fun v start => ?_) fun {cursor next v} h => ?_
  · rw [read]
    have h := (Reader.number_takes width (toNat v) start (bound v)).map ofNat
    rwa [back] at h
  · rw [read] at h
    obtain ⟨n, digits, rfl⟩ := Stateful.map_eq_ok h
    obtain ⟨fits, form⟩ := Reader.number_eq_ok digits
    rw [form, forth n fits]
    rfl

theorem u16_conforms : u16.Conforms .all :=
  .word 2 (fun _ => rfl) rfl UInt16.toNat_lt (fun _ => UInt16.ofNat_toNat)
    fun _ fits => UInt16.toNat_ofNat_of_lt' fits

theorem u32_conforms : u32.Conforms .all :=
  .word 4 (fun _ => rfl) rfl UInt32.toNat_lt (fun _ => UInt32.ofNat_toNat)
    fun _ fits => UInt32.toNat_ofNat_of_lt' fits

theorem u64_conforms : u64.Conforms .all :=
  .word 8 (fun _ => rfl) rfl UInt64.toNat_lt (fun _ => UInt64.ofNat_toNat)
    fun _ fits => UInt64.toNat_ofNat_of_lt' fits

theorem u128_conforms : u128.Conforms .all :=
  .word 16 (fun _ => rfl) rfl BitVec.isLt (fun v => by rw [BitVec.ofNat_toNat, BitVec.setWidth_eq])
    fun _ fits => Nat.mod_eq_of_lt fits

theorem u256_conforms : u256.Conforms .all :=
  .word 32 (fun _ => rfl) rfl BitVec.isLt (fun v => by rw [BitVec.ofNat_toNat, BitVec.setWidth_eq])
    fun _ fits => Nat.mod_eq_of_lt fits

theorem bool_conforms : bool.Conforms .all := by
  refine .all (fun _ => rfl) (fun v start => ?_) fun {cursor next v} h => ?_
  · refine Reader.Takes.offset_bind ((Reader.u8_takes start _).bind_pure ?_)
    cases v <;> rfl
  · change Reader.bool cursor = _ at h
    rw [Reader.bool, Reader.offset_bind] at h
    obtain ⟨b, after, byte, h⟩ := Stateful.bind_eq_ok h
    rw [Reader.u8_eq_ok byte]
    split at h
    · next zero => cases h; rw [zero]; rfl
    · split at h
      · next one => cases h; rw [one]; rfl
      · cases h

/-- The counts in front of sequences. -/
def count : Codec Nat := ⟨Writer.length, Reader.length⟩

theorem count_conforms : count.Conforms (.plain fun n => n < 2 ^ 32) := by
  refine .plain (fun n => ?_) (fun h start => Reader.length_takes start h)
    fun _ _ _ h => Reader.length_eq_ok h
  change (Writer.length n).FormIf (n < 2 ^ 32)
  unfold Writer.length
  split
  · next fits => exact ⟨fun _ => ⟨_, rfl⟩, fun never => absurd fits never⟩
  · next large => exact ⟨fun fits => absurd fits large, fun _ => ⟨_, rfl⟩⟩

theorem bytes_conforms : bytes.Conforms (.plain fun v => v.length < 2 ^ 32) := by
  refine .plain (fun v => ?_) (fun {v form} h start => ?_) fun cursor v next h => ?_
  · have body : Fallible.FormIf (.ok v) True := .of_ok rfl
    exact ((count_conforms.carries v.length).form_if.append body).congr (and_iff_left trivial)
  · obtain ⟨count, body, counted, rest, rfl⟩ := Fallible.append_eq_ok (y := .ok v).mp h
    cases rest
    exact (Reader.length_takes start counted).bind (Reader.raw_takes _ v)
  · obtain ⟨n, after, count, body⟩ := Stateful.bind_eq_ok h
    obtain ⟨form, counted, front⟩ := Reader.length_eq_ok count
    obtain ⟨rfl, back⟩ := Reader.raw_eq_ok body
    refine ⟨form ++ v, ?_, by rw [front, back, List.append_assoc]⟩
    exact Fallible.append_eq_ok (y := .ok v).mpr ⟨form, v, counted, rfl, rfl⟩

/-- Reading refuses bytes that are no UTF-8, and these are the form of no string. -/
theorem string_conforms : string.Conforms (.plain fun v => v.utf8ByteSize < 2 ^ 32) := by
  refine .plain (fun v => ?_) (fun {v form} h start => ?_) fun cursor v next h => ?_
  · exact (bytes_conforms.carries (Text.Utf8.encode v)).form_if
  · have read := bytes_conforms.takes (a := Text.Utf8.encode v) h trivial start
    refine Reader.Takes.offset_bind (read.bind_pure ?_)
    simp only [Domain.plain, id, Text.Utf8.decode_encode]
  · change Reader.string cursor = _ at h
    rw [Reader.string, Reader.offset_bind] at h
    obtain ⟨taken, after, body, h⟩ := Stateful.bind_eq_ok h
    cases text : Text.Utf8.decode taken with
    | ok s =>
      rw [text] at h
      cases h
      rw [Text.Utf8.eq_encode_of_decode text] at body
      exact bytes_conforms.canonical _ _ _ body
    | error fault =>
      rw [text] at h
      cases h

theorem Carries.pair {c : Codec α} {e : Codec β} {d : Domain α} {f : Domain β} {a : α} {b : β}
    (first : c.Carries d a) (second : e.Carries f b) :
    (c.pair e).Carries (d.pair f) (a, b) where
  form_if := first.form_if.append second.form_if
  normal := by
    change (do let front ← c.write (d.normal a); return front ++ (← e.write (f.normal b))) = _
    rw [first.normal, second.normal]
    rfl
  reads_back h := by
    obtain ⟨front, back, hf, hb, rfl⟩ := Fallible.append_eq_ok.mp h
    exact (first.reads_back hf).bind (Reader.ReadsBack.map (second.reads_back hb) _)
  separate := by
    intro w form other rest tail hv hw same
    obtain ⟨front, back, hf, hb, rfl⟩ := Fallible.append_eq_ok.mp hv
    obtain ⟨front', back', hf', hb', rfl⟩ := Fallible.append_eq_ok.mp hw
    rw [List.append_assoc, List.append_assoc] at same
    obtain ⟨one, rfl⟩ := first.separate hf hf' same
    obtain ⟨two, rfl⟩ := second.separate hb hb' (List.append_cancel_left same)
    exact ⟨Prod.ext one two, rfl⟩

theorem Canonical.pair {c : Codec α} {e : Codec β} (first : c.Canonical) (second : e.Canonical) :
    (c.pair e).Canonical := by
  intro cursor v next h
  obtain ⟨a, middle, ha, h⟩ := Stateful.bind_eq_ok h
  obtain ⟨b, last, hb, h⟩ := Stateful.bind_eq_ok h
  cases h
  obtain ⟨front, written, front_rest⟩ := first _ _ _ ha
  obtain ⟨back, written', back_rest⟩ := second _ _ _ hb
  refine ⟨front ++ back, Fallible.append_eq_ok.mpr ⟨front, back, written, written', rfl⟩, ?_⟩
  rw [front_rest, back_rest, List.append_assoc]

theorem Conforms.pair {c : Codec α} {e : Codec β} {d : Domain α} {f : Domain β}
    (first : c.Conforms d) (second : e.Conforms f) : (c.pair e).Conforms (d.pair f) where
  carries v := (first.carries v.1).pair (second.carries v.2)
  canonical := first.canonical.pair second.canonical

theorem Conforms.pair_all {c : Codec α} {e : Codec β} (first : c.Conforms .all)
    (second : e.Conforms .all) : (c.pair e).Conforms .all :=
  (first.pair second).congr (by simp) (by simp) (by simp)

theorem Carries.map {c : Codec α} {d : Domain α} {make : α → β} {take : β → α} {b : β}
    (inverse : ∀ a, take (make a) = a) (h : c.Carries d (take b)) :
    (c.map make take).Carries (d.map make take) b where
  form_if := h.form_if
  normal := by
    change c.write (take (make (d.normal (take b)))) = c.write (take b)
    rw [inverse, h.normal]
  reads_back written := (h.reads_back written).map make
  separate written written' same :=
    have ⟨equal, forms⟩ := h.separate written written' same
    ⟨congrArg make equal, forms⟩

theorem Canonical.map {c : Codec α} {make : α → β} {take : β → α}
    (inverse : ∀ a, take (make a) = a) (canonical : c.Canonical) :
    (c.map make take).Canonical := by
  intro cursor b next h
  obtain ⟨a, read, rfl⟩ := Stateful.map_eq_ok h
  change ∃ form, c.write (take (make a)) = .ok form ∧ _
  rw [inverse]
  exact canonical _ _ _ read

theorem Conforms.map {c : Codec α} {d : Domain α} (h : c.Conforms d) {make : α → β} {take : β → α}
    (inverse : ∀ a, take (make a) = a) : (c.map make take).Conforms (d.map make take) where
  carries b := (h.carries (take b)).map inverse
  canonical := h.canonical.map inverse

theorem Conforms.map_all {c : Codec α} (h : c.Conforms .all) {make : α → β} {take : β → α}
    (take_make : ∀ a, take (make a) = a) (make_take : ∀ b, make (take b) = b) :
    (c.map make take).Conforms .all :=
  (h.map take_make).congr (by simp) (by simp) make_take

theorem items_cons (item : α → Fallible Bytes) (a : α) (v : List α) :
    Writer.items item (a :: v) =
      (do let front ← item a; return front ++ (← Writer.items item v)) := by
  simp [Writer.items]

/-- Items behind those that have been read already, the last of which is the first of `acc`. -/
theorem items_read_back {c : Codec α} {d : Domain α} {v : List α} {form : Bytes}
    (carries : ∀ a ∈ v, c.Carries d a) (written : Writer.items c.write v = .ok form)
    (acc : List α) : (Reader.items c.read acc v.length).ReadsBack form (∀ a ∈ v, d.Readable a)
      (acc.reverse ++ v.map d.normal) := by
  induction v generalizing form acc with
  | nil =>
    cases written
    have done : (pure acc.reverse : Reader (List α)).ReadsBack [] True acc.reverse :=
      .of_takes fun start => .pure acc.reverse start
    exact done.congr (by simp) (by simp)
  | cons a v ih =>
    rw [items_cons] at written
    rw [List.forall_mem_cons] at carries
    obtain ⟨front, back, first, others, rfl⟩ := Fallible.append_eq_ok.mp written
    have one := carries.1.reads_back first
    have rest := ih carries.2 others (d.normal a :: acc)
    refine (one.bind rest).congr ?_ ?_
    · simp only [List.forall_mem_cons]
    · simp only [List.reverse_cons, List.map_cons, List.append_assoc, List.singleton_append]

theorem items_form_if {c : Codec α} {d : Domain α} {v : List α}
    (carries : ∀ a ∈ v, c.Carries d a) :
    (Writer.items c.write v).FormIf (∀ a ∈ v, d.Fits a) := by
  induction v with
  | nil => exact (Fallible.FormIf.of_ok rfl).congr (by simp)
  | cons a v ih =>
    rw [List.forall_mem_cons] at carries
    rw [items_cons]
    exact (carries.1.form_if.append (ih carries.2)).congr List.forall_mem_cons.symm

theorem items_normal {c : Codec α} {d : Domain α} {v : List α}
    (carries : ∀ a ∈ v, c.Carries d a) :
    Writer.items c.write (v.map d.normal) = Writer.items c.write v := by
  induction v with
  | nil => rfl
  | cons a v ih =>
    rw [List.forall_mem_cons] at carries
    rw [List.map_cons, items_cons, items_cons, carries.1.normal, ih carries.2]

/-- As many items on both sides: each of them ends where its counterpart ends. -/
theorem items_separate {c : Codec α} {d : Domain α} {v w : List α}
    {form other rest tail : Bytes} (carries : ∀ a ∈ v, c.Carries d a)
    (size : v.length = w.length) (hv : Writer.items c.write v = .ok form)
    (hw : Writer.items c.write w = .ok other) (same : form ++ rest = other ++ tail) :
    v.map d.normal = w.map d.normal ∧ form = other := by
  induction v generalizing w form other with
  | nil =>
    obtain rfl : w = [] := List.length_eq_zero_iff.mp size.symm
    cases hv
    cases hw
    exact ⟨rfl, rfl⟩
  | cons a v ih =>
    obtain ⟨b, w, rfl⟩ := List.exists_cons_of_length_eq_add_one size.symm
    rw [items_cons] at hv hw
    rw [List.forall_mem_cons] at carries
    obtain ⟨front, back, hf, hb, rfl⟩ := Fallible.append_eq_ok.mp hv
    obtain ⟨front', back', hf', hb', rfl⟩ := Fallible.append_eq_ok.mp hw
    rw [List.append_assoc, List.append_assoc] at same
    obtain ⟨one, rfl⟩ := carries.1.separate hf hf' same
    obtain ⟨others, rfl⟩ :=
      ih carries.2 (Nat.succ.inj size) hb hb' (List.append_cancel_left same)
    exact ⟨by rw [List.map_cons, List.map_cons, one, others], rfl⟩

theorem items_canonical {c : Codec α} (h : c.Canonical) : ∀ {n : Nat} {acc v : List α}
    {cursor next : Cursor}, Reader.items c.read acc n cursor = .ok v next →
    ∃ w form, v = acc.reverse ++ w ∧ w.length = n ∧ Writer.items c.write w = .ok form ∧
      cursor.rest = form ++ next.rest
  | 0, acc, v, cursor, next, read => by
    cases read
    exact ⟨[], [], by simp, rfl, rfl, rfl⟩
  | n + 1, acc, v, cursor, next, read => by
    obtain ⟨a, after, first, others⟩ := Stateful.bind_eq_ok read
    obtain ⟨front, written, front_rest⟩ := h _ _ _ first
    obtain ⟨w, back, rfl, rfl, written', back_rest⟩ := items_canonical h others
    refine ⟨a :: w, front ++ back, by simp, rfl, ?_, ?_⟩
    · rw [items_cons]
      exact Fallible.append_eq_ok.mpr ⟨front, back, written, written', rfl⟩
    · rw [front_rest, back_rest, List.append_assoc]

theorem Carries.vector {c : Codec α} {d : Domain α} {v : List α} (h : ∀ a ∈ v, c.Carries d a) :
    c.vector.Carries d.vector v where
  form_if := (count_conforms.carries v.length).form_if.append (items_form_if h)
  normal := by
    change (do
      let counted ← Writer.length (v.map d.normal).length
      return counted ++ (← Writer.items c.write (v.map d.normal))) = _
    rw [items_normal h, List.length_map]
    rfl
  reads_back written := by
    obtain ⟨front, back, hf, hb, rfl⟩ := Fallible.append_eq_ok.mp written
    have counted := (count_conforms.carries v.length).reads_back hf
    exact (counted.bind (items_read_back h hb [])).congr (and_iff_right trivial) rfl
  separate := by
    intro w form other rest tail hv hw same
    obtain ⟨front, back, hf, hb, rfl⟩ := Fallible.append_eq_ok.mp hv
    obtain ⟨front', back', hf', hb', rfl⟩ := Fallible.append_eq_ok.mp hw
    rw [List.append_assoc, List.append_assoc] at same
    obtain ⟨size, rfl⟩ := (count_conforms.carries v.length).separate hf hf' same
    obtain ⟨equal, rfl⟩ := items_separate h size hb hb' (List.append_cancel_left same)
    exact ⟨equal, rfl⟩

theorem Canonical.vector {c : Codec α} (h : c.Canonical) : c.vector.Canonical := by
  intro cursor v next read
  obtain ⟨n, after, counted, read⟩ := Stateful.bind_eq_ok read
  obtain ⟨front, written, front_rest⟩ := Reader.length_eq_ok counted
  obtain ⟨w, back, rfl, rfl, written', back_rest⟩ := items_canonical h read
  refine ⟨front ++ back, Fallible.append_eq_ok.mpr ⟨front, back, written, written', rfl⟩, ?_⟩
  rw [front_rest, back_rest, List.append_assoc]

theorem Conforms.vector {c : Codec α} {d : Domain α} (h : c.Conforms d) :
    c.vector.Conforms d.vector where
  carries _ := .vector fun a _ => h.carries a
  canonical := h.canonical.vector

/-- Where all values fit, only the count of a list can be too large. -/
theorem Conforms.vector_all {c : Codec α} (h : c.Conforms .all) :
    c.vector.Conforms (.plain fun v => v.length < 2 ^ 32) :=
  h.vector.congr (by simp) (by simp) (by simp)

theorem Carries.option_none (c : Codec α) (d : Domain α) : c.option.Carries d.option none where
  form_if := (Fallible.FormIf.of_ok rfl).congr (iff_of_true trivial fun _ h => nomatch h)
  normal := rfl
  reads_back written := by
    cases written
    refine (Reader.ReadsBack.of_takes fun start => .offset_bind ?_).congr
      (iff_of_true trivial fun _ h => nomatch h) rfl
    exact (Reader.u8_takes start 0).bind_pure rfl
  separate := by
    intro w form other rest tail hv hw same
    cases hv
    cases w with
    | none => cases hw; exact ⟨rfl, rfl⟩
    | some b =>
      obtain ⟨back, -, rfl⟩ := Fallible.cons_eq_ok.mp hw
      exact absurd (List.cons.inj same).1 (by decide)

theorem Carries.option_some {c : Codec α} {d : Domain α} {a : α} (h : c.Carries d a) :
    c.option.Carries d.option (some a) where
  form_if := h.form_if.cons.congr (by simp [Domain.option])
  normal := by
    change (do return 1 :: (← c.write (d.normal a))) = _
    rw [h.normal]
    rfl
  reads_back h' := by
    obtain ⟨back, written, rfl⟩ := Fallible.cons_eq_ok.mp h'
    refine .offset_bind fun place => ?_
    have one := Reader.ReadsBack.of_takes fun start => Reader.u8_takes start 1
    have both := one.bind (k := fun b => if b = 0 then pure none else if b = 1 then
      some <$> c.read else throw (.invalid (.optionTag place b))) ((h.reads_back written).map some)
    exact both.congr (by simp [Domain.option]) rfl
  separate := by
    intro w form other rest tail hv hw same
    obtain ⟨back, written, rfl⟩ := Fallible.cons_eq_ok.mp hv
    cases w with
    | none => cases hw; exact absurd (List.cons.inj same).1 (by decide)
    | some b =>
      obtain ⟨back', written', rfl⟩ := Fallible.cons_eq_ok.mp hw
      obtain ⟨equal, rfl⟩ := h.separate written written' (List.cons.inj same).2
      exact ⟨congrArg some equal, rfl⟩

theorem Canonical.option {c : Codec α} (h : c.Canonical) : c.option.Canonical := by
  intro cursor v next run
  change Reader.option c.read cursor = _ at run
  rw [Reader.option, Reader.offset_bind] at run
  obtain ⟨b, after, byte, inner⟩ := Stateful.bind_eq_ok run
  have front := Reader.u8_eq_ok byte
  split at inner
  · next zero =>
    cases inner
    exact ⟨[0], rfl, by rw [front, zero]; rfl⟩
  · split at inner
    · next one =>
      obtain ⟨a, read, rfl⟩ := Stateful.map_eq_ok inner
      obtain ⟨back, written, back_rest⟩ := h _ _ _ read
      refine ⟨1 :: back, ?_, by rw [front, back_rest, one]; rfl⟩
      exact Fallible.cons_eq_ok.mpr ⟨back, written, rfl⟩
    · cases inner

theorem Conforms.option {c : Codec α} {d : Domain α} (h : c.Conforms d) :
    c.option.Conforms d.option where
  carries
    | none => .option_none c d
    | some a => (h.carries a).option_some
  canonical := h.canonical.option

theorem Conforms.option_all {c : Codec α} (h : c.Conforms .all) : c.option.Conforms .all :=
  h.option.congr (by simp) (by simp) (by simp)

end Codec

end MoveWire
