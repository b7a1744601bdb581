import MoveWire.Proofs.Wire.Codec

/-!
Decoding of whole byte strings. What is decoded is the form of what it is decoded as; a cut of it
ends too soon, and bytes behind it are left over.
-/

namespace MoveWire

variable {α : Type}

/-- Decoding tells these bytes from all shorter and all longer ones: a cut is asked for more, and
what stands behind them is refused by its length. -/
structure Codec.Frames (c : Codec α) (bytes : Bytes) : Prop where
  cut : ∀ n < bytes.length, ∃ place needed left,
    c.decode (bytes.take n) = .error (.unexpectedEof place needed left) ∧
      place + left = n ∧ left < needed
  behind : ∀ tail ≠ [], c.decode (bytes ++ tail) = .error (.trailingBytes tail.length)

namespace Reader

theorem readAll_of_ok {r : Reader α} {bytes : Bytes} {a : α} {next : Cursor}
    (h : r (Cursor.start bytes) = .ok a next) :
    r.readAll bytes =
      if next.rest.isEmpty then .ok a else .error (.trailingBytes next.rest.length) := by
  rw [readAll, Stateful.bind_ok h]
  by_cases done : next.rest.isEmpty <;> simp [finish, done, bind, EStateM.bind, pure, EStateM.pure]

theorem readAll_of_error {r : Reader α} {bytes : Bytes} {e : WireError} {next : Cursor}
    (h : r (Cursor.start bytes) = .error e next) : r.readAll bytes = .error e := by
  rw [readAll, Stateful.bind_error h]

theorem readAll_eq_ok {r : Reader α} {bytes : Bytes} {a : α} (h : r.readAll bytes = .ok a) :
    ∃ next, r (Cursor.start bytes) = .ok a next ∧ next.rest = [] := by
  cases read : r (Cursor.start bytes) with
  | ok b next =>
    rw [readAll_of_ok read] at h
    split at h
    · next done => cases h; exact ⟨next, rfl, List.isEmpty_iff.mp done⟩
    · cases h
  | error e next =>
    rw [readAll_of_error read] at h
    cases h

theorem readAll_map {β : Type} (f : α → β) (r : Reader α) (bytes : Bytes) :
    (f <$> r).readAll bytes = f <$> r.readAll bytes := by
  cases read : r (Cursor.start bytes) with
  | ok a next =>
    have mapped : (f <$> r) (Cursor.start bytes) = .ok (f a) next := by
      rw [map_eq_pure_bind, Stateful.bind_ok read]
      rfl
    rw [readAll_of_ok mapped, readAll_of_ok read]
    split <;> rfl
  | error e next =>
    rw [readAll_of_error (Stateful.map_error read f), readAll_of_error read]
    rfl

theorem Takes.readAll {r : Reader α} {form : Bytes} {a : α} (h : r.Takes 0 form a) :
    r.readAll form = .ok a := by
  have read := h.whole []
  rw [List.append_nil] at read
  exact readAll_of_ok read

theorem Refuses.readAll {r : Reader α} {form : Bytes} (h : r.Refuses 0 form) :
    ∃ cause, r.readAll form = .error (.invalid cause) := by
  obtain ⟨cause, next, read⟩ := h []
  rw [List.append_nil] at read
  exact ⟨cause, readAll_of_error read⟩

end Reader

theorem Codec.frames_of_takes {c : Codec α} {form : Bytes} {a : α} (h : c.read.Takes 0 form a) :
    c.Frames form where
  cut n short := by
    obtain ⟨place, needed, left, next, read, reach, missing⟩ := h.cut n short
    refine ⟨place, needed, left, Reader.readAll_of_error read, ?_, missing⟩
    simp only [List.length_take] at reach
    omega
  behind tail more := by
    rw [decode, Reader.readAll_of_ok (h.whole tail), if_neg]
    rwa [List.isEmpty_iff]

namespace Codec.Conforms

variable {c : Codec α} {d : Domain α}

theorem encode_of_decode (h : c.Conforms d) {bytes : Bytes} {a : α}
    (read : c.decode bytes = .ok a) : c.encode a = .ok bytes := by
  obtain ⟨next, run, done⟩ := Reader.readAll_eq_ok read
  obtain ⟨form, written, front⟩ := h.canonical _ _ _ run
  rw [done, List.append_nil] at front
  obtain rfl : bytes = form := front
  exact written

theorem decode_of_readable (h : c.Conforms d) {form : Bytes} {a : α}
    (written : c.encode a = .ok form) (readable : d.Readable a) :
    c.decode form = .ok (d.normal a) :=
  (h.takes written readable 0).readAll

theorem decode_of_unreadable (h : c.Conforms d) {form : Bytes} {a : α}
    (written : c.encode a = .ok form) (unreadable : ¬d.Readable a) :
    ∃ cause, c.decode form = .error (.invalid cause) :=
  (((h.carries a).reads_back written).2 unreadable 0).readAll

/-- What is decoded could not have been refused. -/
theorem readable_of_decode (h : c.Conforms d) {bytes : Bytes} {a : α}
    (read : c.decode bytes = .ok a) : d.Readable a := by
  refine Classical.byContradiction fun unreadable => ?_
  obtain ⟨cause, refused⟩ := h.decode_of_unreadable (h.encode_of_decode read) unreadable
  rw [read] at refused
  cases refused

/-- Decoding takes just the forms that can be read back. -/
theorem decode_eq_ok_iff (h : c.Conforms d) {bytes : Bytes} {a : α} (normal : d.normal a = a) :
    c.decode bytes = .ok a ↔ c.encode a = .ok bytes ∧ d.Readable a := by
  constructor
  · intro read
    exact ⟨h.encode_of_decode read, h.readable_of_decode read⟩
  · rintro ⟨written, readable⟩
    rw [h.decode_of_readable written readable, normal]

theorem frames_of_decode (h : c.Conforms d) {bytes : Bytes} {a : α}
    (read : c.decode bytes = .ok a) : c.Frames bytes :=
  frames_of_takes (h.takes (h.encode_of_decode read) (h.readable_of_decode read) 0)

/-- Two values have one form exactly when they are the same for the codec. -/
theorem encode_eq_iff (h : c.Conforms d) {a b : α} {form : Bytes}
    (written : c.encode a = .ok form) : c.encode b = .ok form ↔ d.normal a = d.normal b := by
  constructor
  · intro other
    have same : form ++ [] = form ++ [] := rfl
    exact ((h.carries a).separate written other same).1
  · intro same
    rw [← written]
    exact (h.carries b).normal.symm.trans ((congrArg c.write same.symm).trans (h.carries a).normal)

end Codec.Conforms

end MoveWire
