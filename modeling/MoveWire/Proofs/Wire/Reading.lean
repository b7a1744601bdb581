import MoveWire.Proofs.Fallible
import MoveWire.Wire.Writer

/-!
What readers do with the bytes of a form. A reader that takes a form reads exactly its bytes,
whatever follows them, and asks for more on every cut of the form; a reader that refuses a form
calls it invalid, whatever follows. Both are put together along the steps of a reader.
-/

namespace MoveWire

variable {α β : Type}

/-- Putting two forms one behind the other gives a form exactly when both are there. -/
theorem Fallible.append_eq_ok {x y : Fallible Bytes} {form : Bytes} :
    (do let front ← x; return front ++ (← y)) = .ok form ↔
      ∃ front back, x = .ok front ∧ y = .ok back ∧ form = front ++ back := by
  cases x <;> cases y <;> simp [bind, Except.bind, pure, Except.pure, eq_comm]

theorem Fallible.cons_eq_ok {b : UInt8} {x : Fallible Bytes} {form : Bytes} :
    (do return b :: (← x)) = .ok form ↔ ∃ back, x = .ok back ∧ form = b :: back := by
  cases x <;> simp [bind, Except.bind, pure, Except.pure, eq_comm]

namespace Reader

theorem offset_bind (k : Nat → Reader β) (cursor : Cursor) :
    (offset >>= k) cursor = k cursor.offset cursor := rfl

/-- The bytes end too soon: the error tells how far they reach and that more are needed. -/
def Starves (r : Reader α) (cursor : Cursor) : Prop :=
  ∃ place needed left next, r cursor = .error (.unexpectedEof place needed left) next ∧
    place + left = cursor.offset + cursor.rest.length ∧ left < needed

/-- From `start` on the reader gives `a` for this form, whatever follows, and every cut of the
form starves it. -/
structure Takes (r : Reader α) (start : Nat) (form : Bytes) (a : α) : Prop where
  whole : ∀ rest, r ⟨start, form ++ rest⟩ = .ok a ⟨start + form.length, rest⟩
  cut : ∀ n < form.length, r.Starves ⟨start, form.take n⟩

/-- From `start` on the reader calls this form invalid, whatever follows. -/
def Refuses (r : Reader α) (start : Nat) (form : Bytes) : Prop :=
  ∀ rest, ∃ cause next, r ⟨start, form ++ rest⟩ = .error (.invalid cause) next

theorem Starves.bind {r : Reader α} {cursor : Cursor} (h : r.Starves cursor)
    (k : α → Reader β) : (r >>= k).Starves cursor := by
  obtain ⟨place, needed, left, next, read, reach, short⟩ := h
  exact ⟨place, needed, left, next, Stateful.bind_error read k, reach, short⟩

theorem Takes.pure (a : α) (start : Nat) : (pure a : Reader α).Takes start [] a where
  whole _ := rfl
  cut n short := absurd short (Nat.not_lt_zero n)

theorem Takes.bind {r : Reader α} {k : α → Reader β} {start : Nat} {front back : Bytes} {a : α}
    {b : β} (first : r.Takes start front a) (second : (k a).Takes (start + front.length) back b) :
    (r >>= k).Takes start (front ++ back) b where
  whole rest := by
    rw [List.append_assoc, Stateful.bind_ok (first.whole _), second.whole, List.length_append,
      Nat.add_assoc]
  cut n short := by
    rw [List.take_append]
    by_cases inside : n < front.length
    · rw [show n - front.length = 0 by omega, List.take_zero, List.append_nil]
      exact (first.cut n inside).bind k
    · -- the first step is complete, so the cut lies in the second one
      rw [List.take_of_length_le (by omega)]
      have later : n - front.length < back.length := by
        rw [List.length_append] at short
        omega
      obtain ⟨place, needed, left, next, read, reach, missing⟩ := second.cut _ later
      refine ⟨place, needed, left, next, ?_, ?_, missing⟩
      · rw [Stateful.bind_ok (first.whole _), read]
      · simp only [List.length_append] at reach ⊢
        omega

/-- A step that takes no bytes changes what is given. -/
theorem Takes.bind_pure {r : Reader α} {k : α → Reader β} {start : Nat} {form : Bytes} {a : α}
    {b : β} (h : r.Takes start form a) (given : k a = Pure.pure b) :
    (r >>= k).Takes start form b := by
  have rest : (k a).Takes (start + form.length) [] b := given ▸ Takes.pure b _
  simpa using h.bind rest

theorem Takes.map {r : Reader α} {start : Nat} {form : Bytes} {a : α} (h : r.Takes start form a)
    (f : α → β) : (f <$> r).Takes start form (f a) := by
  rw [map_eq_pure_bind]
  exact h.bind_pure rfl

theorem Takes.offset_bind {k : Nat → Reader β} {start : Nat} {form : Bytes} {b : β}
    (h : (k start).Takes start form b) : (offset >>= k).Takes start form b where
  whole rest := h.whole rest
  cut n short := h.cut n short

theorem Refuses.offset_bind {k : Nat → Reader β} {start : Nat} {form : Bytes}
    (h : (k start).Refuses start form) : (offset >>= k).Refuses start form := h

theorem Refuses.bind {r : Reader α} {start : Nat} {front : Bytes} (h : r.Refuses start front)
    (k : α → Reader β) (back : Bytes) : (r >>= k).Refuses start (front ++ back) := by
  intro rest
  obtain ⟨cause, next, read⟩ := h (back ++ rest)
  exact ⟨cause, next, by rw [List.append_assoc, Stateful.bind_error read]⟩

theorem Refuses.map {r : Reader α} {start : Nat} {form : Bytes} (h : r.Refuses start form)
    (f : α → β) : (f <$> r).Refuses start form := by
  rw [map_eq_pure_bind]
  simpa using h.bind (fun a => Pure.pure (f a)) []

theorem Takes.refuses_bind {r : Reader α} {k : α → Reader β} {start : Nat} {front back : Bytes}
    {a : α} (first : r.Takes start front a) (second : (k a).Refuses (start + front.length) back) :
    (r >>= k).Refuses start (front ++ back) := by
  intro rest
  obtain ⟨cause, next, read⟩ := second rest
  exact ⟨cause, next, by rw [List.append_assoc, Stateful.bind_ok (first.whole _), read]⟩

/-- A value that is taken and then fails a check is refused. -/
theorem Takes.refuses_check {r : Reader α} {k : α → Reader β} {start : Nat} {form : Bytes} {a : α}
    {cause : InvalidCause} (h : r.Takes start form a) (check : k a = throw (.invalid cause)) :
    (r >>= k).Refuses start form := by
  intro rest
  exact ⟨cause, _, by rw [Stateful.bind_ok (h.whole rest), check]; rfl⟩

theorem raw_takes (start : Nat) (form : Bytes) : (raw form.length).Takes start form form where
  whole rest := by simp [raw]
  cut n short := by
    have less : (form.take n).length ≠ form.length := by
      rw [List.length_take]
      omega
    refine ⟨start, form.length, (form.take n).length, ⟨start, form.take n⟩, ?_, rfl, ?_⟩
    · simp only [raw]
      rw [List.take_of_length_le (by rw [List.length_take]; omega), if_neg less]
    · rw [List.length_take]
      omega

theorem raw_eq_ok {n : Nat} {cursor next : Cursor} {taken : Bytes}
    (h : raw n cursor = .ok taken next) :
    taken.length = n ∧ cursor.rest = taken ++ next.rest := by
  simp only [raw] at h
  split at h
  · next full =>
    cases h
    exact ⟨full, (List.take_append_drop n cursor.rest).symm⟩
  · cases h

theorem fixed_takes {n : Nat} (start : Nat) (v : FixedBytes n) :
    (fixed n).Takes start v.bytes v where
  whole rest := by
    obtain ⟨form, rfl⟩ := v
    simp [fixed]
  cut m short := by
    have less : (v.bytes.take m).length < n := by
      have := v.length_eq
      rw [List.length_take]
      omega
    refine ⟨start, n, (v.bytes.take m).length, ⟨start, v.bytes.take m⟩, ?_, rfl, less⟩
    have few : ((v.bytes.take m).take n).length ≠ n := by
      rw [List.length_take]
      omega
    simp only [fixed, dif_neg few]

theorem fixed_eq_ok {n : Nat} {cursor next : Cursor} {v : FixedBytes n}
    (h : fixed n cursor = .ok v next) : cursor.rest = v.bytes ++ next.rest := by
  simp only [fixed] at h
  split at h
  · cases h
    exact (List.take_append_drop n cursor.rest).symm
  · cases h

theorem u8_takes (start : Nat) (b : UInt8) : u8.Takes start [b] b where
  whole _ := rfl
  cut n short := by
    obtain rfl : n = 0 := by simpa using short
    exact ⟨start, 1, 0, _, rfl, rfl, Nat.one_pos⟩

theorem u8_eq_ok {cursor next : Cursor} {b : UInt8} (h : u8 cursor = .ok b next) :
    cursor.rest = b :: next.rest := by
  unfold u8 at h
  split at h
  · cases h
  · next read => cases h; exact read

/-- The lowest digits of a number, read back as the number that they are of. -/
theorem number_takes (width n start : Nat) (fits : n < 256 ^ width) :
    (number width).Takes start (Bytes.ofNat width n) n := by
  have h := (raw_takes start (Bytes.ofNat width n)).map Bytes.toNat
  rwa [Bytes.length_ofNat, Bytes.toNat_ofNat, Nat.mod_eq_of_lt fits] at h

theorem number_eq_ok {width n : Nat} {cursor next : Cursor} (h : number width cursor = .ok n next) :
    n < 256 ^ width ∧ cursor.rest = Bytes.ofNat width n ++ next.rest := by
  obtain ⟨taken, read, rfl⟩ := Stateful.map_eq_ok h
  obtain ⟨rfl, split⟩ := raw_eq_ok read
  exact ⟨Bytes.toNat_lt taken, by rw [Bytes.ofNat_toNat, split]⟩

theorem toNat_last {n : Nat} (small : n < 128) : (UInt8.ofNat n).toNat = n :=
  UInt8.toNat_ofNat_of_lt' (Nat.lt_trans small (by decide))

theorem toNat_more (n : Nat) : (UInt8.ofNat (n % 128 + 128)).toNat = n % 128 + 128 :=
  UInt8.toNat_ofNat_of_lt' (Nat.add_lt_add_right (Nat.mod_lt n (by decide)) 128)

/-- The groups behind a group of seven bits weigh 128 times as much. -/
theorem add_groups (value shift low high : Nat) :
    value + low * 2 ^ shift + high * 2 ^ (shift + 7) = value + (low + 128 * high) * 2 ^ shift := by
  rw [Nat.pow_add, Nat.add_mul, Nat.add_assoc]
  congr 2
  rw [show 2 ^ 7 = 128 from rfl]
  ac_rfl

theorem div_lt_pow {n k : Nat} (h : n < 128 ^ (k + 1)) : n / 128 < 128 ^ k := by
  rw [Nat.pow_succ'] at h
  exact Nat.div_lt_of_lt_mul h

private theorem uleb128From_last {value shift n : Nat} (mark left start : Nat) (small : n < 128)
    (behind : 0 < shift → n ≠ 0) (fits : value + n * 2 ^ shift < 2 ^ 32) :
    (uleb128From mark value shift (left + 1)).Takes start (Writer.uleb128Digits (left + 1) n)
      (UInt32.ofNat (value + n * 2 ^ shift)) := by
  have group := toNat_last small
  have last : UInt8.ofNat n < 128 := by rw [UInt8.lt_iff_toNat_lt, group]; exact small
  have first : ¬(0 < shift ∧ UInt8.ofNat n = 0) := by
    rintro ⟨later, zero⟩
    exact behind later (by rw [← group, zero]; rfl)
  have low : (UInt8.ofNat n).toNat % 128 = n := by omega
  rw [Writer.uleb128Digits, if_pos small]
  refine (u8_takes start (UInt8.ofNat n)).bind_pure ?_
  simp only [low, if_pos last, if_neg first, if_pos fits]

private theorem uleb128From_more {mark value shift left n start : Nat} {v : UInt32}
    (large : ¬n < 128)
    (h : (uleb128From mark (value + n % 128 * 2 ^ shift) (shift + 7) left).Takes (start + 1)
      (Writer.uleb128Digits left (n / 128)) v) :
    (uleb128From mark value shift (left + 1)).Takes start
      (Writer.uleb128Digits (left + 1) n) v := by
  have group := toNat_more n
  have more : ¬UInt8.ofNat (n % 128 + 128) < 128 := by
    rw [UInt8.lt_iff_toNat_lt, group]
    change ¬n % 128 + 128 < 128
    omega
  have low : (n % 128 + 128) % 128 = n % 128 := by omega
  rw [Writer.uleb128Digits, if_neg large]
  refine (u8_takes start (UInt8.ofNat (n % 128 + 128))).bind ?_
  simpa only [group, low, if_neg more, List.length_singleton] using h

/-- The groups of a number, read onto the value of the groups in front of them. Only a first group
may be zero, so `n` is not zero behind others. -/
theorem uleb128From_takes (mark left : Nat) : ∀ value shift n start : Nat, n < 128 ^ (left + 1) →
    (0 < shift → n ≠ 0) → value + n * 2 ^ shift < 2 ^ 32 →
    (uleb128From mark value shift (left + 1)).Takes start (Writer.uleb128Digits (left + 1) n)
      (UInt32.ofNat (value + n * 2 ^ shift)) := by
  induction left with
  | zero =>
    intro value shift n start room behind fits
    exact uleb128From_last mark 0 start (by simpa using room) behind fits
  | succ left ih =>
    intro value shift n start room behind fits
    by_cases small : n < 128
    · exact uleb128From_last mark (left + 1) start small behind fits
    · have sum : value + n % 128 * 2 ^ shift + n / 128 * 2 ^ (shift + 7) =
          value + n * 2 ^ shift := by
        rw [add_groups, Nat.mod_add_div]
      have h := ih (value + n % 128 * 2 ^ shift) (shift + 7) (n / 128) (start + 1)
        (div_lt_pow room) (fun _ => by omega) (by omega)
      rw [sum] at h
      exact uleb128From_more small h

/-- What is read as groups is the groups of some number, and no others. -/
theorem uleb128From_eq_ok (mark : Nat) : ∀ {left value shift : Nat} {cursor next : Cursor}
    {v : UInt32}, uleb128From mark value shift left cursor = .ok v next →
    ∃ n, v.toNat = value + n * 2 ^ shift ∧ (0 < shift → n ≠ 0) ∧
      cursor.rest = Writer.uleb128Digits left n ++ next.rest
  | 0, value, shift, cursor, next, v, h => by cases h
  | left + 1, value, shift, cursor, next, v, h => by
    obtain ⟨b, after, byte, h⟩ := Stateful.bind_eq_ok h
    have front := u8_eq_ok byte
    have bound := b.toNat_lt
    have group : UInt8.ofNat b.toNat = b := UInt8.ofNat_toNat
    simp only at h
    split at h
    · next last =>
      have small : b.toNat < 128 := UInt8.lt_iff_toNat_lt.mp last
      have low : b.toNat % 128 = b.toNat := by omega
      rw [low] at h
      split at h
      · cases h
      · next first =>
        split at h
        · next fits =>
          cases h
          refine ⟨b.toNat, UInt32.toNat_ofNat_of_lt' fits, fun later zero => ?_, ?_⟩
          · exact first ⟨later, by rw [← group, zero]; rfl⟩
          · rw [Writer.uleb128Digits, if_pos small, group, front]
            rfl
        · cases h
    · next more =>
      have large : 128 ≤ b.toNat :=
        Nat.le_of_not_lt fun small => more (UInt8.lt_iff_toNat_lt.mpr small)
      obtain ⟨n, sum, behind, back⟩ := uleb128From_eq_ok mark h
      have positive := behind (Nat.succ_pos _)
      refine ⟨b.toNat % 128 + 128 * n, ?_, fun _ => by omega, ?_⟩
      · rw [sum, add_groups]
      · have digit : (b.toNat % 128 + 128 * n) % 128 + 128 = b.toNat := by omega
        have high : (b.toNat % 128 + 128 * n) / 128 = n := by omega
        rw [Writer.uleb128Digits, if_neg (by omega), digit, high, group, front, back]
        rfl

theorem uleb128_takes (start : Nat) (v : UInt32) :
    uleb128.Takes start (Writer.uleb128 v) v := by
  have bound := v.toNat_lt
  have h := uleb128From_takes start 4 0 0 v.toNat start (by omega)
    (fun later => absurd later (Nat.lt_irrefl 0)) (by omega)
  have same : UInt32.ofNat (0 + v.toNat * 2 ^ 0) = v := by
    rw [Nat.zero_add, Nat.pow_zero, Nat.mul_one, UInt32.ofNat_toNat]
  rw [same] at h
  exact h.offset_bind

theorem uleb128_eq_ok {cursor next : Cursor} {v : UInt32} (h : uleb128 cursor = .ok v next) :
    cursor.rest = Writer.uleb128 v ++ next.rest := by
  obtain ⟨n, sum, -, form⟩ := uleb128From_eq_ok cursor.offset h
  rw [form, Writer.uleb128, sum, Nat.zero_add, Nat.pow_zero, Nat.mul_one]

theorem length_takes {n : Nat} {form : Bytes} (start : Nat) (h : Writer.length n = .ok form) :
    length.Takes start form n := by
  unfold Writer.length at h
  split at h
  · next fits =>
    cases h
    have read := (uleb128_takes start (UInt32.ofNat n)).map UInt32.toNat
    rwa [UInt32.toNat_ofNat_of_lt' fits] at read
  · cases h

theorem length_eq_ok {n : Nat} {cursor next : Cursor} (h : length cursor = .ok n next) :
    ∃ form, Writer.length n = .ok form ∧ cursor.rest = form ++ next.rest := by
  obtain ⟨v, read, rfl⟩ := Stateful.map_eq_ok h
  refine ⟨Writer.uleb128 v, ?_, uleb128_eq_ok read⟩
  rw [Writer.length, if_pos v.toNat_lt, UInt32.ofNat_toNat]

theorem tag_takes_form {width : TagWidth} {n : UInt32} {form : Bytes} (start : Nat)
    (h : Writer.tag width n = .ok form) : (tag width).Takes start form n.toNat := by
  cases width with
  | one =>
    simp only [Writer.tag] at h
    split at h
    · next small =>
      cases h
      have byte : n.toUInt8.toNat = n.toNat := by
        rw [UInt32.toNat_toUInt8]
        exact Nat.mod_eq_of_lt small
      have read := (u8_takes start n.toUInt8).map UInt8.toNat
      rwa [byte] at read
    · cases h
  | four =>
    cases h
    have read := ((number_takes 4 n.toNat start n.toNat_lt).map UInt32.ofNat).map UInt32.toNat
    rwa [UInt32.ofNat_toNat] at read

/-- Numbers of variants that fit one byte have a form at each width. -/
theorem tag_takes (width : TagWidth) {n : Nat} (small : n < 256) : ∃ form,
    Writer.tag width (UInt32.ofNat n) = .ok form ∧ ∀ start, (tag width).Takes start form n := by
  have value : (UInt32.ofNat n).toNat = n := UInt32.toNat_ofNat_of_lt' (by
    simp only [UInt32.size]
    omega)
  obtain ⟨form, written⟩ : ∃ form, Writer.tag width (UInt32.ofNat n) = .ok form := by
    cases width with
    | one => exact ⟨_, if_pos (by rw [value]; exact small)⟩
    | four => exact ⟨_, rfl⟩
  refine ⟨form, written, fun start => ?_⟩
  have read := tag_takes_form start written
  rwa [value] at read

theorem tag_eq_ok {width : TagWidth} {n : Nat} {cursor next : Cursor}
    (h : tag width cursor = .ok n next) :
    ∃ form, Writer.tag width (UInt32.ofNat n) = .ok form ∧ cursor.rest = form ++ next.rest := by
  cases width with
  | one =>
    obtain ⟨b, read, rfl⟩ := Stateful.map_eq_ok h
    have bound := b.toNat_lt
    have value : (UInt32.ofNat b.toNat).toNat = b.toNat := UInt32.toNat_ofNat_of_lt' (by
      simp only [UInt32.size]
      omega)
    have byte : (UInt32.ofNat b.toNat).toUInt8 = b := by
      apply UInt8.toNat_inj.mp
      rw [UInt32.toNat_toUInt8, value]
      exact Nat.mod_eq_of_lt bound
    refine ⟨[b], ?_, u8_eq_ok read⟩
    rw [Writer.tag, if_pos (by rw [value]; exact bound), byte]
  | four =>
    obtain ⟨v, read, rfl⟩ := Stateful.map_eq_ok h
    obtain ⟨m, digits, rfl⟩ := Stateful.map_eq_ok read
    obtain ⟨fits, front⟩ := number_eq_ok digits
    refine ⟨Writer.u32 (UInt32.ofNat m), ?_, ?_⟩
    · rw [UInt32.ofNat_toNat]
      rfl
    · rw [front, Writer.u32, UInt32.toNat_ofNat_of_lt' fits]
      rfl

end Reader

end MoveWire
