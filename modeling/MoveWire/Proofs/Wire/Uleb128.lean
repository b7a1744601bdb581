import MoveWire.Proofs.Wire.Reading

/-!
Numbers in groups of seven bits. A number is read exactly where the bytes go on with its own form,
which is the shortest of all groups that spell it; everything else is one of three faults: the bytes
end while groups are still to come, the groups spell too much, or the last one is zero for nothing.
-/

namespace MoveWire.Uleb128

/-- Groups that spell a number, lowest first; in each but the last the top bit is set. -/
inductive Spells : Bytes → Nat → Prop
  | last {b : UInt8} (stop : b.toNat < 128) : Spells [b] b.toNat
  | more {b : UInt8} {form : Bytes} {n : Nat} (goes_on : 128 ≤ b.toNat) (rest : Spells form n) :
      Spells (b :: form) (b.toNat - 128 + 128 * n)

/-- There are fewer than five bytes, and in all of them the top bit is set. -/
structure EndsEarly (bytes : Bytes) : Prop where
  few : bytes.length < 5
  go_on : ∀ b ∈ bytes, 128 ≤ b.toNat

/-- The top bit is set in five bytes, or the fifth ends a number of more than 32 bits. -/
inductive TooLarge : Bytes → Prop
  | endless {front rest : Bytes} (five : front.length = 5) (go_on : ∀ b ∈ front, 128 ≤ b.toNat) :
      TooLarge (front ++ rest)
  | beyond {form rest : Bytes} {n : Nat} (spelled : Spells form n) (five : form.length = 5)
      (large : 2 ^ 32 ≤ n) : TooLarge (form ++ rest)

/-- The last group is zero, although it is not the first. -/
inductive Padded : Bytes → Prop
  | zero {form rest : Bytes} {n : Nat} (spelled : Spells form n) (few : form.length ≤ 5)
      (later : 1 < form.length) (last : form.getLast? = some 0) : Padded (form ++ rest)

theorem Spells.length_pos {form : Bytes} {n : Nat} (h : Spells form n) : 0 < form.length := by
  cases h with
  | last => exact Nat.one_pos
  | more => exact Nat.succ_pos _

theorem Spells.lt_pow {form : Bytes} {n : Nat} (h : Spells form n) : n < 128 ^ form.length := by
  induction h with
  | last stop => simpa using stop
  | @more b form n goes_on _ ih =>
    have bound := b.toNat_lt
    rw [List.length_cons, Nat.pow_succ]
    omega

/-- A zero behind other groups adds nothing. -/
theorem Spells.lt_pow_of_zero {form : Bytes} {n : Nat} (h : Spells form n)
    (zero : form.getLast? = some 0) : n < 128 ^ (form.length - 1) := by
  induction h with
  | @last b stop =>
    obtain rfl : b = 0 := by simpa using zero
    decide
  | @more b form n goes_on rest ih =>
    have filled : form ≠ [] := List.ne_nil_of_length_pos rest.length_pos
    have positive := rest.length_pos
    have bound := b.toNat_lt
    rw [List.getLast?_cons_of_ne_nil filled] at zero
    have small := ih zero
    obtain ⟨k, size⟩ : ∃ k, form.length = k + 1 := ⟨form.length - 1, by omega⟩
    rw [size] at small
    rw [List.length_cons, size]
    simp only [Nat.add_sub_cancel] at small ⊢
    rw [Nat.pow_succ]
    omega

theorem spells_single {n left : Nat} (small : n < 128) :
    Spells (Writer.uleb128Digits (left + 1) n) n := by
  have group := Reader.toNat_last small
  have h := Spells.last (b := UInt8.ofNat n) (by rwa [group])
  rw [group] at h
  rwa [Writer.uleb128Digits, if_pos small]

theorem spells_digits (left : Nat) : ∀ {n : Nat}, n < 128 ^ (left + 1) →
    Spells (Writer.uleb128Digits (left + 1) n) n := by
  induction left with
  | zero =>
    intro n fits
    exact spells_single (by simpa using fits)
  | succ left ih =>
    intro n fits
    by_cases small : n < 128
    · exact spells_single small
    · have group := Reader.toNat_more n
      have h := Spells.more (b := UInt8.ofNat (n % 128 + 128)) (by omega)
        (ih (Reader.div_lt_pow fits))
      rw [group, show n % 128 + 128 - 128 + 128 * (n / 128) = n by omega] at h
      rwa [Writer.uleb128Digits, if_neg small]

/-- As many groups suffice as the number has digits of base 128. -/
theorem length_digits_le (left : Nat) : ∀ {n k : Nat}, n < 128 ^ (k + 1) →
    (Writer.uleb128Digits left n).length ≤ k + 1 := by
  induction left with
  | zero => exact fun _ => Nat.zero_le _
  | succ left ih =>
    intro n k fits
    by_cases small : n < 128
    · rw [Writer.uleb128Digits, if_pos small]
      exact Nat.succ_le_succ (Nat.zero_le k)
    · cases k with
      | zero => exact absurd (by simpa using fits) small
      | succ k =>
        rw [Writer.uleb128Digits, if_neg small, List.length_cons]
        exact Nat.succ_le_succ (ih (Reader.div_lt_pow fits))

theorem uleb128_spells (v : UInt32) : Spells (Writer.uleb128 v) v.toNat :=
  spells_digits 4 (Nat.lt_of_lt_of_le v.toNat_lt (by decide))

/-- No groups that spell the number are fewer than those of its form. -/
theorem length_uleb128_le {form : Bytes} {v : UInt32} (h : Spells form v.toNat) :
    (Writer.uleb128 v).length ≤ form.length := by
  obtain ⟨k, size⟩ : ∃ k, form.length = k + 1 := ⟨form.length - 1, by
    have := h.length_pos
    omega⟩
  have fits := h.lt_pow
  rw [size] at fits ⊢
  exact length_digits_le 5 fits

section Reading

variable {mark value shift left offset : Nat}

theorem uleb128From_stop {b : UInt8} (stop : b.toNat < 128) (rest : Bytes) :
    Reader.uleb128From mark value shift (left + 1) ⟨offset, b :: rest⟩ =
      if 0 < shift ∧ b = 0 then .error (.invalid (.longUleb128 mark)) ⟨offset + 1, rest⟩
      else if value + b.toNat * 2 ^ shift < 2 ^ 32 then
        .ok (.ofNat (value + b.toNat * 2 ^ shift)) ⟨offset + 1, rest⟩
      else .error (.overflow mark) ⟨offset + 1, rest⟩ := by
  have byte : Reader.u8 ⟨offset, b :: rest⟩ = .ok b ⟨offset + 1, rest⟩ := rfl
  have small : b < 128 := UInt8.lt_iff_toNat_lt.mpr stop
  have low : b.toNat % 128 = b.toNat := Nat.mod_eq_of_lt stop
  rw [Reader.uleb128From, Stateful.bind_ok byte]
  simp only [low, if_pos small]
  split_ifs <;> rfl

theorem uleb128From_go_on {b : UInt8} (goes_on : 128 ≤ b.toNat) (rest : Bytes) :
    Reader.uleb128From mark value shift (left + 1) ⟨offset, b :: rest⟩ =
      Reader.uleb128From mark (value + (b.toNat - 128) * 2 ^ shift) (shift + 7) left
        ⟨offset + 1, rest⟩ := by
  have byte : Reader.u8 ⟨offset, b :: rest⟩ = .ok b ⟨offset + 1, rest⟩ := rfl
  have bound := b.toNat_lt
  have large : ¬b < 128 := fun small => by
    have := UInt8.lt_iff_toNat_lt.mp small
    change b.toNat < 128 at this
    omega
  have low : b.toNat % 128 = b.toNat - 128 := by omega
  rw [Reader.uleb128From, Stateful.bind_ok byte]
  simp only [low, if_neg large]

/-- Groups that spell a number are read onto the value of the groups in front of them. -/
theorem uleb128From_spelled {form : Bytes} {n : Nat} (h : Spells form n) (rest : Bytes) :
    ∀ {value shift left offset : Nat}, form.length ≤ left →
    Reader.uleb128From mark value shift left ⟨offset, form ++ rest⟩ =
      if (0 < shift ∨ 1 < form.length) ∧ form.getLast? = some 0 then
        .error (.invalid (.longUleb128 mark)) ⟨offset + form.length, rest⟩
      else if value + n * 2 ^ shift < 2 ^ 32 then
        .ok (.ofNat (value + n * 2 ^ shift)) ⟨offset + form.length, rest⟩
      else .error (.overflow mark) ⟨offset + form.length, rest⟩ := by
  induction h with
  | @last b stop =>
    intro value shift left offset room
    obtain ⟨left, rfl⟩ : ∃ k, left = k + 1 := ⟨left - 1, by simp at room; omega⟩
    rw [List.singleton_append, uleb128From_stop stop]
    simp
  | @more b form n goes_on spelled ih =>
    intro value shift left offset room
    rw [List.length_cons] at room
    obtain ⟨left, rfl⟩ : ∃ k, left = k + 1 := ⟨left - 1, by omega⟩
    have positive := spelled.length_pos
    have filled : form ≠ [] := List.ne_nil_of_length_pos positive
    have before : (0 < shift + 7 ∨ 1 < form.length) ↔ True := iff_true_intro (.inl (by omega))
    have behind : (0 < shift ∨ 1 < form.length + 1) ↔ True := iff_true_intro (.inr (by omega))
    rw [List.cons_append, uleb128From_go_on goes_on, ih (Nat.le_of_succ_le_succ room),
      Reader.add_groups, List.getLast?_cons_of_ne_nil filled, List.length_cons]
    simp only [before, behind, Nat.add_assoc, Nat.add_comm 1]

theorem uleb128From_ended {bytes : Bytes} (go_on : ∀ b ∈ bytes, 128 ≤ b.toNat) :
    ∀ {value shift left offset : Nat}, bytes.length < left →
    Reader.uleb128From mark value shift left ⟨offset, bytes⟩ =
      .error (.unexpectedEof (offset + bytes.length) 1 0) ⟨offset + bytes.length, []⟩ := by
  induction bytes with
  | nil =>
    intro value shift left offset room
    obtain ⟨left, rfl⟩ : ∃ k, left = k + 1 := ⟨left - 1, by simp at room; omega⟩
    rfl
  | cons b bytes ih =>
    intro value shift left offset room
    rw [List.length_cons] at room
    obtain ⟨left, rfl⟩ : ∃ k, left = k + 1 := ⟨left - 1, by omega⟩
    obtain ⟨first, others⟩ := List.forall_mem_cons.mp go_on
    rw [uleb128From_go_on first, ih others (Nat.lt_of_succ_lt_succ room), List.length_cons]
    simp only [Nat.add_assoc, Nat.add_comm 1]

theorem uleb128From_endless {front : Bytes} (go_on : ∀ b ∈ front, 128 ≤ b.toNat) (rest : Bytes) :
    ∀ {value shift offset : Nat},
    Reader.uleb128From mark value shift front.length ⟨offset, front ++ rest⟩ =
      .error (.overflow mark) ⟨offset + front.length, rest⟩ := by
  induction front with
  | nil => exact rfl
  | cons b front ih =>
    intro value shift offset
    obtain ⟨first, others⟩ := List.forall_mem_cons.mp go_on
    rw [List.length_cons, List.cons_append, uleb128From_go_on first, ih others]
    simp only [Nat.add_assoc, Nat.add_comm 1]

end Reading

/-- The first bytes spell a number in at most `left` groups, unless the top bit is set in all of
the first `left` bytes. -/
theorem spells_or_goes_on (left : Nat) : ∀ bytes : Bytes,
    (∃ form rest n, bytes = form ++ rest ∧ Spells form n ∧ form.length ≤ left) ∨
    (bytes.length < left ∧ ∀ b ∈ bytes, 128 ≤ b.toNat) ∨
    ∃ front rest, bytes = front ++ rest ∧ front.length = left ∧ ∀ b ∈ front, 128 ≤ b.toNat := by
  induction left with
  | zero => exact fun bytes => .inr (.inr ⟨[], bytes, rfl, rfl, nofun⟩)
  | succ left ih =>
    intro bytes
    cases bytes with
    | nil => exact .inr (.inl ⟨Nat.succ_pos left, nofun⟩)
    | cons b bytes =>
      by_cases stop : b.toNat < 128
      · exact .inl ⟨[b], bytes, _, rfl, .last stop, by simp⟩
      · have goes_on : 128 ≤ b.toNat := Nat.le_of_not_lt stop
        rcases ih bytes with ⟨form, rest, n, rfl, spelled, room⟩ | ⟨few, all⟩ |
          ⟨front, rest, rfl, full, all⟩
        · exact .inl ⟨b :: form, rest, _, rfl, .more goes_on spelled, Nat.succ_le_succ room⟩
        · exact .inr (.inl ⟨Nat.succ_lt_succ few, List.forall_mem_cons.mpr ⟨goes_on, all⟩⟩)
        · exact .inr (.inr ⟨b :: front, rest, rfl, congrArg (· + 1) full,
            List.forall_mem_cons.mpr ⟨goes_on, all⟩⟩)

section Whole

variable {cursor : Cursor}

theorem uleb128_spelled {form rest : Bytes} {n : Nat} (h : Spells form n)
    (front : cursor.rest = form ++ rest) (few : form.length ≤ 5) :
    Reader.uleb128 cursor =
      if 1 < form.length ∧ form.getLast? = some 0 then
        .error (.invalid (.longUleb128 cursor.offset)) ⟨cursor.offset + form.length, rest⟩
      else if n < 2 ^ 32 then .ok (.ofNat n) ⟨cursor.offset + form.length, rest⟩
      else .error (.overflow cursor.offset) ⟨cursor.offset + form.length, rest⟩ := by
  obtain ⟨offset, _⟩ := cursor
  obtain rfl := front
  have read : Reader.uleb128From offset 0 0 5 ⟨offset, form ++ rest⟩ = _ :=
    uleb128From_spelled h rest few
  simp only [Nat.lt_irrefl, false_or, Nat.zero_add, Nat.pow_zero, Nat.mul_one] at read
  exact read

theorem uleb128_of_endsEarly (h : EndsEarly cursor.rest) : Reader.uleb128 cursor =
    .error (.unexpectedEof (cursor.offset + cursor.rest.length) 1 0)
      ⟨cursor.offset + cursor.rest.length, []⟩ :=
  uleb128From_ended h.go_on h.few

theorem uleb128_of_padded (h : Padded cursor.rest) :
    ∃ next, Reader.uleb128 cursor = .error (.invalid (.longUleb128 cursor.offset)) next := by
  obtain ⟨offset, bytes⟩ := cursor
  obtain ⟨spelled, few, later, last⟩ := h
  rw [uleb128_spelled spelled rfl few, if_pos ⟨later, last⟩]
  exact ⟨_, rfl⟩

theorem uleb128_of_tooLarge (h : TooLarge cursor.rest) :
    ∃ next, Reader.uleb128 cursor = .error (.overflow cursor.offset) next := by
  obtain ⟨offset, bytes⟩ := cursor
  cases h with
  | @endless front rest five go_on =>
    have read : Reader.uleb128From offset 0 0 front.length ⟨offset, front ++ rest⟩ = _ :=
      uleb128From_endless go_on rest
    rw [five] at read
    exact ⟨_, read⟩
  | @beyond form rest n spelled five large =>
    have unpadded : ¬(1 < form.length ∧ form.getLast? = some 0) := by
      rintro ⟨-, zero⟩
      have small := spelled.lt_pow_of_zero zero
      rw [five] at small
      omega
    rw [uleb128_spelled spelled rfl (Nat.le_of_eq five), if_neg unpadded,
      if_neg (Nat.not_lt.mpr large)]
    exact ⟨_, rfl⟩

/-- Every byte string goes on with the form of a number or has one of the three faults. -/
theorem form_or_fault (bytes : Bytes) : (∃ v rest, bytes = Writer.uleb128 v ++ rest) ∨
    EndsEarly bytes ∨ TooLarge bytes ∨ Padded bytes := by
  rcases spells_or_goes_on 5 bytes with ⟨form, rest, n, rfl, spelled, few⟩ | ⟨few, all⟩ |
    ⟨front, rest, rfl, five, all⟩
  · by_cases padded : 1 < form.length ∧ form.getLast? = some 0
    · exact .inr (.inr (.inr (.zero spelled few padded.1 padded.2)))
    · by_cases fits : n < 2 ^ 32
      · have read : Reader.uleb128 ⟨0, form ++ rest⟩ = _ := uleb128_spelled spelled rfl few
        rw [if_neg padded, if_pos fits] at read
        exact .inl ⟨_, _, Reader.uleb128_eq_ok read⟩
      · have five : form.length = 5 := by
          -- four groups hold no more than 28 bits
          by_contra other
          have small := spelled.lt_pow
          have most : 128 ^ form.length ≤ 128 ^ 4 := Nat.pow_le_pow_right (by decide) (by omega)
          omega
        exact .inr (.inr (.inl (.beyond spelled five (Nat.le_of_not_lt fits))))
  · exact .inr (.inl ⟨few, all⟩)
  · exact .inr (.inr (.inl (.endless five all)))

theorem uleb128_eq_ok_iff {v : UInt32} {next : Cursor} :
    Reader.uleb128 cursor = .ok v next ↔ cursor.rest = Writer.uleb128 v ++ next.rest ∧
      next.offset = cursor.offset + (Writer.uleb128 v).length := by
  have whole (rest : Bytes) (front : cursor.rest = Writer.uleb128 v ++ rest) :
      Reader.uleb128 cursor = .ok v ⟨cursor.offset + (Writer.uleb128 v).length, rest⟩ := by
    obtain ⟨offset, _⟩ := cursor
    obtain rfl := front
    exact (Reader.uleb128_takes offset v).whole rest
  constructor
  · intro read
    have front := Reader.uleb128_eq_ok read
    rw [whole next.rest front] at read
    exact ⟨front, congrArg Cursor.offset (EStateM.Result.ok.inj read).2.symm⟩
  · rintro ⟨front, reach⟩
    rw [whole next.rest front, ← reach]

/-- A refusal is for the one fault that the bytes have. -/
theorem fault_of_error {e : WireError} {next : Cursor}
    (read : Reader.uleb128 cursor = .error e next) :
    (EndsEarly cursor.rest ∧ e = .unexpectedEof (cursor.offset + cursor.rest.length) 1 0) ∨
    (TooLarge cursor.rest ∧ e = .overflow cursor.offset) ∨
    (Padded cursor.rest ∧ e = .invalid (.longUleb128 cursor.offset)) := by
  rcases form_or_fault cursor.rest with ⟨v, rest, front⟩ | early | large | padded
  · have whole : Reader.uleb128 cursor = .ok v ⟨_, rest⟩ := uleb128_eq_ok_iff.mpr ⟨front, rfl⟩
    rw [whole] at read
    cases read
  · rw [uleb128_of_endsEarly early] at read
    exact .inl ⟨early, (EStateM.Result.error.inj read).1.symm⟩
  · obtain ⟨_, refused⟩ := uleb128_of_tooLarge large
    rw [refused] at read
    exact .inr (.inl ⟨large, (EStateM.Result.error.inj read).1.symm⟩)
  · obtain ⟨_, refused⟩ := uleb128_of_padded padded
    rw [refused] at read
    exact .inr (.inr ⟨padded, (EStateM.Result.error.inj read).1.symm⟩)

end Whole

/-- A number is read, and its bytes are passed, exactly where its own form goes on, which has one
to five groups and is the shortest that spells it. All other bytes end early, spell too much, or
have a zero for nothing at the end, and are refused as such. -/
theorem read_exactly_written_form (cursor : Cursor) :
    (∀ v next, Reader.uleb128 cursor = .ok v next ↔
      cursor.rest = Writer.uleb128 v ++ next.rest ∧
        next.offset = cursor.offset + (Writer.uleb128 v).length) ∧
    (∀ v : UInt32, Spells (Writer.uleb128 v) v.toNat ∧ 1 ≤ (Writer.uleb128 v).length ∧
      (Writer.uleb128 v).length ≤ 5 ∧
      ∀ form, Spells form v.toNat → (Writer.uleb128 v).length ≤ form.length) ∧
    ((∃ next, Reader.uleb128 cursor =
        .error (.unexpectedEof (cursor.offset + cursor.rest.length) 1 0) next) ↔
      EndsEarly cursor.rest) ∧
    ((∃ next, Reader.uleb128 cursor = .error (.overflow cursor.offset) next) ↔
      TooLarge cursor.rest) ∧
    ((∃ next, Reader.uleb128 cursor = .error (.invalid (.longUleb128 cursor.offset)) next) ↔
      Padded cursor.rest) ∧
    ((∃ v rest, cursor.rest = Writer.uleb128 v ++ rest) ∨ EndsEarly cursor.rest ∨
      TooLarge cursor.rest ∨ Padded cursor.rest) := by
  refine ⟨fun v next => uleb128_eq_ok_iff, fun v => ?_, ⟨?_, ?_⟩, ⟨?_, uleb128_of_tooLarge⟩,
    ⟨?_, uleb128_of_padded⟩, form_or_fault cursor.rest⟩
  · have spelled := uleb128_spells v
    have most := length_digits_le 5 (k := 4) (Nat.lt_of_lt_of_le v.toNat_lt (by decide))
    exact ⟨spelled, spelled.length_pos, most, fun form other => length_uleb128_le other⟩
  · rintro ⟨next, read⟩
    rcases fault_of_error read with ⟨early, -⟩ | ⟨-, other⟩ | ⟨-, other⟩
    · exact early
    · cases other
    · cases other
  · intro early
    exact ⟨_, uleb128_of_endsEarly early⟩
  · rintro ⟨next, read⟩
    rcases fault_of_error read with ⟨-, other⟩ | ⟨large, -⟩ | ⟨-, other⟩
    · cases other
    · exact large
    · cases other
  · rintro ⟨next, read⟩
    rcases fault_of_error read with ⟨-, other⟩ | ⟨-, other⟩ | ⟨padded, -⟩
    · cases other
    · cases other
    · exact padded

/-- Two groups spell 300, and so do three, which are refused. -/
theorem three_hundred_read_in_two_groups :
    let padded : Bytes := [0xAC, 0x82, 0x00]
    Reader.uleb128 ⟨1, [0xAC, 0x02, 0x07]⟩ = .ok 300 ⟨3, [0x07]⟩ ∧
      Spells padded 300 ∧ (Writer.uleb128 300).length ≤ padded.length ∧
      ∃ next, Reader.uleb128 ⟨0, padded⟩ = .error (.invalid (.longUleb128 0)) next := by
  intro padded
  have spelled : Spells padded 300 :=
    .more (b := 0xAC) (by decide) (.more (b := 0x82) (by decide) (.last (b := 0x00) (by decide)))
  have zero : Padded padded := @Padded.zero padded [] 300 spelled (by decide) (by decide) rfl
  obtain ⟨reads, forms, -⟩ := read_exactly_written_form ⟨1, [0xAC, 0x02, 0x07]⟩
  obtain ⟨-, -, -, -, refusals, -⟩ := read_exactly_written_form ⟨0, padded⟩
  exact ⟨(reads 300 ⟨3, [0x07]⟩).mpr ⟨rfl, rfl⟩, spelled, (forms 300).2.2.2 padded spelled,
    refusals.mpr zero⟩

end MoveWire.Uleb128
