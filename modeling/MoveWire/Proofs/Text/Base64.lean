import Mathlib.Tactic.IntervalCases
import MoveWire.Proofs.Text.Hex
import MoveWire.Text.Base64

/-!
Base64 text is read as the bytes that it was written from. Whole groups are read one by one; what
is left over, one to three bytes, makes the last group, whose padding fills it up.
-/

namespace MoveWire.Text.Base64

theorem value?_symbol {n : UInt8} (h : n < 64) : value? (symbol n) = some n :=
  forall_byte_lt (p := fun n => value? (symbol n) = some n) (by decide) h

theorem symbol_ne_pad {n : UInt8} (h : n < 64) : symbol n ≠ pad := by
  intro same
  have read := value?_symbol h
  rw [same] at read
  cases read

theorem symbol_eq_iff {n m : UInt8} (hn : n < 64) (hm : m < 64) : symbol n = symbol m ↔ n = m := by
  constructor
  · intro same
    have read := value?_symbol hn
    rw [same, value?_symbol hm] at read
    exact (Option.some.inj read).symm
  · rintro rfl
    rfl

theorem eq_of_bits {a b : UInt8} (h : ∀ i < 8, a.toBitVec.getLsbD i = b.toBitVec.getLsbD i) :
    a = b :=
  UInt8.eq_of_toBitVec_eq (BitVec.eq_of_getLsbD_eq h)

theorem lt_of_shiftRight_eq {n : UInt8} (h : n >>> 6 = 0) : n < 64 := by
  have high := congrArg UInt8.toNat h
  simp [Nat.shiftRight_eq_div_pow] at high
  simpa [UInt8.lt_iff_toNat_lt] using high

/-- The values of the symbols that some bytes are written by. -/
def values : List UInt8 → List UInt8
  | [] => []
  | [a] => [a >>> 2, (a &&& 3) <<< 4]
  | [a, b] => [a >>> 2, (a &&& 3) <<< 4 ||| b >>> 4, (b &&& 15) <<< 2]
  | a :: b :: c :: rest =>
    a >>> 2 :: ((a &&& 3) <<< 4 ||| b >>> 4) :: ((b &&& 15) <<< 2 ||| c >>> 6) :: (c &&& 63) ::
      values rest

/-- Each byte that is missing to a whole group is made up for by one padding. -/
theorem encodeBytes_eq (bytes : List UInt8) :
    encodeBytes bytes = (values bytes).map symbol ++ List.replicate (2 * bytes.length % 3) pad := by
  induction bytes using encodeBytes.induct with
  | case1 => simp [encodeBytes, values]
  | case2 a => simp [encodeBytes, values, List.replicate]
  | case3 a b => simp [encodeBytes, values]
  | case4 a b c rest ih =>
    have pads : 2 * (a :: b :: c :: rest).length % 3 = 2 * rest.length % 3 := by
      simp only [List.length_cons]
      omega
    rw [encodeBytes, values, ih, pads]
    rfl

theorem length_values (bytes : List UInt8) :
    (values bytes).length = (4 * bytes.length + 2) / 3 := by
  induction bytes using values.induct with
  | case1 => simp [values]
  | case2 a => simp [values]
  | case3 a b => simp [values]
  | case4 a b c rest ih =>
    simp only [values, List.length_cons, ih]
    omega

theorem length_encodeBytes (bytes : List UInt8) :
    (encodeBytes bytes).length = (bytes.length + 2) / 3 * 4 := by
  induction bytes using encodeBytes.induct with
  | case1 => simp [encodeBytes]
  | case2 a => simp [encodeBytes]
  | case3 a b => simp [encodeBytes]
  | case4 a b c rest ih =>
    simp only [encodeBytes, List.length_cons, ih]
    omega

/-- What a group of three bytes is cut into has six bits each. -/
theorem cuts_lt (a b c : UInt8) :
    a >>> 2 < 64 ∧ ((a &&& 3) <<< 4 ||| b >>> 4) < 64 ∧ ((b &&& 15) <<< 2 ||| c >>> 6) < 64 ∧
      c &&& 63 < 64 := by
  refine ⟨?_, ?_, ?_, ?_⟩
  all_goals
    refine lt_of_shiftRight_eq (eq_of_bits fun i bound => ?_)
    interval_cases i <;> simp

theorem values_lt {bytes : List UInt8} : ∀ v ∈ values bytes, v < 64 := by
  induction bytes using values.induct with
  | case1 => simp [values]
  | case2 a => simpa [values] using cuts_lt a 0 0
  | case3 a b => simpa [values] using cuts_lt a b 0
  | case4 a b c rest ih =>
    obtain ⟨first, second, third, fourth⟩ := cuts_lt a b c
    simp only [values, List.forall_mem_cons]
    exact ⟨first, second, third, fourth, ih⟩

theorem join_first (a b : UInt8) : a >>> 2 <<< 2 ||| ((a &&& 3) <<< 4 ||| b >>> 4) >>> 4 = a := by
  refine eq_of_bits fun i bound => ?_
  interval_cases i <;> simp

theorem join_second (a b c : UInt8) :
    ((a &&& 3) <<< 4 ||| b >>> 4) <<< 4 ||| ((b &&& 15) <<< 2 ||| c >>> 6) >>> 2 = b := by
  refine eq_of_bits fun i bound => ?_
  interval_cases i <;> simp

theorem join_third (b c : UInt8) : ((b &&& 15) <<< 2 ||| c >>> 6) <<< 6 ||| c &&& 63 = c := by
  refine eq_of_bits fun i bound => ?_
  interval_cases i <;> simp

/-- The second value ends with the high half of the second byte. -/
theorem second_half (a b : UInt8) : ((a &&& 3) <<< 4 ||| b >>> 4) &&& (15 : UInt8) = b >>> 4 := by
  refine eq_of_bits fun i bound => ?_
  interval_cases i <;> simp

theorem joinGroups_values {bytes : List UInt8} (whole : 3 ∣ bytes.length) :
    joinGroups (values bytes) = bytes := by
  induction bytes using values.induct with
  | case1 => simp [values, joinGroups]
  | case2 a => simp at whole
  | case3 a b => simp at whole
  | case4 a b c rest ih =>
    have others : 3 ∣ rest.length := by simpa using whole
    rw [values, joinGroups, join_first, join_second, join_third, ih others]

theorem unused_one (a : UInt8) : (a &&& 3) <<< 4 &&& 15 = 0 := by
  refine eq_of_bits fun i bound => ?_
  interval_cases i <;> simp

theorem unused_two (b : UInt8) : (b &&& 15) <<< 2 &&& 3 = 0 := by
  refine eq_of_bits fun i bound => ?_
  interval_cases i <;> simp

/-- The bits that a last group has no byte for are zero. -/
theorem joinTail_values {start : Nat} {tail : Tail} {bytes : List UInt8} (there : bytes ≠ [])
    (short : bytes.length ≤ 3) (given : tail.values = values bytes) :
    joinTail start tail = .ok bytes := by
  match bytes, there, short with
  | [a], _, _ =>
    have joined := join_first a 0
    simp only [UInt8.zero_shiftRight, UInt8.or_zero] at joined
    rw [values] at given
    simp only [joinTail, given, unused_one, if_true, joined]
  | [a, b], _, _ =>
    have joined := join_second a b 0
    simp only [UInt8.zero_shiftRight, UInt8.or_zero] at joined
    rw [values] at given
    simp only [joinTail, given, unused_two, if_true, join_first, joined]
  | [a, b, c], _, _ =>
    have joined : joinGroups tail.values = [a, b, c] := by
      rw [given, joinGroups_values (by simp)]
    rw [← joined, given]
    simp only [joinTail, given, values]

theorem valuesAt_symbols {vs : List UInt8} (small : ∀ v ∈ vs, v < 64) (index : Nat) :
    valuesAt index (vs.map symbol) = .ok vs := by
  induction vs generalizing index with
  | nil => rfl
  | cons v rest ih =>
    rw [List.forall_mem_cons] at small
    rw [List.map_cons, valuesAt, value?_symbol small.1]
    simp only [ih small.2]
    rfl

theorem scanTail_symbols {vs : List UInt8} (small : ∀ v ∈ vs, v < 64) (start seen : Nat)
    (tail : Tail) (unpadded : tail.pads = 0) (rest : List UInt8) :
    ∃ last, scanTail start seen tail (vs.map symbol ++ rest) =
      scanTail start (seen + vs.length) { tail with values := tail.values ++ vs, last } rest := by
  induction vs generalizing seen tail with
  | nil => exact ⟨tail.last, by simp⟩
  | cons v others ih =>
    rw [List.forall_mem_cons] at small
    obtain ⟨last, read⟩ := ih small.2 (seen + 1)
      { tail with values := tail.values ++ [v], last := symbol v } unpadded
    refine ⟨last, ?_⟩
    rw [List.map_cons, List.cons_append, scanTail, if_neg (symbol_ne_pad small.1),
      if_neg (not_not.mpr unpadded), value?_symbol small.1]
    simp only [read, List.append_assoc, List.singleton_append, List.length_cons, Nat.add_assoc,
      Nat.add_comm 1]

theorem scanTail_pads (start : Nat) {seen : Nat} (wide : 2 ≤ seen) (tail : Tail) (count : Nat) :
    ∃ firstPad, scanTail start seen tail (List.replicate count pad) =
      .ok { tail with pads := tail.pads + count, firstPad } := by
  induction count generalizing seen tail with
  | zero => exact ⟨tail.firstPad, rfl⟩
  | succ count ih =>
    have later : 2 ≤ seen + 1 := Nat.le_succ_of_le wide
    rw [List.replicate_succ, scanTail, if_pos rfl, if_neg (Nat.not_lt.mpr wide)]
    obtain ⟨firstPad, read⟩ := ih later { tail with
      pads := tail.pads + 1, firstPad := if tail.pads = 0 then start + seen else tail.firstPad }
    refine ⟨firstPad, ?_⟩
    simp only [read, Nat.add_assoc, Nat.add_comm 1]

/-- Whole groups stand in front of the last one as they would stand alone. -/
theorem encodeBytes_append {front : List UInt8} (whole : 3 ∣ front.length) (last : List UInt8) :
    encodeBytes (front ++ last) = encodeBytes front ++ encodeBytes last := by
  induction front using encodeBytes.induct with
  | case1 => simp [encodeBytes]
  | case2 a => simp at whole
  | case3 a b => simp at whole
  | case4 a b c rest ih =>
    have others : 3 ∣ rest.length := by simpa using whole
    simp only [List.cons_append, encodeBytes, ih others]

theorem exists_lastGroup {bytes : List UInt8} (there : bytes ≠ []) :
    ∃ front last, front ++ last = bytes ∧ 3 ∣ front.length ∧ last ≠ [] ∧ last.length ≤ 3 := by
  have least : 0 < bytes.length := List.length_pos_iff.mpr there
  have size : (bytes.length - 1) / 3 * 3 < bytes.length := by omega
  refine ⟨bytes.take ((bytes.length - 1) / 3 * 3), bytes.drop ((bytes.length - 1) / 3 * 3),
    List.take_append_drop _ _, ?_, ?_, ?_⟩
  · rw [List.length_take, Nat.min_eq_left (Nat.le_of_lt size)]
    exact Nat.dvd_mul_left 3 _
  · exact List.ne_nil_of_length_pos (by rw [List.length_drop]; omega)
  · rw [List.length_drop]
    omega

theorem valuesAt_encodeBytes {front : List UInt8} (whole : 3 ∣ front.length) (index : Nat) :
    valuesAt index (encodeBytes front) = .ok (values front) := by
  have unpadded : 2 * front.length % 3 = 0 := by omega
  rw [encodeBytes_eq, unpadded, List.replicate_zero, List.append_nil, valuesAt_symbols values_lt]

theorem two_le_length_values {bytes : List UInt8} (there : bytes ≠ []) :
    2 ≤ (values bytes).length := by
  have least := List.length_pos_iff.mpr there
  rw [length_values]
  omega

/-- Padding fills the last group up to four symbols. -/
theorem lastGroup_filled {last : List UInt8} (there : last ≠ []) (short : last.length ≤ 3) :
    (values last).length + 2 * last.length % 3 = 4 := by
  have least := List.length_pos_iff.mpr there
  have sizes : last.length = 1 ∨ last.length = 2 ∨ last.length = 3 := by omega
  rw [length_values]
  rcases sizes with size | size | size
  all_goals simp [size]

theorem scanTail_encodeBytes {last : List UInt8} (there : last ≠ []) (start : Nat) :
    ∃ symbol firstPad, scanTail start 0 ⟨[], 0, 0, 0⟩ (encodeBytes last) =
      .ok ⟨values last, symbol, 2 * last.length % 3, firstPad⟩ := by
  have wide : 2 ≤ 0 + (values last).length := by
    rw [Nat.zero_add]
    exact two_le_length_values there
  rw [encodeBytes_eq]
  obtain ⟨symbol, symbols⟩ := scanTail_symbols values_lt start 0 ⟨[], 0, 0, 0⟩ rfl
    (List.replicate (2 * last.length % 3) pad)
  obtain ⟨firstPad, pads⟩ := scanTail_pads start wide ⟨[] ++ values last, symbol, 0, 0⟩
    (2 * last.length % 3)
  refine ⟨symbol, firstPad, ?_⟩
  rw [symbols, pads, Nat.zero_add]
  rfl

theorem decode_encodeBytes (bytes : List UInt8) : decode (encodeBytes bytes) = .ok bytes := by
  by_cases empty : bytes = []
  · rw [empty, encodeBytes]
    rfl
  · -- No text of whole groups has a stray byte, and all before the last group is unpadded.
    obtain ⟨front, last, rfl, whole, there, short⟩ := exists_lastGroup empty
    have least := List.length_pos_iff.mpr there
    have groups : (encodeBytes (front ++ last)).length % 4 ≠ 1 := by
      rw [length_encodeBytes]
      omega
    have stray : ((encodeBytes (front ++ last)).getLast?.filter fun b =>
        (encodeBytes (front ++ last)).length % 4 = 1 && b ≠ pad && value? b = none) = none := by
      simp [groups]
    have start : ((encodeBytes (front ++ last)).length - 1) / 4 * 4 =
        (encodeBytes front).length := by
      rw [length_encodeBytes, length_encodeBytes, List.length_append]
      omega
    obtain ⟨symbol, firstPad, scanned⟩ := scanTail_encodeBytes there (encodeBytes front).length
    have enough : ¬(values last).length < 2 := Nat.not_lt.mpr (two_le_length_values there)
    unfold decode
    simp only [stray, start]
    rw [encodeBytes_append whole, List.take_left, List.drop_left, valuesAt_encodeBytes whole,
      scanned]
    simp only [bind, Except.bind, enough, lastGroup_filled there short,
      joinTail_values there short, joinGroups_values whole, decide_false, Bool.and_false,
      Bool.false_eq_true, if_false, ne_eq, Nat.mod_self, not_true_eq_false]
    rfl

theorem mem_encodeBytes {bytes : List UInt8} {b : UInt8} (h : b ∈ encodeBytes bytes) :
    b = pad ∨ ∃ n < 64, symbol n = b := by
  rw [encodeBytes_eq, List.mem_append, List.mem_map] at h
  rcases h with ⟨n, member, rfl⟩ | padding
  · exact .inr ⟨n, values_lt n member, rfl⟩
  · exact .inl (List.eq_of_mem_replicate padding)

/-- No written character is a blank, or a hyphen. -/
theorem plain_of_mem_encodeBytes {bytes : List UInt8} {b : UInt8} (h : b ∈ encodeBytes bytes) :
    b.toNat < 128 ∧ isBlank (Char.ofUInt8 b) = false ∧ Char.ofUInt8 b ≠ '-' := by
  rcases mem_encodeBytes h with rfl | ⟨n, small, rfl⟩
  · decide
  · exact forall_byte_lt (p := fun n => (symbol n).toNat < 128 ∧
      isBlank (Char.ofUInt8 (symbol n)) = false ∧ Char.ofUInt8 (symbol n) ≠ '-') (by decide) small

theorem toList_encode (bytes : List UInt8) :
    (encode bytes).toList = (encodeBytes bytes).map Char.ofUInt8 := by
  rw [encode, String.toList_ofList]

theorem trimmed_encode (bytes : List UInt8) : Trimmed (encode bytes).toList := by
  rw [toList_encode]
  refine .of_forall fun c member => ?_
  obtain ⟨b, written, rfl⟩ := List.mem_map.mp member
  exact (plain_of_mem_encodeBytes written).2.1

theorem ascii_encode (bytes : List UInt8) : ∀ c ∈ (encode bytes).toList, c.toNat < 128 := by
  rw [toList_encode]
  intro c member
  obtain ⟨b, written, rfl⟩ := List.mem_map.mp member
  exact (plain_of_mem_encodeBytes written).1

theorem ofUInt8_injective : Function.Injective Char.ofUInt8 := by
  intro a b same
  have bytes := congrArg Char.toUInt8 same
  exact (UInt8.toUInt8_toUInt32 a).symm.trans (bytes.trans (UInt8.toUInt8_toUInt32 b))

/-- A written text is its bytes again. -/
theorem ofChars_encode (bytes : List UInt8) :
    Bytes.ofChars (encode bytes).toList = encodeBytes bytes := by
  have back : Char.toUInt8 ∘ Char.ofUInt8 = id := funext UInt8.toUInt8_toUInt32
  rw [Bytes.ofChars_ascii (ascii_encode bytes), toList_encode, List.map_map, back, List.map_id]

end MoveWire.Text.Base64
