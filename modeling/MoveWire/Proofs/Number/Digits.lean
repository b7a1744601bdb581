import Mathlib.Algebra.BigOperators.Fin
import MoveWire.Proofs.Fallible
import MoveWire.Proofs.Number.Wide

/-!
Integers by their digits of base 256. An integer has a form in a field of some bytes exactly when
it lies between zero and the power of 256, the form is the digits whose sum it is, and comparing
digits from the highest on compares the numbers. Nothing is cut off: what does not fit is refused.
-/

namespace MoveWire

namespace Bytes

/-- The number whose digits of base 256 these bytes are, lowest first. -/
def digitSum (bytes : Bytes) : Nat := ∑ i : Fin bytes.length, bytes[i].toNat * 256 ^ i.val

theorem digitSum_eq (bytes : Bytes) : bytes.digitSum = toNat bytes := by
  induction bytes with
  | nil => rfl
  | cons b rest ih =>
    have shifted (i : Fin rest.length) : (b :: rest)[i.succ].toNat * 256 ^ i.succ.val =
        256 * (rest[i].toNat * 256 ^ i.val) := by
      change rest[i].toNat * 256 ^ (i.val + 1) = _
      rw [Nat.pow_succ]
      ac_rfl
    rw [toNat, ← ih, digitSum, digitSum, Finset.mul_sum]
    change ∑ i : Fin (rest.length + 1), _ = _
    rw [Fin.sum_univ_succ]
    simp only [shifted]
    simp

/-- The last digits decide where all digits in front of them are the same. -/
theorem compare_append_single {as bs : Bytes} (same : as.length = bs.length) (a b : UInt8) :
    compare (as ++ [a]) (bs ++ [b]) = (compare as bs).then (compare a b) := by
  induction as generalizing bs with
  | nil =>
    obtain rfl : bs = [] := List.length_eq_zero_iff.mp same.symm
    rw [List.nil_append, List.nil_append, List.compare_cons_cons]
    cases compare a b <;> rfl
  | cons first as ih =>
    cases bs with
    | nil => cases same
    | cons other bs =>
      rw [List.cons_append, List.cons_append, List.compare_cons_cons, List.compare_cons_cons,
        ih (Nat.succ.inj same), Ordering.then_assoc]

/-- A higher digit weighs more than all lower ones. -/
theorem compare_digit {a b m n : Nat} (ha : a < 256) (hb : b < 256) :
    compare (a + 256 * m) (b + 256 * n) = (compare m n).then (compare a b) := by
  rcases Nat.lt_trichotomy m n with less | rfl | more
  · rw [Nat.compare_eq_lt.mpr less, Nat.compare_eq_lt.mpr (by omega)]
    rfl
  · rw [Nat.compare_eq_eq.mpr rfl]
    rcases Nat.lt_trichotomy a b with less | rfl | more
    · rw [Nat.compare_eq_lt.mpr less, Nat.compare_eq_lt.mpr (by omega)]
      rfl
    · rw [Nat.compare_eq_eq.mpr rfl, Nat.compare_eq_eq.mpr rfl]
      rfl
    · rw [Nat.compare_eq_gt.mpr more, Nat.compare_eq_gt.mpr (by omega)]
      rfl
  · rw [Nat.compare_eq_gt.mpr more, Nat.compare_eq_gt.mpr (by omega)]
    rfl

theorem compare_reverse {as bs : Bytes} (same : as.length = bs.length) :
    compare as.reverse bs.reverse = compare (toNat as) (toNat bs) := by
  induction as generalizing bs with
  | nil =>
    obtain rfl : bs = [] := List.length_eq_zero_iff.mp same.symm
    rfl
  | cons a as ih =>
    cases bs with
    | nil => cases same
    | cons b bs =>
      have shorter : as.length = bs.length := Nat.succ.inj same
      rw [List.reverse_cons, List.reverse_cons, compare_append_single (by simpa using shorter),
        ih shorter, UInt8.compare_eq_toNat_compare_toNat, toNat, toNat,
        compare_digit a.toNat_lt b.toNat_lt]

end Bytes

namespace Wide

/-- Narrowing takes the integers from zero to below the bound, each to what stands for it, and
refuses all others for their range. -/
structure Narrows {α : Type} (narrow : Int → Fallible α) (bound : Nat) (stands : α → Int → Prop) :
    Prop where
  ok_iff : ∀ n a, narrow n = .ok a ↔ stands a n
  fits_iff : ∀ n, (∃ a, narrow n = .ok a) ↔ 0 ≤ n ∧ n < bound
  range_iff : ∀ n, (∃ cause, narrow n = .error (.range cause)) ↔ ¬(0 ≤ n ∧ n < bound)

theorem Narrows.of_cases {α : Type} {narrow : Int → Fallible α} {bound : Nat}
    {stands : α → Int → Prop} (inside : ∀ {a n}, stands a n → 0 ≤ n ∧ n < bound)
    (unique : ∀ {a b n}, stands a n → stands b n → a = b)
    (run : ∀ n, (∃ a, narrow n = .ok a ∧ stands a n) ∨
      ¬(0 ≤ n ∧ n < bound) ∧ ∃ cause, narrow n = .error (.range cause)) :
    Narrows narrow bound stands := by
  constructor
  · intro n a
    rcases run n with ⟨b, taken, stood⟩ | ⟨outside, cause, refused⟩
    · rw [taken, Except.ok.injEq]
      constructor
      · rintro rfl
        exact stood
      · exact unique stood
    · rw [refused]
      exact iff_of_false nofun fun stood => outside (inside stood)
  · intro n
    rcases run n with ⟨b, taken, stood⟩ | ⟨outside, cause, refused⟩
    · exact iff_of_true ⟨b, taken⟩ (inside stood)
    · rw [refused]
      exact iff_of_false nofun outside
  · intro n
    rcases run n with ⟨b, taken, stood⟩ | ⟨outside, cause, refused⟩
    · rw [taken]
      exact iff_of_false nofun (not_not_intro (inside stood))
    · exact iff_of_true ⟨cause, refused⟩ outside

/-- A field of bytes takes the integers from zero up to its room and refuses all others. -/
theorem encodeUnsigned_cases (n : Int) (width : Nat) :
    (∃ m : Nat, n = m ∧ m < 256 ^ width ∧
      encodeUnsigned n width = .ok (Bytes.ofNat width m)) ∨
    ¬(0 ≤ n ∧ n < (256 ^ width : Nat)) ∧
      ∃ cause, encodeUnsigned n width = .error (.range cause) := by
  by_cases negative : n < 0
  · exact .inr ⟨by omega, .negative n (width * 8), by rw [encodeUnsigned_eq, if_pos negative]⟩
  · obtain ⟨m, rfl⟩ := Int.eq_ofNat_of_zero_le (Int.not_lt.mp negative)
    by_cases fits : m < 256 ^ width
    · exact .inl ⟨m, rfl, fits, encodeUnsigned_of_lt fits⟩
    · refine .inr ⟨fun inside => fits (Int.ofNat_lt.mp inside.2),
        .tooWide m (byteLength m) (width * 8) width, ?_⟩
      have wide : width < byteLength m := Nat.lt_of_not_le fun le => fits (byteLength_le_iff.mp le)
      rw [encodeUnsigned_eq, if_neg negative, Int.toNat_natCast, if_pos wide]

/-- The digits of an integer in a field, all of them. -/
structure FieldOf (width : Nat) (out : Bytes) (n : Int) : Prop where
  length_eq : out.length = width
  sum_eq : (out.digitSum : Int) = n

theorem fieldOf_ofNat {width m : Nat} (fits : m < 256 ^ width) :
    FieldOf width (Bytes.ofNat width m) m where
  length_eq := Bytes.length_ofNat width m
  sum_eq := by rw [Bytes.digitSum_eq, Bytes.toNat_ofNat, Nat.mod_eq_of_lt fits]

theorem encodeUnsigned_narrows (width : Nat) :
    Narrows (encodeUnsigned · width) (256 ^ width) (FieldOf width) := by
  refine .of_cases ?_ ?_ fun n => ?_
  · rintro out _ ⟨rfl, rfl⟩
    have room := Bytes.toNat_lt out
    rw [Bytes.digitSum_eq]
    exact ⟨Int.natCast_nonneg _, Int.ofNat_lt.mpr room⟩
  · rintro out other n ⟨rfl, rfl⟩ ⟨same, sum⟩
    rw [Bytes.digitSum_eq, Bytes.digitSum_eq, Int.natCast_inj] at sum
    rw [← Bytes.ofNat_toNat out, ← Bytes.ofNat_toNat other, same, sum]
  · rcases encodeUnsigned_cases n width with ⟨m, rfl, fits, run⟩ | refused
    · exact .inl ⟨_, run, fieldOf_ofNat fits⟩
    · exact .inr refused

example : encodeUnsigned 258 4 = .ok [2, 1, 0, 0] := rfl

/-- Going through the bytes of a field of the same width loses nothing. -/
theorem narrows_of_field (width : Nat) :
    Narrows (fun n => do
      return BitVec.ofNat (8 * width) (Bytes.toNat (← encodeUnsigned n width)))
      (2 ^ (8 * width)) (fun v n => (v.toNat : Int) = n) := by
  refine .of_cases ?_ ?_ fun n => ?_
  · rintro v _ rfl
    exact ⟨Int.natCast_nonneg _, Int.ofNat_lt.mpr v.isLt⟩
  · rintro v w _ rfl same
    exact BitVec.toNat_inj.mp (Int.natCast_inj.mp same.symm)
  · rw [Nat.pow_mul]
    change _ ∨ ¬(0 ≤ n ∧ n < (256 ^ width : Nat)) ∧ _
    rcases encodeUnsigned_cases n width with ⟨m, rfl, fits, run⟩ | ⟨outside, cause, run⟩
    · have narrow : m < 2 ^ (8 * width) := by rwa [Nat.pow_mul]
      refine .inl ⟨.ofNat (8 * width) m, ?_, ?_⟩
      · rw [run, Fallible.ok_bind, Bytes.toNat_ofNat, Nat.mod_eq_of_lt fits]
        rfl
      · rw [BitVec.toNat_ofNat, Nat.mod_eq_of_lt narrow]
    · refine .inr ⟨outside, cause, ?_⟩
      rw [run]
      rfl

theorem toU128_narrows : Narrows toU128 (2 ^ 128) (fun v n => (v.toNat : Int) = n) :=
  narrows_of_field 16

theorem toU256_narrows : Narrows toU256 (2 ^ 256) (fun v n => intOfU256 v = n) :=
  narrows_of_field 32

theorem intOfU256_ofU128 (v : U128) : intOfU256 (u256OfU128 v) = v.toNat := by
  rw [u256OfU128_eq]
  exact congrArg Int.ofNat (Nat.mod_eq_of_lt (Nat.lt_of_lt_of_le v.isLt (by decide)))

theorem intOfU256_ofU64 (v : UInt64) : intOfU256 (u256OfU64 v) = v.toNat := by
  rw [u256OfU64, intOfU256_ofU128]
  exact congrArg Int.ofNat (Nat.mod_eq_of_lt (Nat.lt_of_lt_of_le v.toNat_lt (by decide)))

theorem parseU256_u256Text (v : U256) : parseU256 (u256Text v) = .ok v := by
  rw [parseU256, u256Text, parse_toString, Fallible.ok_bind]
  exact toU256_toNat v

theorem compare_natCast (m n : Nat) : compare (m : Int) (n : Int) = compare m n := by
  simp only [compare, compareOfLessAndEq, Int.ofNat_lt, Int.natCast_inj]

theorem compareU256_eq (a b : U256) : compareU256 a b = compare (intOfU256 a) (intOfU256 b) := by
  have same : (Bytes.ofNat 32 a.toNat).length = (Bytes.ofNat 32 b.toNat).length := by simp
  have fits (v : U256) : v.toNat % 256 ^ 32 = v.toNat := Nat.mod_eq_of_lt v.isLt
  rw [compareU256, Bytes.compare_reverse same, Bytes.toNat_ofNat, Bytes.toNat_ofNat, fits, fits]
  exact (compare_natCast a.toNat b.toNat).symm

/-- Fields of any width, 128 bits and 256 bits take just the integers that they have room for, keep
their value, and refuse the others for their range. Numbers of 256 bits hold all narrower ones as
they are, are read back from their text, and are in the order of their values. -/
theorem wide_integers_exact :
    (∀ width, Narrows (encodeUnsigned · width) (256 ^ width) (FieldOf width)) ∧
    Narrows toU128 (2 ^ 128) (fun v n => (v.toNat : Int) = n) ∧
    Narrows toU256 (2 ^ 256) (fun v n => intOfU256 v = n) ∧
    (∀ v : UInt64, intOfU256 (u256OfU64 v) = v.toNat) ∧
    (∀ v : U128, intOfU256 (u256OfU128 v) = v.toNat) ∧
    (∀ v, parseU256 (u256Text v) = .ok v) ∧
    ∀ a b, compareU256 a b = compare (intOfU256 a) (intOfU256 b) :=
  ⟨encodeUnsigned_narrows, toU128_narrows, toU256_narrows, intOfU256_ofU64, intOfU256_ofU128,
    parseU256_u256Text, compareU256_eq⟩

end Wide

end MoveWire
