import MoveWire.Number.Wide
import MoveWire.Proofs.Text.Blank

/-!
Wide integers: the decimal text of a number is read as that number, and a number has a form in a
field of some bytes exactly when it has no more digits of base 256 than the field. The form is made
from the digits that count; it is the same as all digits of the field.
-/

namespace MoveWire.Wide

open Text

theorem isDigit_range {c : Char} (h : c.isDigit = true) : 48 ≤ c.toNat ∧ c.toNat ≤ 57 := by
  simpa [Char.isDigit, UInt32.le_iff_toNat_le] using h

theorem isBlank_of_isDigit {c : Char} (h : c.isDigit = true) : isBlank c = false := by
  have range := isDigit_range h
  simp only [isBlank, Bool.or_eq_false_iff, Bool.and_eq_false_iff, decide_eq_false_iff_not,
    beq_eq_false_iff_ne]
  omega

/-- A digit is none of the marks that may stand in a number. -/
theorem isDigit_ne {c mark : Char} (h : c.isDigit = true) (other : mark.isDigit = false) :
    c ≠ mark := by
  rintro rfl
  rw [h] at other
  cases other

theorem digitValue?_of_isDigit {c : Char} (h : c.isDigit = true) :
    digitValue? c = some (c.toNat - 48) := by
  have decimal : ('0' ≤ c && c ≤ '9') = true := by
    simpa [Char.isDigit, Char.le_def] using h
  rw [digitValue?, if_pos decimal]

theorem ofDigits?_of_isDigit {cs : List Char} (h : ∀ c ∈ cs, c.isDigit = true) (value : Nat) :
    ofDigits? 10 value cs = some (Nat.ofDigitChars 10 cs value) := by
  induction cs generalizing value with
  | nil => simp [ofDigits?]
  | cons c rest ih =>
    rw [List.forall_mem_cons] at h
    have small : c.toNat - 48 < 10 := by
      have := isDigit_range h.1
      omega
    rw [ofDigits?, if_neg (isDigit_ne h.1 (by decide)), digitValue?_of_isDigit h.1]
    simp only [if_pos small]
    rw [ih h.2, Nat.ofDigitChars_cons, Nat.mul_comm]
    rfl

theorem natural?_of_isDigit {cs : List Char} (some : cs ≠ []) (h : ∀ c ∈ cs, c.isDigit = true) :
    natural? 10 cs = .some (Nat.ofDigitChars 10 cs 0) := by
  rw [← ofDigits?_of_isDigit h]
  cases cs with
  | nil => exact absurd rfl some
  | cons c rest =>
    have first := h c List.mem_cons_self
    unfold natural?
    split
    · next same => exact absurd (List.cons.inj same).1 (isDigit_ne first (by decide))
    · dsimp only
      split
      · next none => cases none
      · next same => exact absurd (List.cons.inj same).1 (isDigit_ne first (by decide))
      · rfl

/-- Digits carry no mark of another base. -/
theorem magnitude?_of_isDigit {cs : List Char} (h : ∀ c ∈ cs, c.isDigit = true) :
    magnitude? cs = natural? 10 cs := by
  unfold magnitude?
  split
  · exact absurd (h 'x' (by simp)) (by decide)
  · exact absurd (h 'X' (by simp)) (by decide)
  · rfl

theorem parse_toString (n : Nat) : parse (toString n) = .ok (n : Int) := by
  have chars : (toString n).toList = Nat.toDigits 10 n := by
    rw [Nat.toString_eq_repr, Nat.toList_repr]
  have digits : ∀ c ∈ Nat.toDigits 10 n, c.isDigit = true := fun c member =>
    Nat.isDigit_of_mem_toDigits (by decide) (by decide) member
  have trimmed : Trimmed (Nat.toDigits 10 n) :=
    .of_forall fun c member => isBlank_of_isDigit (digits c member)
  have size : magnitude? (Nat.toDigits 10 n) = some n := by
    rw [magnitude?_of_isDigit digits, natural?_of_isDigit Nat.toDigits_ne_nil digits,
      Nat.ofDigitChars_ten_toDigits]
  have unsigned : ∀ rest, Nat.toDigits 10 n ≠ '-' :: rest := by
    intro rest minus
    have sign : '-' ∈ Nat.toDigits 10 n := by
      rw [minus]
      exact List.mem_cons_self
    exact absurd (digits '-' sign) (by decide)
  simp only [parse, chars, trim_of_trimmed trimmed]
  split
  · next read =>
    rw [size] at read
    exact congrArg Except.ok (Option.some.inj read).symm
  · next unread =>
    rw [size] at unread
    cases unread

theorem byteLength_le_iff {n width : Nat} : byteLength n ≤ width ↔ n < 256 ^ width := by
  by_cases zero : n = 0
  · subst zero
    exact iff_of_true (Nat.zero_le _) (Nat.pow_pos (by decide))
  · have bits : n.log2 < 8 * width ↔ n < 2 ^ (8 * width) := Nat.log2_lt zero
    rw [Nat.pow_mul] at bits
    rw [byteLength, if_neg zero, ← bits]
    omega

/-- The digits that count, also of zero. -/
theorem significant_eq (n : Nat) : (if bigEndian n = [0] then [] else bigEndian n) =
    (Bytes.ofNat (byteLength n) n).reverse := by
  by_cases zero : n = 0
  · subst zero
    rfl
  · have digits : bigEndian n = (Bytes.ofNat (byteLength n) n).reverse := if_neg zero
    have nonzero : bigEndian n ≠ [0] := by
      intro same
      have single : Bytes.ofNat (byteLength n) n = [0] :=
        List.reverse_eq_iff.mp (digits.symm.trans same)
      have value : n % 256 ^ byteLength n = 0 := by
        rw [← Bytes.toNat_ofNat, single]
        rfl
      rw [Nat.mod_eq_of_lt (byteLength_le_iff.mp (Nat.le_refl _))] at value
      exact zero value
    rw [if_neg nonzero, digits]

theorem toNat_zeros (k : Nat) : Bytes.toNat (List.replicate k 0) = 0 := by
  induction k with
  | zero => rfl
  | succ k ih => simp [List.replicate_succ, Bytes.toNat, ih]

theorem toNat_append_zeros (bytes : Bytes) (k : Nat) :
    Bytes.toNat (bytes ++ List.replicate k 0) = Bytes.toNat bytes := by
  induction bytes with
  | nil => exact toNat_zeros k
  | cons b rest ih => rw [List.cons_append, Bytes.toNat, Bytes.toNat, ih]

/-- Zeros above all digits of a number are digits of it as well. -/
theorem ofNat_append_zeros {n width : Nat} (k : Nat) (h : n < 256 ^ width) :
    Bytes.ofNat width n ++ List.replicate k 0 = Bytes.ofNat (width + k) n := by
  have digits := Bytes.ofNat_toNat (Bytes.ofNat width n ++ List.replicate k 0)
  rw [toNat_append_zeros, Bytes.toNat_ofNat, Nat.mod_eq_of_lt h, List.length_append,
    Bytes.length_ofNat, List.length_replicate] at digits
  exact digits.symm

/-- Padding the digits that count and turning them around gives all digits of the field. -/
theorem encodeUnsigned_eq (value : Int) (width : Nat) : encodeUnsigned value width =
    if value < 0 then .error (.range (.negative value (width * 8)))
    else if width < byteLength value.toNat then
      .error (.range (.tooWide value (byteLength value.toNat) (width * 8) width))
    else .ok (Bytes.ofNat width value.toNat) := by
  have length : ((Bytes.ofNat (byteLength value.toNat) value.toNat).reverse).length =
      byteLength value.toNat := by rw [List.length_reverse, Bytes.length_ofNat]
  simp only [encodeUnsigned, significant_eq, length]
  split
  · rfl
  · split
    · rfl
    · next _ room =>
      have least := byteLength_le_iff.mp (Nat.le_refl (byteLength value.toNat))
      rw [List.reverse_append, List.reverse_reverse, List.reverse_replicate,
        ofNat_append_zeros _ least, Nat.add_sub_cancel' (Nat.not_lt.mp room)]

theorem encodeUnsigned_of_lt {n width : Nat} (h : n < 256 ^ width) :
    encodeUnsigned n width = .ok (Bytes.ofNat width n) := by
  have natural : ¬(n : Int) < 0 := by omega
  have fits : ¬width < byteLength n := Nat.not_lt.mpr (byteLength_le_iff.mpr h)
  rw [encodeUnsigned_eq, if_neg natural, Int.toNat_natCast, if_neg fits]

theorem u256OfU128_eq (v : U128) : u256OfU128 v = BitVec.ofNat 256 v.toNat := by
  rw [u256OfU128, toNat_append_zeros, Bytes.toNat_ofNat, Nat.mod_eq_of_lt v.isLt]

theorem toU128_toNat (v : U128) : toU128 v.toNat = .ok v := by
  have fits : v.toNat < 256 ^ 16 := v.isLt
  rw [toU128, encodeUnsigned_of_lt fits]
  change Except.ok (BitVec.ofNat 128 (Bytes.toNat (Bytes.ofNat 16 v.toNat))) = _
  rw [Bytes.toNat_ofNat, Nat.mod_eq_of_lt fits, BitVec.ofNat_toNat, BitVec.setWidth_eq]

theorem toU256_toNat (v : U256) : toU256 v.toNat = .ok v := by
  have fits : v.toNat < 256 ^ 32 := v.isLt
  rw [toU256, encodeUnsigned_of_lt fits]
  change Except.ok (BitVec.ofNat 256 (Bytes.toNat (Bytes.ofNat 32 v.toNat))) = _
  rw [Bytes.toNat_ofNat, Nat.mod_eq_of_lt fits, BitVec.ofNat_toNat, BitVec.setWidth_eq]

end MoveWire.Wide
