import MoveWire.Address
import MoveWire.Proofs.Text.Hex

/-!
An address is read back from its full and from its short text: leaving out zeros in front loses
nothing, since a literal is filled up with zeros before it is read. Main statement: a literal is
read exactly if it is a mark and one to 64 digits, and then it is the address of their number.
-/

namespace MoveWire

open Text

namespace Address

theorem length_digits (a : Address) : (Hex.encodeChars a.bytes).length = 64 := by
  rw [Hex.length_encodeChars, Address.bytes, a.raw.length_eq]

/-- The zeros that a short text leaves out are all put back. -/
theorem padDigits_shortDigits {cs : List Char} (h : cs.length = 64) :
    padDigits (shortDigits cs) = cs := by
  have zeros : cs.takeWhile (· == '0') =
      List.replicate (cs.takeWhile (· == '0')).length '0' := by
    refine List.eq_replicate_of_mem fun c member => ?_
    have zero := List.mem_takeWhile_imp member
    exact eq_of_beq zero
  -- As many zeros are missing to 64 digits as were taken off.
  have whole := List.takeWhile_append_dropWhile (p := (· == '0')) (l := cs)
  have count := congrArg List.length whole
  rw [List.length_append, h] at count
  unfold shortDigits
  split
  · next none =>
    rw [none, List.append_nil] at whole
    rw [whole, h] at zeros
    rw [zeros]
    rfl
  · next rest =>
    rw [padDigits, ← count, Nat.add_sub_cancel, ← zeros, whole]

theorem shortDigits_ne_nil (cs : List Char) : shortDigits cs ≠ [] := by
  unfold shortDigits
  split
  · exact List.cons_ne_nil _ _
  · next some => exact some

theorem isDigit_of_mem_shortDigits {cs : List Char} (h : ∀ c ∈ cs, Hex.isDigit c = true) :
    ∀ c ∈ shortDigits cs, Hex.isDigit c = true := by
  unfold shortDigits
  split
  · intro c member
    rw [List.mem_singleton.mp member]
    decide
  · intro c member
    exact h c ((List.dropWhile_sublist _).subset member)

/-- A mark, then one to 64 digits of the number that the address is. -/
structure IsLiteral (cs : List Char) (a : Address) (digits : List Char) : Prop where
  marked : cs = '0' :: 'x' :: digits
  some : digits ≠ []
  most : digits.length ≤ 64
  hex : ∀ c ∈ digits, Hex.isDigit c = true
  number : a = ofNat (Hex.number digits)

theorem eq_of_bytes {a b : Address} (h : a.bytes = b.bytes) : a = b := by
  obtain ⟨⟨bytes, size⟩⟩ := a
  obtain ⟨⟨others, width⟩⟩ := b
  obtain rfl : bytes = others := h
  rfl

theorem eq_ofNat (a : Address) : a = ofNat (Bytes.toNat a.bytes.reverse) := by
  have digits := Bytes.ofNat_toNat a.bytes.reverse
  rw [List.length_reverse, show a.bytes.length = 32 from a.raw.length_eq] at digits
  apply eq_of_bytes
  change _ = (Bytes.ofNat 32 (Bytes.toNat a.bytes.reverse)).reverse
  rw [digits, List.reverse_reverse]

theorem number_padDigits (digits : List Char) :
    Hex.number (padDigits digits) = Hex.number digits := by
  have zeros (n : Nat) : (List.replicate n '0').foldl (fun n c => 16 * n + Hex.digitNumber c) 0 =
      0 := by
    induction n with
    | zero => rfl
    | succ n ih => exact ih
  rw [padDigits, Hex.number, List.foldl_append, zeros, Hex.number]

theorem number_encodeChars (bytes : Bytes) :
    Hex.number (Hex.encodeChars bytes) = Bytes.toNat bytes.reverse := by
  have hex : ∀ c ∈ Hex.encodeChars bytes, Hex.isDigit c = true :=
    fun _ member => Hex.isDigit_of_mem_encodeChars member
  obtain ⟨read, given, -, number⟩ := Hex.decode_of_isDigit hex (by
    rw [Hex.length_encodeChars]
    omega)
  rw [Hex.decode_encodeChars] at given
  rw [← number, Except.ok.inj given]

theorem length_padDigits {digits : List Char} (most : digits.length ≤ 64) :
    (padDigits digits).length = 64 := by
  rw [padDigits, List.length_append, List.length_replicate]
  omega

theorem isDigit_padDigits {digits : List Char} (hex : ∀ c ∈ digits, Hex.isDigit c = true) :
    ∀ c ∈ padDigits digits, Hex.isDigit c = true := by
  refine List.forall_mem_append.mpr ⟨fun c zero => ?_, hex⟩
  rw [List.eq_of_mem_replicate zero]
  decide

/-- All 64 digits of the number that the address is. -/
structure IsFull (cs : List Char) (a : Address) : Prop where
  size : cs.length = 64
  hex : ∀ c ∈ cs, Hex.isDigit c = true
  number : a = ofNat (Hex.number cs)

theorem IsFull.length_ofChars {cs : List Char} {a : Address} (h : IsFull cs a) :
    (Bytes.ofChars cs).length = 64 := by
  rw [Bytes.length_ofChars fun c member => (Hex.ascii_of_isDigit (h.hex c member)).1, h.size]

/-- The bytes that 64 digits stand for are those of the address of their number. -/
theorem IsFull.decode {cs : List Char} {a : Address} (h : IsFull cs a) :
    Hex.decode (Bytes.ofChars cs) = .ok a.bytes := by
  obtain ⟨bytes, read, length, number⟩ := Hex.decode_of_isDigit h.hex (by rw [h.size])
  have width : bytes.length = 32 := by rw [length, h.size]
  have same : a = ⟨⟨bytes, width⟩⟩ := by
    rw [h.number, ← number]
    exact (eq_ofNat ⟨⟨bytes, width⟩⟩).symm
  rw [read, same]
  rfl

theorem isFull_encodeChars (a : Address) : IsFull (Hex.encodeChars a.bytes) a where
  size := length_digits a
  hex _ member := Hex.isDigit_of_mem_encodeChars member
  number := by
    rw [number_encodeChars]
    exact eq_ofNat a

/-- Behind blanks and the mark, the full text of an address is all there may be. -/
theorem parse_eq_ok_iff {text : String} {a : Address} :
    parse text = .ok a ↔ IsFull (dropHexMark (trim text.toList)) a := by
  constructor
  · intro run
    unfold parse at run
    dsimp only at run
    split at run
    · cases run
    · next sized =>
      split at run
      · cases run
      · next bytes read =>
        have hex := Hex.decode_eq_ok read
        rw [ne_eq, Decidable.not_not,
          Bytes.length_ofChars fun c member => (Hex.ascii_of_isDigit (hex c member)).1] at sized
        refine ⟨sized, hex, ?_⟩
        have full : IsFull (dropHexMark (trim text.toList)) _ := ⟨sized, hex, rfl⟩
        obtain rfl := Except.ok.inj (read.symm.trans full.decode)
        rw [ofBytes, Address.bytes, FixedBytes.ofBytes?_bytes] at run
        exact (Except.ok.inj run).symm
  · intro h
    simp only [parse, h.length_ofChars, ne_eq, not_true_eq_false, if_false, h.decode]
    rw [ofBytes, Address.bytes, FixedBytes.ofBytes?_bytes]

theorem IsFull.dropHexMark_trim {cs : List Char} {a : Address} (h : IsFull cs a) :
    dropHexMark (trim cs) = cs := by
  rw [trim_of_trimmed (Hex.trimmed_of_isDigit h.hex), dropHexMark_of_isDigit h.hex]

theorem parse_of_isDigit {cs : List Char} (hex : ∀ c ∈ cs, Hex.isDigit c = true)
    (size : cs.length = 64) : parse (String.ofList cs) = .ok (ofNat (Hex.number cs)) := by
  have full : IsFull cs _ := ⟨size, hex, rfl⟩
  rw [parse_eq_ok_iff, String.toList_ofList, full.dropHexMark_trim]
  exact full

theorem dropHexMark_sublist (cs : List Char) : (dropHexMark cs).Sublist cs := by
  unfold dropHexMark
  split
  · exact (List.sublist_cons_self _ _).trans (List.sublist_cons_self _ _)
  · exact (List.sublist_cons_self _ _).trans (List.sublist_cons_self _ _)
  · exact List.Sublist.refl _

/-- A text of 64 characters at most that is read is 64 digits: nothing was taken off. -/
theorem isDigit_of_parse {cs : List Char} {a : Address} (most : cs.length ≤ 64)
    (run : parse (String.ofList cs) = .ok a) : ∀ c ∈ cs, Hex.isDigit c = true := by
  have full := parse_eq_ok_iff.mp run
  rw [String.toList_ofList] at full
  have kept : (dropHexMark (trim cs)).Sublist cs :=
    (dropHexMark_sublist _).trans (trim_sublist cs)
  have all : dropHexMark (trim cs) = cs := by
    refine kept.eq_of_length_le ?_
    rw [full.size]
    exact most
  rw [← all]
  exact full.hex

theorem parseLiteral_eq_ok_iff {cs : List Char} {a : Address} :
    parseLiteral (String.ofList cs) = .ok a ↔ ∃ digits, IsLiteral cs a digits := by
  unfold parseLiteral
  rw [String.toList_ofList]
  constructor
  · intro run
    split at run
    · cases run
    · next digits marked =>
      have form := stripStart?_eq_some_iff.mp marked
      dsimp only at run
      split at run
      · cases run
      · next size =>
        simp only [Bool.or_eq_true, decide_eq_true_eq, not_or] at size
        split at run
        · next address read =>
          cases run
          have most : digits.length ≤ 64 := by
            have := Bytes.length_le_ofChars digits
            omega
          have hex := isDigit_of_parse (length_padDigits most).le read
          refine ⟨digits, form, ?_, most, ?_, ?_⟩
          · rintro rfl
            exact size.1 rfl
          · exact fun c member => hex c (List.mem_append_right _ member)
          · rw [parse_of_isDigit hex (length_padDigits most), number_padDigits] at read
            exact (Except.ok.inj read).symm
        · cases run
  · rintro ⟨digits, rfl, some, most, hex, rfl⟩
    have start : stripStart? ['0', 'x'] ('0' :: 'x' :: digits) = .some digits := rfl
    have size : (Bytes.ofChars digits).length = digits.length :=
      Bytes.length_ofChars fun c member => (Hex.ascii_of_isDigit (hex c member)).1
    have least : digits.length ≠ 0 := mt List.length_eq_zero_iff.mp some
    have read := parse_of_isDigit (isDigit_padDigits hex) (length_padDigits most)
    rw [start]
    simp [size, least, Nat.not_lt.mpr most, read, number_padDigits]

theorem toList_text (a : Address) :
    a.text.toList = '0' :: 'x' :: Hex.encodeChars a.bytes := by
  simp [text, bareText, Bytes.toHex, Hex.encode]

theorem toList_bareText (a : Address) : a.bareText.toList = Hex.encodeChars a.bytes := by
  simp [bareText, Bytes.toHex, Hex.encode]

theorem toList_shortText (a : Address) :
    a.shortText.toList = '0' :: 'x' :: shortDigits (Hex.encodeChars a.bytes) := by
  simp [shortText]

/-- The mark is not among the digits. -/
theorem parse_text (a : Address) : parse a.text = .ok a := by
  have full := isFull_encodeChars a
  rw [parse_eq_ok_iff, toList_text, trim_of_trimmed (Hex.trimmed_marked full.hex)]
  exact full

theorem parse_bareText (a : Address) : parse a.bareText = .ok a := by
  have full := isFull_encodeChars a
  rw [parse_eq_ok_iff, toList_bareText, full.dropHexMark_trim]
  exact full

theorem IsFull.isLiteral {digits : List Char} {a : Address} (h : IsFull digits a) :
    IsLiteral ('0' :: 'x' :: digits) a digits :=
  ⟨rfl, List.ne_nil_of_length_eq_add_one h.size, h.size.le, h.hex, h.number⟩

theorem isLiteral_text (a : Address) : IsLiteral a.text.toList a (Hex.encodeChars a.bytes) := by
  rw [toList_text]
  exact (isFull_encodeChars a).isLiteral

theorem isLiteral_shortText (a : Address) :
    IsLiteral a.shortText.toList a (shortDigits (Hex.encodeChars a.bytes)) := by
  have full := isFull_encodeChars a
  have padded := padDigits_shortDigits full.size
  refine ⟨toList_shortText a, shortDigits_ne_nil _, ?_, isDigit_of_mem_shortDigits full.hex, ?_⟩
  · have whole := congrArg List.length padded
    rw [padDigits, List.length_append, List.length_replicate, full.size] at whole
    omega
  · rw [← number_padDigits, padded]
    exact full.number

end Address

end MoveWire
