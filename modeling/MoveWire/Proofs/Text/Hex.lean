import MoveWire.Proofs.Text.Blank
import MoveWire.Wire.Text

/-!
Hexadecimal text. Digits give back the bytes that they were written from; a text is read if it is
digits in pairs, of either case and of nothing else, and its bytes are the number that they spell.
Writing what was read gives the same digits, lowercase.
-/

namespace MoveWire

/-- What is settled number by number holds for all bytes below a bound. -/
theorem Text.forall_byte_lt {bound : UInt8} {p : UInt8 → Prop}
    (h : ∀ k : Fin bound.toNat, p (UInt8.ofNat k.val)) {n : UInt8} (small : n < bound) : p n := by
  have settled := h ⟨n.toNat, UInt8.lt_iff_toNat_lt.mp small⟩
  rwa [UInt8.ofNat_toNat] at settled

/-- What is settled number by number holds for all ASCII characters. -/
theorem Text.forall_ascii {p : Char → Prop} (h : ∀ k : Fin 128, p (Char.ofNat k)) {c : Char}
    (small : c.toNat < 128) : p c := by
  have settled := h ⟨c.toNat, small⟩
  rwa [Char.ofNat_toNat] at settled

/-- A character below 128 is a byte of its own. -/
theorem Bytes.utf8EncodeChar_of_lt {c : Char} (small : c.toNat < 128) :
    String.utf8EncodeChar c = [c.toUInt8] := by
  have least : c.val.toNat ≤ 127 := Nat.le_of_lt_succ small
  rw [String.utf8EncodeChar, if_pos least]
  rfl

theorem Bytes.ofChars_ascii {cs : List Char} (h : ∀ c ∈ cs, c.toNat < 128) :
    Bytes.ofChars cs = cs.map Char.toUInt8 := by
  have joined : Bytes.ofChars cs = cs.flatMap String.utf8EncodeChar := by
    simp [Bytes.ofChars, Text.Utf8.encode, List.utf8Encode]
  rw [joined, List.map_eq_flatMap]
  exact List.flatMap_congr fun c member => utf8EncodeChar_of_lt (h c member)

theorem Bytes.length_ofChars {cs : List Char} (h : ∀ c ∈ cs, c.toNat < 128) :
    (Bytes.ofChars cs).length = cs.length := by
  rw [Bytes.ofChars_ascii h, List.length_map]

namespace Bytes

theorem ofChars_cons (c : Char) (cs : List Char) :
    ofChars (c :: cs) = String.utf8EncodeChar c ++ ofChars cs := by
  simp [ofChars, Text.Utf8.encode, List.utf8Encode]

/-- Any other character than an ASCII one starts with a byte above them all. -/
theorem head_of_utf8EncodeChar {c : Char} (wide : 128 ≤ c.toNat) :
    ∃ b rest, String.utf8EncodeChar c = b :: rest ∧ 128 ≤ b.toNat := by
  have large : ¬c.val.toNat ≤ 127 := Nat.not_le.mpr wide
  unfold String.utf8EncodeChar
  simp only [if_neg large]
  split
  · exact ⟨_, _, rfl, by rw [UInt8.toNat_ofNat']; omega⟩
  · split
    · exact ⟨_, _, rfl, by rw [UInt8.toNat_ofNat']; omega⟩
    · exact ⟨_, _, rfl, by rw [UInt8.toNat_ofNat']; omega⟩

theorem length_le_ofChars (cs : List Char) : cs.length ≤ (ofChars cs).length := by
  induction cs with
  | nil => exact Nat.zero_le _
  | cons c rest ih =>
    have some : 0 < (String.utf8EncodeChar c).length := by
      rcases Nat.lt_or_ge c.toNat 128 with small | wide
      · rw [utf8EncodeChar_of_lt small]
        exact Nat.succ_pos _
      · obtain ⟨b, more, form, -⟩ := head_of_utf8EncodeChar wide
        rw [form]
        exact Nat.succ_pos _
    rw [ofChars_cons, List.length_append, List.length_cons]
    omega

end Bytes

namespace Text.Hex

theorem ascii_of_isDigit {c : Char} (h : isDigit c = true) :
    c.toNat < 128 ∧ isBlank c = false := by
  simp only [isDigit, Bool.or_eq_true, Bool.and_eq_true, decide_eq_true_eq, Char.le_def,
    UInt32.le_iff_toNat_le] at h
  have range : 48 ≤ c.toNat ∧ c.toNat ≤ 57 ∨ 97 ≤ c.toNat ∧ c.toNat ≤ 102 ∨
      65 ≤ c.toNat ∧ c.toNat ≤ 70 := by
    rcases h with (h | h) | h
    · exact .inl h
    · exact .inr (.inl h)
    · exact .inr (.inr h)
  constructor
  · omega
  · simp only [isBlank, Bool.or_eq_false_iff, Bool.and_eq_false_iff, decide_eq_false_iff_not,
      beq_eq_false_iff_ne]
    omega

theorem isDigit_digitChar {n : UInt8} (h : n < 16) : isDigit (digitChar n) = true :=
  forall_byte_lt (p := fun n => isDigit (digitChar n) = true) (by decide) h

theorem halves_lt (b : UInt8) : b / 16 < 16 ∧ b % 16 < 16 := by
  have := b.toNat_lt
  simp only [UInt8.lt_iff_toNat_lt, UInt8.toNat_div, UInt8.toNat_mod, UInt8.reduceToNat]
  omega

theorem isDigit_of_mem_encodeChars {bytes : Bytes} {c : Char} (h : c ∈ encodeChars bytes) :
    isDigit c = true := by
  obtain ⟨b, -, place⟩ := List.mem_flatMap.mp h
  obtain ⟨high, low⟩ := halves_lt b
  simp only [List.mem_cons, List.not_mem_nil, or_false] at place
  rcases place with rfl | rfl
  · exact isDigit_digitChar high
  · exact isDigit_digitChar low

theorem trimmed_of_isDigit {cs : List Char} (hex : ∀ c ∈ cs, isDigit c = true) : Trimmed cs :=
  .of_forall fun c member => (ascii_of_isDigit (hex c member)).2

/-- Nor is the mark in front of digits blank. -/
theorem trimmed_marked {cs : List Char} (hex : ∀ c ∈ cs, isDigit c = true) :
    Trimmed ('0' :: 'x' :: cs) := by
  have mark : ∀ c ∈ ['0', 'x'], isBlank c = false := by
    intro c member
    rcases List.mem_pair.mp member with rfl | rfl
    · decide
    · decide
  exact (Trimmed.of_forall mark).append (trimmed_of_isDigit hex)

@[simp] theorem length_encodeChars (bytes : Bytes) :
    (encodeChars bytes).length = 2 * bytes.length := by
  induction bytes with
  | nil => rfl
  | cons b rest ih =>
    rw [encodeChars, List.flatMap_cons, List.length_append, ← encodeChars, ih]
    simp only [List.length_cons, List.length_nil]
    omega

theorem halves_join (b : UInt8) : 16 * (b / 16) + b % 16 = b := by
  have := b.toNat_lt
  rw [← UInt8.toNat_inj]
  simp only [UInt8.toNat_add, UInt8.toNat_mul, UInt8.toNat_div, UInt8.toNat_mod,
    UInt8.reduceToNat]
  omega

/-- Digits are read in pairs, wherever in a text they start. -/
theorem decodeAt_encodeChars (bytes : Bytes) (index : Nat) :
    decodeAt index ((encodeChars bytes).map Char.toUInt8) = .ok bytes := by
  induction bytes generalizing index with
  | nil => rfl
  | cons b rest ih =>
    obtain ⟨high, low⟩ := halves_lt b
    have front : (encodeChars (b :: rest)).map Char.toUInt8 =
        (digitChar (b / 16)).toUInt8 :: (digitChar (b % 16)).toUInt8 ::
          (encodeChars rest).map Char.toUInt8 := rfl
    rw [front, decodeAt, digitValue?_digitChar _ high, digitValue?_digitChar _ low]
    simp only [ih, halves_join]
    rfl

theorem decode_encodeChars (bytes : Bytes) :
    decode (Bytes.ofChars (encodeChars bytes)) = .ok bytes := by
  rw [Bytes.ofChars_ascii fun c member => (ascii_of_isDigit (isDigit_of_mem_encodeChars member)).1]
  have even : ((encodeChars bytes).map Char.toUInt8).length % 2 ≠ 1 := by
    rw [List.length_map, length_encodeChars]
    omega
  rw [decode, if_neg even, decodeAt_encodeChars]

/-- Each pair of digits is a byte. -/
theorem length_of_decodeAt {index : Nat} {text bytes : List UInt8}
    (h : decodeAt index text = .ok bytes) : bytes.length = text.length / 2 := by
  induction index, text using decodeAt.induct generalizing bytes with
  | case1 index high low rest wrong =>
    rw [decodeAt, wrong] at h
    cases h
  | case2 index high low rest value wrong digit =>
    rw [decodeAt, digit, wrong] at h
    cases h
  | case3 index high low rest upper lower digit digit' ih =>
    rw [decodeAt, digit, digit'] at h
    cases read : decodeAt (index + 2) rest with
    | ok others =>
      simp only [read] at h
      cases h
      simp only [List.length_cons, ih read]
      omega
    | error fault =>
      simp only [read] at h
      cases h
  | case4 text index short =>
    rcases text with - | ⟨b, - | ⟨c, rest⟩⟩
    · cases h
      rfl
    · cases h
      simp
    · exact (short b c rest rfl).elim

theorem length_of_decode {text bytes : List UInt8} (h : decode text = .ok bytes) :
    bytes.length = text.length / 2 := by
  unfold decode at h
  split at h
  · cases h
  · exact length_of_decodeAt h

/-- The number that a digit stands for. -/
def digitNumber (c : Char) : Nat :=
  if c ≤ '9' then c.toNat - 48 else if c ≤ 'F' then c.toNat - 55 else c.toNat - 87

/-- The number that digits spell, the highest first. -/
def number (digits : List Char) : Nat := digits.foldl (fun n c => 16 * n + digitNumber c) 0

theorem digitValue?_of_isDigit {c : Char} (h : isDigit c = true) :
    digitValue? c.toUInt8 = some (UInt8.ofNat (digitNumber c)) ∧ digitNumber c < 16 :=
  forall_ascii (p := fun c => isDigit c = true →
    digitValue? c.toUInt8 = some (UInt8.ofNat (digitNumber c)) ∧ digitNumber c < 16)
    (by decide) (ascii_of_isDigit h).1 h

theorem isDigit_of_digitValue? {c : Char} (small : c.toNat < 128)
    (h : (digitValue? c.toUInt8).isSome) : isDigit c = true :=
  forall_ascii (p := fun c => (digitValue? c.toUInt8).isSome → isDigit c = true) (by decide) small h

theorem digitValue?_of_ge {b : UInt8} (h : 128 ≤ b.toNat) : digitValue? b = none := by
  simp only [digitValue?, Bool.and_eq_true, decide_eq_true_eq, UInt8.le_iff_toNat_le,
    UInt8.reduceToNat]
  rw [if_neg (by omega), if_neg (by omega), if_neg (by omega)]

/-- A text whose bytes are all digits has no other characters. -/
theorem isDigit_of_ofChars {cs : List Char}
    (h : ∀ b ∈ Bytes.ofChars cs, (digitValue? b).isSome) : ∀ c ∈ cs, isDigit c = true := by
  induction cs with
  | nil => exact fun _ member => nomatch member
  | cons c rest ih =>
    rw [Bytes.ofChars_cons, List.forall_mem_append] at h
    refine List.forall_mem_cons.mpr ⟨?_, ih h.2⟩
    rcases Nat.lt_or_ge c.toNat 128 with small | wide
    · refine isDigit_of_digitValue? small (h.1 _ ?_)
      rw [Bytes.utf8EncodeChar_of_lt small]
      exact List.mem_cons_self
    · obtain ⟨b, more, form, high⟩ := Bytes.head_of_utf8EncodeChar wide
      have first := h.1 b (by rw [form]; exact List.mem_cons_self)
      rw [digitValue?_of_ge high] at first
      cases first

theorem isSome_of_decodeAt {index : Nat} {text bytes : List UInt8} (even : text.length % 2 = 0)
    (h : decodeAt index text = .ok bytes) : ∀ b ∈ text, (digitValue? b).isSome := by
  induction index, text using decodeAt.induct generalizing bytes with
  | case1 index high low rest wrong =>
    rw [decodeAt, wrong] at h
    cases h
  | case2 index high low rest value wrong digit =>
    rw [decodeAt, digit, wrong] at h
    cases h
  | case3 index high low rest upper lower digit digit' ih =>
    rw [decodeAt, digit, digit'] at h
    cases read : decodeAt (index + 2) rest with
    | ok others =>
      have pairs : rest.length % 2 = 0 := by
        simp only [List.length_cons] at even
        omega
      simp only [List.forall_mem_cons, digit, digit', Option.isSome_some, true_and]
      exact ih pairs read
    | error fault =>
      simp only [read] at h
      cases h
  | case4 text index short =>
    rcases text with - | ⟨b, - | ⟨c, rest⟩⟩
    · exact fun _ member => nomatch member
    · cases even
    · exact (short b c rest rfl).elim

/-- Two digits are a byte, and all digits together are the number of all bytes. -/
theorem decodeAt_of_isDigit : (cs : List Char) → (∀ c ∈ cs, isDigit c = true) →
    cs.length % 2 = 0 → ∀ index, ∃ bytes, decodeAt index (cs.map Char.toUInt8) = .ok bytes ∧
      ∀ n, bytes.foldl (fun n b => 256 * n + b.toNat) n =
        cs.foldl (fun n c => 16 * n + digitNumber c) n
  | [], _, _, _ => ⟨[], rfl, fun _ => rfl⟩
  | [_], _, even, _ => nomatch even
  | c :: d :: rest, hex, even, index => by
    simp only [List.forall_mem_cons] at hex
    obtain ⟨upper, high⟩ := digitValue?_of_isDigit hex.1
    obtain ⟨lower, low⟩ := digitValue?_of_isDigit hex.2.1
    have pairs : rest.length % 2 = 0 := by
      simp only [List.length_cons] at even
      omega
    obtain ⟨bytes, read, same⟩ := decodeAt_of_isDigit rest hex.2.2 pairs (index + 2)
    refine ⟨_, by rw [List.map_cons, List.map_cons, decodeAt, upper, lower, read]; rfl, fun n => ?_⟩
    rw [List.foldl_cons, same, List.foldl_cons, List.foldl_cons]
    congr 1
    simp only [UInt8.toNat_add, UInt8.toNat_mul, UInt8.toNat_ofNat', UInt8.reduceToNat]
    omega

theorem decode_eq_ok {cs : List Char} {bytes : Bytes}
    (h : decode (Bytes.ofChars cs) = .ok bytes) : ∀ c ∈ cs, isDigit c = true := by
  unfold decode at h
  split at h
  · cases h
  · next pairs => exact isDigit_of_ofChars (isSome_of_decodeAt (by omega) h)

theorem toNat_reverse (bytes : Bytes) :
    Bytes.toNat bytes.reverse = bytes.foldl (fun n b => 256 * n + b.toNat) 0 := by
  rw [← List.foldr_reverse]
  induction bytes.reverse with
  | nil => rfl
  | cons b rest ih => rw [Bytes.toNat, ih, List.foldr_cons, Nat.add_comm]

theorem decode_of_isDigit {cs : List Char} (hex : ∀ c ∈ cs, isDigit c = true)
    (pairs : cs.length % 2 = 0) : ∃ bytes, decode (Bytes.ofChars cs) = .ok bytes ∧
      bytes.length = cs.length / 2 ∧ Bytes.toNat bytes.reverse = number cs := by
  obtain ⟨bytes, read, same⟩ := decodeAt_of_isDigit cs hex pairs 0
  refine ⟨bytes, ?_, ?_, (toNat_reverse bytes).trans (same 0)⟩
  · rw [Bytes.ofChars_ascii fun c member => (ascii_of_isDigit (hex c member)).1, decode,
      List.length_map, if_neg (by omega), read]
  · rw [length_of_decodeAt read, List.length_map]

theorem digitChar_digitNumber {c : Char} (h : isDigit c = true) :
    digitChar (UInt8.ofNat (digitNumber c)) = c.toLower :=
  forall_ascii (p := fun c => isDigit c = true →
    digitChar (UInt8.ofNat (digitNumber c)) = c.toLower) (by decide) (ascii_of_isDigit h).1 h

/-- The two digits of a byte that was read from two digits. -/
theorem halves_of_join {h l : UInt8} (high : h < 16) (low : l < 16) :
    (16 * h + l) / 16 = h ∧ (16 * h + l) % 16 = l := by
  rw [UInt8.lt_iff_toNat_lt] at high low
  simp only [UInt8.reduceToNat] at high low
  rw [← UInt8.toNat_inj, ← UInt8.toNat_inj]
  simp only [UInt8.toNat_add, UInt8.toNat_mul, UInt8.toNat_div, UInt8.toNat_mod,
    UInt8.reduceToNat]
  omega

/-- What is read from digits is written again as the same digits, all of them lowercase. -/
theorem encodeChars_of_decodeAt : (cs : List Char) → (∀ c ∈ cs, isDigit c = true) →
    cs.length % 2 = 0 → ∀ {index bytes}, decodeAt index (cs.map Char.toUInt8) = .ok bytes →
      encodeChars bytes = cs.map Char.toLower
  | [], _, _, _, _, read => by
    cases read
    rfl
  | [_], _, even, _, _, _ => nomatch even
  | c :: d :: rest, hex, even, index, bytes, read => by
    simp only [List.forall_mem_cons] at hex
    obtain ⟨upper, high⟩ := digitValue?_of_isDigit hex.1
    obtain ⟨lower, low⟩ := digitValue?_of_isDigit hex.2.1
    rw [List.map_cons, List.map_cons, decodeAt, upper, lower] at read
    cases inner : decodeAt (index + 2) (rest.map Char.toUInt8) with
    | error fault =>
      simp only [inner] at read
      cases read
    | ok others =>
      simp only [inner] at read
      cases read
      have pairs : rest.length % 2 = 0 := by
        simp only [List.length_cons] at even
        omega
      have behind := encodeChars_of_decodeAt rest hex.2.2 pairs inner
      have small {n : Nat} (h : n < 16) : UInt8.ofNat n < 16 := by
        rw [UInt8.lt_iff_toNat_lt, UInt8.toNat_ofNat_of_lt' (by simp only [UInt8.size]; omega)]
        exact h
      obtain ⟨first, second⟩ := halves_of_join (small high) (small low)
      rw [encodeChars, List.flatMap_cons, ← encodeChars, behind, first, second,
        digitChar_digitNumber hex.1, digitChar_digitNumber hex.2.1]
      rfl

theorem encodeChars_of_decode {cs : List Char} {bytes : Bytes}
    (read : decode (Bytes.ofChars cs) = .ok bytes) : encodeChars bytes = cs.map Char.toLower := by
  have hex := decode_eq_ok read
  rw [Bytes.ofChars_ascii fun c member => (ascii_of_isDigit (hex c member)).1, decode,
    List.length_map] at read
  split at read
  · cases read
  · next even => exact encodeChars_of_decodeAt cs hex (by omega) read

end Text.Hex

/-- No mark is taken off digits alone. -/
theorem dropHexMark_of_isDigit {cs : List Char} (h : ∀ c ∈ cs, Text.Hex.isDigit c = true) :
    dropHexMark cs = cs := by
  unfold dropHexMark
  split
  · exact absurd (h 'x' (by simp)) (by decide)
  · exact absurd (h 'X' (by simp)) (by decide)
  · rfl

end MoveWire
