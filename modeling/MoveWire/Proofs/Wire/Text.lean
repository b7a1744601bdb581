import MoveWire.Proofs.Text.Base64

/-!
Byte strings are read back from their texts. Hexadecimal text always is, with or without its mark.
Base64 text is too where nothing but Base64 is expected; where both are, the mark decides, and
there are bytes whose Base64 begins like a mark.
-/

namespace MoveWire.Bytes

open Text

/-- The name of a text only matters for what is said of its fault. -/
theorem ofHex_cases (text : String) :
    (∃ bytes, ∀ context, ofHex text context = .ok bytes) ∨
    ∃ fault, ∀ context, ofHex text context = .error (.text (.hex context text fault)) := by
  unfold ofHex
  cases Hex.decode (ofChars (dropHexMark (trim text.toList))) with
  | ok bytes => exact .inl ⟨bytes, fun _ => rfl⟩
  | error fault => exact .inr ⟨fault, fun _ => rfl⟩

theorem ofBase64_cases (text : String) :
    (∃ bytes, ∀ context, ofBase64 text context = .ok bytes) ∨
    ∃ fault, ∀ context, ofBase64 text context = .error (.text (.base64 context fault)) := by
  unfold ofBase64
  cases Base64.decode (ofChars (trim text.toList)) with
  | ok bytes => exact .inl ⟨bytes, fun _ => rfl⟩
  | error fault => exact .inr ⟨fault, fun _ => rfl⟩

theorem ofBase64_toBase64 (bytes : Bytes) (context : String) :
    ofBase64 (toBase64 bytes) context = .ok bytes := by
  rw [ofBase64, toBase64, trim_of_trimmed (Base64.trimmed_encode bytes), Base64.ofChars_encode,
    Base64.decode_encodeBytes]

theorem ofHex_eq_ok {bytes : Bytes} {cs : List Char} (context : String) (trimmed : Trimmed cs)
    (digits : dropHexMark cs = Hex.encodeChars bytes) :
    ofHex (String.ofList cs) context = .ok bytes := by
  rw [ofHex, String.toList_ofList, trim_of_trimmed trimmed, digits, Hex.decode_encodeChars]

theorem ofHex_toHex (bytes : Bytes) (context : String) :
    ofHex (toHex bytes) context = .ok bytes :=
  have hex : ∀ c ∈ Hex.encodeChars bytes, Hex.isDigit c = true :=
    fun _ member => Hex.isDigit_of_mem_encodeChars member
  ofHex_eq_ok context (Hex.trimmed_of_isDigit hex) (dropHexMark_of_isDigit hex)

theorem toList_toMarkedHex (bytes : Bytes) :
    (toMarkedHex bytes).toList = '0' :: 'x' :: Hex.encodeChars bytes := by
  simp [toMarkedHex, toHex, Hex.encode]

theorem trimmed_toMarkedHex (bytes : Bytes) : Trimmed (toMarkedHex bytes).toList := by
  rw [toList_toMarkedHex]
  exact Hex.trimmed_marked fun _ member => Hex.isDigit_of_mem_encodeChars member

theorem ofHex_toMarkedHex (bytes : Bytes) (context : String) :
    ofHex (toMarkedHex bytes) context = .ok bytes := by
  rw [← String.ofList_toList (s := toMarkedHex bytes)]
  refine ofHex_eq_ok context (trimmed_toMarkedHex bytes) ?_
  rw [toList_toMarkedHex]
  rfl

/-- Is the Base64 text of these bytes one that begins with a hexadecimal mark? -/
def looksMarked : Bytes → Bool
  | a :: b :: _ => (a == 0xD3 && b >>> 4 == 1) || (a == 0xD1 && b >>> 4 == 7)
  | _ => false

theorem hasHexMark_cons_cons (c d : Char) (rest : List Char) :
    hasHexMark (c :: d :: rest) = true ↔ c = '0' ∧ (d = 'x' ∨ d = 'X') := by
  constructor
  · intro marked
    unfold hasHexMark at marked
    split at marked
    · next same =>
      cases same
      exact ⟨rfl, .inl rfl⟩
    · next same =>
      cases same
      exact ⟨rfl, .inr rfl⟩
    · cases marked
  · rintro ⟨rfl, rfl | rfl⟩
    · rfl
    · rfl

/-- The first two symbols are a mark for two values each of the first byte and the half after. -/
theorem hasHexMark_symbols (a b : UInt8) (rest : List Char) :
    hasHexMark (Char.ofUInt8 (Base64.symbol (a >>> 2)) ::
      Char.ofUInt8 (Base64.symbol ((a &&& 3) <<< 4 ||| b >>> 4)) :: rest) = true ↔
      a = 0xD3 ∧ b >>> 4 = 1 ∨ a = 0xD1 ∧ b >>> 4 = 7 := by
  obtain ⟨first, second, -, -⟩ := Base64.cuts_lt a b 0
  have zero : '0' = Char.ofUInt8 (Base64.symbol 52) := by decide
  have lower : 'x' = Char.ofUInt8 (Base64.symbol 49) := by decide
  have upper : 'X' = Char.ofUInt8 (Base64.symbol 23) := by decide
  rw [hasHexMark_cons_cons, zero, lower, upper, Base64.ofUInt8_injective.eq_iff,
    Base64.ofUInt8_injective.eq_iff, Base64.ofUInt8_injective.eq_iff,
    Base64.symbol_eq_iff first (by decide), Base64.symbol_eq_iff second (by decide),
    Base64.symbol_eq_iff second (by decide)]
  have whole := Base64.join_first a b
  have half := Base64.second_half a b
  constructor
  · rintro ⟨high, low | low⟩
    · rw [high, low] at whole
      rw [low] at half
      exact .inl ⟨whole.symm, half.symm⟩
    · rw [high, low] at whole
      rw [low] at half
      exact .inr ⟨whole.symm, half.symm⟩
  · rintro (⟨rfl, low⟩ | ⟨rfl, low⟩)
    · rw [low]
      decide
    · rw [low]
      decide

theorem hasHexMark_toBase64 (bytes : Bytes) :
    hasHexMark (toBase64 bytes).toList = looksMarked bytes := by
  rw [toBase64, Base64.toList_encode, Bool.eq_iff_iff]
  match bytes with
  | [] => simp [Base64.encodeBytes, hasHexMark, looksMarked]
  | [a] =>
    have two := hasHexMark_symbols a 0 [Char.ofUInt8 Base64.pad, Char.ofUInt8 Base64.pad]
    simp only [UInt8.zero_shiftRight, UInt8.or_zero] at two
    simpa [Base64.encodeBytes, looksMarked] using two
  | [a, b] =>
    have two := hasHexMark_symbols a b
    simp [Base64.encodeBytes, looksMarked, two]
  | a :: b :: c :: rest =>
    have two := hasHexMark_symbols a b
    simp [Base64.encodeBytes, looksMarked, two]

theorem dropHexMark_of_hasHexMark {cs : List Char} (h : hasHexMark cs = true) :
    dropHexMark cs = cs.drop 2 := by
  unfold hasHexMark at h
  split at h
  · rfl
  · rfl
  · cases h

theorem length_of_ofHex {text context : String} {bytes : Bytes} (trimmed : Trimmed text.toList)
    (ascii : ∀ c ∈ text.toList, c.toNat < 128) (marked : hasHexMark text.toList = true)
    (h : ofHex text context = .ok bytes) : bytes.length = (text.toList.length - 2) / 2 := by
  rw [ofHex, trim_of_trimmed trimmed, dropHexMark_of_hasHexMark marked] at h
  cases read : Hex.decode (ofChars (text.toList.drop 2)) with
  | error fault =>
    rw [read] at h
    cases h
  | ok taken =>
    rw [read] at h
    cases h
    have digits : ∀ c ∈ text.toList.drop 2, c.toNat < 128 :=
      fun c member => ascii c (List.mem_of_mem_drop member)
    rw [Hex.length_of_decode read, length_ofChars digits, List.length_drop]

/-- A text without blanks around it is taken for what its mark says. -/
theorem ofText_of_trimmed {text : String} (h : Trimmed text.toList) (context : String) :
    ofText text context =
      if hasHexMark text.toList then ofHex text context else ofBase64 text context := by
  rw [ofText]
  simp only [trimString_of_trimmed h]

theorem ofText_toMarkedHex (bytes : Bytes) (context : String) :
    ofText (toMarkedHex bytes) context = .ok bytes := by
  have marked : hasHexMark (toMarkedHex bytes).toList = true := by
    rw [toList_toMarkedHex]
    rfl
  rw [ofText_of_trimmed (trimmed_toMarkedHex bytes), if_pos marked, ofHex_toMarkedHex]

theorem ofText_toBase64 (bytes : Bytes) (context : String) :
    ofText (toBase64 bytes) context =
      if looksMarked bytes then ofHex (toBase64 bytes) context else .ok bytes := by
  have trimmed : Trimmed (toBase64 bytes).toList := Base64.trimmed_encode bytes
  rw [ofText_of_trimmed trimmed, hasHexMark_toBase64, ofBase64_toBase64]

theorem two_le_length_of_looksMarked {bytes : Bytes} (h : looksMarked bytes = true) :
    2 ≤ bytes.length := by
  match bytes with
  | a :: b :: rest => simp

/-- As hexadecimal text the symbols stand for a smaller number of bytes. -/
theorem ofHex_toBase64_ne {bytes : Bytes} (marked : looksMarked bytes = true) (context : String) :
    ofHex (toBase64 bytes) context ≠ .ok bytes := by
  intro read
  have least := two_le_length_of_looksMarked marked
  rw [← hasHexMark_toBase64] at marked
  have size := length_of_ofHex (Base64.trimmed_encode bytes) (Base64.ascii_encode bytes) marked read
  rw [Base64.toList_encode, List.length_map, Base64.length_encodeBytes] at size
  omega

theorem ofText_toBase64_eq_ok_iff (bytes : Bytes) (context : String) :
    ofText (toBase64 bytes) context = .ok bytes ↔ looksMarked bytes = false := by
  rw [ofText_toBase64]
  by_cases marked : looksMarked bytes = true
  · rw [if_pos marked]
    exact iff_of_false (ofHex_toBase64_ne marked context) (by simp [marked])
  · rw [if_neg marked]
    exact iff_of_true rfl (eq_false_of_ne_true marked)

end MoveWire.Bytes
