import MoveWire.Proofs.Address

/-!
The texts of one address: full and short, with and without the mark, in digits of either case. Main
statement: every text that is read as an address, in one way or the other, is brought to the full
and to the short text that the address itself has.
-/

namespace MoveWire

open Text

/-- ASCII text goes into lowercase character by character, whatever stands before it. -/
theorem Text.Casing.lowerFrom_ascii {cs : List Char} (h : ∀ c ∈ cs, c.toNat < 128)
    (before : List Char) : lowerFrom before cs = cs.map Char.toLower := by
  induction cs generalizing before with
  | nil => rfl
  | cons c rest ih =>
    obtain ⟨small, others⟩ := List.forall_mem_cons.mp h
    have sigma : c ≠ 'Σ' := by
      rintro rfl
      exact absurd small (by decide)
    have dotted : c ≠ 'İ' := by
      rintro rfl
      exact absurd small (by decide)
    rw [lowerFrom, lowerAt, if_neg sigma, if_neg dotted, lowerChar, if_pos small, ih others]
    rfl

namespace Address

/-- Filling up with zeros and going into lowercase do not depend on each other. -/
theorem padDigits_map_toLower (cs : List Char) :
    padDigits (cs.map Char.toLower) = (padDigits cs).map Char.toLower := by
  have zero : Char.toLower '0' = '0' := by decide
  rw [padDigits, padDigits, List.map_append, List.map_replicate, List.length_map, zero]

theorem shortDigits_cases (cs : List Char) :
    shortDigits cs = ['0'] ∨ ∃ c rest, shortDigits cs = c :: rest ∧ c ≠ '0' := by
  unfold shortDigits
  split
  · exact .inl rfl
  · next digits =>
    obtain ⟨c, rest, form⟩ := List.exists_cons_of_ne_nil digits
    have first := List.head?_dropWhile_not (· == '0') cs
    rw [form] at first
    exact .inr ⟨c, rest, form, by simpa using first⟩

theorem IsFull.encodeChars {cs : List Char} {a : Address} (h : IsFull cs a) :
    Hex.encodeChars a.bytes = cs.map Char.toLower := Hex.encodeChars_of_decode h.decode

/-- Full digits have no room for zeros in front. -/
theorem IsFull.padDigits {cs : List Char} {a : Address} (h : IsFull cs a) :
    padDigits cs = cs := by
  rw [Address.padDigits, h.size]
  rfl

theorem IsLiteral.padDigits {cs digits : List Char} {a : Address} (h : IsLiteral cs a digits) :
    dropHexMark (trim cs) = digits ∧ IsFull (padDigits digits) a := by
  constructor
  · rw [h.marked, trim_of_trimmed (Hex.trimmed_marked h.hex)]
    rfl
  · refine ⟨length_padDigits h.most, isDigit_padDigits h.hex, ?_⟩
    rw [number_padDigits]
    exact h.number

/-- Digits of either case, with or without the zeros in front, become the digits of the full
text. -/
theorem normalizedDigits_eq {text : String} {a : Address}
    (h : IsFull (padDigits (dropHexMark (trim text.toList))) a) :
    normalizedDigits text = Hex.encodeChars a.bytes := by
  have ascii : ∀ c ∈ dropHexMark (trim text.toList), c.toNat < 128 :=
    fun c member => (Hex.ascii_of_isDigit (h.hex c (List.mem_append_right _ member))).1
  rw [normalizedDigits, Casing.lowercase, String.toList_ofList, String.toList_ofList,
    Casing.lowerFrom_ascii ascii, padDigits_map_toLower, h.encodeChars]

/-- Both ways to read take a text whose digits, filled up, are those of the address. -/
theorem isFull_of_read {text : String} {a : Address}
    (h : parseLiteral text = .ok a ∨ parse text = .ok a) :
    IsFull (padDigits (dropHexMark (trim text.toList))) a := by
  rcases h with literal | full
  · rw [← String.ofList_toList (s := text)] at literal
    obtain ⟨digits, spelled⟩ := parseLiteral_eq_ok_iff.mp literal
    obtain ⟨bare, filled⟩ := spelled.padDigits
    rwa [bare]
  · have spelled := parse_eq_ok_iff.mp full
    rwa [spelled.padDigits]

theorem normalize_of_read {text : String} {a : Address}
    (h : parseLiteral text = .ok a ∨ parse text = .ok a) :
    normalize text = a.text ∧ normalizeShort text = a.shortText := by
  rw [normalize, normalizeShort, normalizedDigits_eq (isFull_of_read h)]
  exact ⟨rfl, rfl⟩

/-- The number that the bytes of an address spell is all that its digits tell, as 64 of them have
room for it. -/
theorem IsLiteral.toNat {cs digits : List Char} {a : Address} (h : IsLiteral cs a digits) :
    Bytes.toNat a.bytes.reverse = Hex.number digits := by
  obtain ⟨-, filled⟩ := h.padDigits
  obtain ⟨bytes, read, -, number⟩ := Hex.decode_of_isDigit filled.hex (by rw [filled.size])
  rw [filled.decode] at read
  rw [Except.ok.inj read, number, number_padDigits]

theorem parseLiteral_text_iff {text : String} {a : Address} :
    parseLiteral text = .ok a ↔ ∃ digits, IsLiteral text.toList a digits := by
  rw [← parseLiteral_eq_ok_iff, String.ofList_toList]

/-- A literal is the mark and one to 64 digits, of the number that the address spells. The texts of
an address are read as the address; the short one has a zero in front only if it is all there is.
All texts that are read as an address, also with blanks around and digits of either case, come to
the texts of the address. -/
theorem texts_agree :
    (∀ text a, parseLiteral text = .ok a ↔ ∃ digits, IsLiteral text.toList a digits ∧
      Bytes.toNat a.bytes.reverse = Hex.number digits) ∧
    (∀ a, parseLiteral a.shortText = .ok a ∧ parse a.text = .ok a ∧ parse a.bareText = .ok a ∧
      (a.shortText = "0x0" ∨
        ∃ c rest, a.shortText.toList = '0' :: 'x' :: c :: rest ∧ c ≠ '0')) ∧
    ∀ text a, parseLiteral text = .ok a ∨ parse text = .ok a →
      normalize text = a.text ∧ normalizeShort text = a.shortText := by
  refine ⟨?_, ?_, ?_⟩
  · intro text a
    rw [parseLiteral_text_iff]
    constructor
    · rintro ⟨digits, spelled⟩
      exact ⟨digits, spelled, spelled.toNat⟩
    · rintro ⟨digits, spelled, -⟩
      exact ⟨digits, spelled⟩
  · intro a
    have short := parseLiteral_text_iff.mpr ⟨_, isLiteral_shortText a⟩
    refine ⟨short, parse_text a, parse_bareText a, ?_⟩
    rcases shortDigits_cases (Hex.encodeChars a.bytes) with zero | ⟨c, rest, form, some⟩
    · left
      rw [shortText, zero]
      rfl
    · right
      exact ⟨c, rest, by rw [toList_shortText, form], some⟩
  · intro text a read
    exact normalize_of_read read

/-- Blanks around, the other mark and capitals. -/
theorem capital_text_agrees :
    let text := "\t0X" ++ String.ofList (List.replicate 60 '0') ++ "DeE9 "
    let a := ofNat 0xdee9
    parse text = .ok a ∧ normalize text = a.text ∧ normalizeShort text = "0xdee9" := by
  intro text a
  have read : parse text = .ok a := by decide +kernel
  have short : a.shortText = "0xdee9" := by decide +kernel
  obtain ⟨full, brief⟩ := texts_agree.2.2 text a (.inr read)
  exact ⟨read, full, brief.trans short⟩

end Address

end MoveWire
