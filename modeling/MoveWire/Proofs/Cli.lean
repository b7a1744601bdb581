import MoveWire.Cli
import MoveWire.Proofs.Wire.Text

/-!
What one command prints another one reads. Bytes printed as hexadecimal text always come back.
Bytes printed as Base64 do unless their text begins like a hexadecimal mark, for then it is taken
to be one: some texts are written in both notations, so no reading can be right for each of them.
-/

namespace MoveWire.Cli

variable {sources : Sources}

/-- A printed text comes as a word, or as a line of the standard input that a hyphen stands for. -/
def Handed (sources : Sources) (text word : String) : Prop :=
  word = text ∨ word = "-" ∧ sources.stdin = .ok (line text)

theorem Run.ofWire_eq_ok {α : Type} {x : Fallible α} {a : α} :
    Run.ofWire x = .ok a ↔ x = .ok a := by
  cases x with
  | ok b => simp [ofWire]
  | error e => simp [ofWire, fail]

/-- The end of the line is taken off on the way. -/
theorem readInput_of_handed {text word : String} (trimmed : Text.Trimmed text.toList)
    (other : text ≠ "-") (handed : Handed sources text word) :
    readInput sources word = .ok text := by
  rcases handed with rfl | ⟨rfl, given⟩
  · rw [readInput, if_neg (by simpa using other), Text.trimString_of_trimmed trimmed]
  · have taken : Text.trimString (line text) = text := by
      have spaced : Text.Spaced (line text).toList text.toList :=
        ⟨[], ['\n'], .nil, .single rfl, by simp [line]⟩
      rw [Text.trimString, Text.trim_of_spaced spaced trimmed, String.ofList_toList]
    rw [readInput, if_pos (by rfl)]
    simp only [given, taken]

theorem readBytes_of_handed {text word : String} (trimmed : Text.Trimmed text.toList)
    (other : text ≠ "-") (handed : Handed sources text word) (what : String) (bytes : Bytes) :
    readBytes sources word what = .ok bytes ↔ Bytes.ofText text what = .ok bytes := by
  have given := readInput_of_handed trimmed other handed
  rw [readBytes, given]
  exact Run.ofWire_eq_ok

theorem bytesText_hex_ne (bytes : Bytes) : bytesText .hex bytes ≠ "-" := by
  intro same
  have chars := congrArg String.toList same
  rw [bytesText, Bytes.toList_toMarkedHex] at chars
  cases chars

theorem bytesText_base64_ne (bytes : Bytes) : bytesText .base64 bytes ≠ "-" := by
  intro same
  have chars := congrArg String.toList same
  rw [bytesText, Bytes.toBase64, Text.Base64.toList_encode] at chars
  have hyphen : '-' ∈ (Text.Base64.encodeBytes bytes).map Char.ofUInt8 := by
    rw [chars]
    decide
  obtain ⟨b, written, shown⟩ := List.mem_map.mp hyphen
  exact (Text.Base64.plain_of_mem_encodeBytes written).2.2 shown

/-- Texts of bytes are read back as these bytes, but for Base64 text that begins like a mark. That
is read as hexadecimal text, which is never of as many bytes. So a command reads what another one
has printed, in the one notation always and in the other with the same exception. -/
theorem printed_bytes_read_back :
    (∀ (bytes : Bytes) (context : String),
      Bytes.ofHex (Bytes.toHex bytes) context = .ok bytes ∧
      Bytes.ofText (Bytes.toMarkedHex bytes) context = .ok bytes ∧
      (Bytes.ofText (Bytes.toBase64 bytes) context = .ok bytes ↔
        hasHexMark (Bytes.toBase64 bytes).toList = false) ∧
      hasHexMark (Bytes.toBase64 bytes).toList = Bytes.looksMarked bytes ∧
      (Bytes.looksMarked bytes = true → Bytes.ofText (Bytes.toBase64 bytes) context =
        Bytes.ofHex (Bytes.toBase64 bytes) context)) ∧
    ∀ (sources : Sources) (bytes : Bytes) (word what : String),
      (Handed sources (bytesText .hex bytes) word →
        readBytes sources word what = .ok bytes) ∧
      (Handed sources (bytesText .base64 bytes) word →
        (readBytes sources word what = .ok bytes ↔ Bytes.looksMarked bytes = false)) := by
  constructor
  · intro bytes context
    refine ⟨Bytes.ofHex_toHex bytes context, Bytes.ofText_toMarkedHex bytes context, ?_,
      Bytes.hasHexMark_toBase64 bytes, ?_⟩
    · rw [Bytes.hasHexMark_toBase64]
      exact Bytes.ofText_toBase64_eq_ok_iff bytes context
    · intro marked
      rw [Bytes.ofText_toBase64, if_pos marked]
  · intro sources bytes word what
    constructor
    · intro handed
      refine (readBytes_of_handed ?_ (bytesText_hex_ne bytes) handed what bytes).mpr ?_
      · exact Bytes.trimmed_toMarkedHex bytes
      · exact Bytes.ofText_toMarkedHex bytes what
    · intro handed
      refine (readBytes_of_handed ?_ (bytesText_base64_ne bytes) handed what bytes).trans ?_
      · exact Text.Base64.trimmed_encode bytes
      · exact Bytes.ofText_toBase64_eq_ok_iff bytes what

/-- The standard input is the line that was printed for three bytes. -/
def piped : Sources := ⟨fun _ => none, .ok "0THf\n", fun _ => .error "no file", .zero 32⟩

theorem printed_bytes_read_back_of_piped :
    let bytes : Bytes := [0xD1, 0x31, 0xDF]
    let marked : Bytes := [0xD1, 0x71, 0xDF]
    Bytes.ofText "0xd131df" "bytes" = .ok bytes ∧ Bytes.looksMarked bytes = false ∧
      readBytes piped "0xd131df" "bytes" = .ok bytes ∧ readBytes piped "-" "bytes" = .ok bytes ∧
      Bytes.looksMarked marked = true ∧
      Bytes.ofText (Bytes.toBase64 marked) "bytes" = Bytes.ofHex (Bytes.toBase64 marked) "bytes" := by
  intro bytes marked
  obtain ⟨-, text, -⟩ := printed_bytes_read_back.1 bytes "bytes"
  obtain ⟨-, -, -, -, taken⟩ := printed_bytes_read_back.1 marked "bytes"
  have word : Handed piped (bytesText .hex bytes) "0xd131df" := .inl (by decide +kernel)
  have lines : Handed piped (bytesText .base64 bytes) "-" := .inr ⟨rfl, by decide +kernel⟩
  have plain : Bytes.looksMarked bytes = false := by decide
  have clash : Bytes.looksMarked marked = true := by decide
  have shown : Bytes.toMarkedHex bytes = "0xd131df" := by decide +kernel
  rw [shown] at text
  exact ⟨text, plain, (printed_bytes_read_back.2 piped bytes "0xd131df" "bytes").1 word,
    ((printed_bytes_read_back.2 piped bytes "-" "bytes").2 lines).mpr plain, clash, taken clash⟩

/-- Three bytes whose Base64 text is the marked text of one other byte: it is read as that one. -/
theorem base64_misread_as_marked :
    let bytes : Bytes := [0xD3, 0x1D, 0xB4]
    Bytes.toBase64 bytes = Bytes.toMarkedHex [0x20] ∧
      Bytes.ofText (Bytes.toBase64 bytes) "bytes" = .ok [0x20] ∧
      Bytes.ofText (Bytes.toBase64 bytes) "bytes" ≠ .ok bytes ∧
      readBytes piped (bytesText .base64 bytes) "bytes" ≠ .ok bytes := by
  decide +kernel

end MoveWire.Cli
