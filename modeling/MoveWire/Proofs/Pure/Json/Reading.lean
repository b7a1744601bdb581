import MoveWire.Proofs.Json
import MoveWire.Proofs.Number.Digits
import MoveWire.Proofs.Pure.Grammar
import MoveWire.Proofs.Pure.Json

/-!
Reading pure values from JSON. Whatever is read as of a type has that type, so writing it is never
refused for its type, and the bytes are those of the JSON that they are shown as. An integer, given
as a number or as text, becomes all of its digits in the field of its type or is out of range.
-/

namespace MoveWire

/-- The integer that a JSON value is, or that it spells as text. -/
inductive Json.Denotes : Json → Int → Prop
  | number (n : Int) : Denotes (.integer n) n
  | text {s : String} {n : Int} (spelled : Wide.parse s = .ok n) : Denotes (.string s) n

/-- How many bytes the integers of a type take. -/
def PureType.integerWidth? : PureType → Option Nat
  | .u8 => some 1
  | .u16 => some 2
  | .u32 => some 4
  | .u64 => some 8
  | .u128 => some 16
  | .u256 => some 32
  | _ => none

namespace PureValue

open Fallible

/-- A type read from just the integers that its field has room for. All others are out of range,
and JSON that denotes no integer is invalid. -/
structure ReadsIntegers (type : PureType) (width : Nat) : Prop where
  taken : ∀ json (n : Int), json.Denotes n → 0 ≤ n → n < (256 ^ width : Nat) →
    ∃ v out, ofJson type json = .ok v ∧ type.encode v = .ok out ∧ Wide.FieldOf width out n
  range : ∀ json (n : Int), json.Denotes n → ¬(0 ≤ n ∧ n < (256 ^ width : Nat)) →
    ∃ cause, ofJson type json = .error (.range cause)
  invalid : ∀ json, (∀ n, ¬json.Denotes n) → ∃ cause, ofJson type json = .error (.invalid cause)

/-- A refusal that is not for a value of another type. -/
def NoMismatch : WireError → Prop
  | .invalid (.valueMismatch _ _) => False
  | _ => True

theorem parseInteger_endsIn (text : String) : EndsIn (fun n => (Json.string text).Denotes n)
    (fun e => ∃ cause, e = .invalid cause ∧ NoMismatch e) (Wide.parse text) := by
  cases run : Wide.parse text with
  | ok n => exact .ok (.text run)
  | error e =>
    simp only [Wide.parse] at run
    split at run <;> cases run
    exact .error ⟨_, rfl, trivial⟩

theorem integerOfJson_endsIn (type : PureType) (json : Json) : EndsIn (fun n => json.Denotes n)
    (fun e => ∃ cause, e = .invalid cause ∧ NoMismatch e) (integerOfJson type json) := by
  cases json with
  | integer n => exact .ok (.number n)
  | string s => exact parseInteger_endsIn s
  | _ => exact .error ⟨_, rfl, trivial⟩

theorem integerOfJson_of_denotes {json : Json} {n : Int} (h : json.Denotes n) (type : PureType) :
    integerOfJson type json = .ok n := by
  cases h with
  | number => rfl
  | text spelled => exact spelled

theorem narrow_narrows (type : PureType) (bits : Nat) :
    Wide.Narrows (narrow type bits) (2 ^ bits) (fun m n => (m : Int) = n ∧ m < 2 ^ bits) := by
  refine .of_cases ?_ ?_ fun n => ?_
  · rintro m _ ⟨rfl, fits⟩
    exact ⟨Int.natCast_nonneg m, Int.ofNat_lt.mpr fits⟩
  · rintro a b _ ⟨rfl, -⟩ ⟨same, -⟩
    exact (Int.natCast_inj.mp same).symm
  · by_cases inside : 0 ≤ n ∧ n < (2 ^ bits : Nat)
    · obtain ⟨m, rfl⟩ := Int.eq_ofNat_of_zero_le inside.1
      have fits : m < 2 ^ bits := Int.ofNat_lt.mp inside.2
      exact .inl ⟨m, narrow_natCast fits, rfl, fits⟩
    · refine .inr ⟨inside, .jsonInteger n type.text, ?_⟩
      rw [narrow, if_neg (by exact_mod_cast inside)]

section Integer

variable {α : Type} {base : Int → Fallible α} {bound : Nat} {stands : α → Int → Prop}
  {type : PureType}

theorem integer_endsIn (narrows : Wide.Narrows base bound stands) (make : α → PureValue)
    (fine : ∀ a, (make a).check type = .ok ()) (json : Json) :
    EndsIn (fun v => v.check type = .ok ()) NoMismatch
      (do return make (← base (← integerOfJson type json))) := by
  cases denoted : integerOfJson type json with
  | error e =>
    obtain ⟨cause, -, apart⟩ := (integerOfJson_endsIn type json).fails e denoted
    exact .error apart
  | ok n =>
    rw [ok_bind]
    by_cases inside : 0 ≤ n ∧ n < bound
    · obtain ⟨a, taken⟩ := (narrows.fits_iff n).mpr inside
      rw [taken]
      exact .ok (fine a)
    · obtain ⟨cause, refused⟩ := (narrows.range_iff n).mpr inside
      rw [refused]
      exact .error trivial

theorem readsIntegers_of_narrows {width : Nat} (narrows : Wide.Narrows base (256 ^ width) stands)
    (make : α → PureValue)
    (run : ∀ json, ofJson type json = (do return make (← base (← integerOfJson type json))))
    (form : ∀ a n, stands a n → ∃ m : Nat, n = m ∧ m < 256 ^ width ∧
      type.encode (make a) = .ok (Bytes.ofNat width m)) : ReadsIntegers type width := by
  constructor
  · intro json n denoted least most
    obtain ⟨a, taken⟩ := (narrows.fits_iff n).mpr ⟨least, most⟩
    obtain ⟨m, rfl, fits, written⟩ := form a n ((narrows.ok_iff n a).mp taken)
    refine ⟨make a, _, ?_, written, Wide.fieldOf_ofNat fits⟩
    rw [run, integerOfJson_of_denotes denoted, ok_bind, taken]
    rfl
  · intro json n denoted outside
    obtain ⟨cause, refused⟩ := (narrows.range_iff n).mpr outside
    refine ⟨cause, ?_⟩
    rw [run, integerOfJson_of_denotes denoted, ok_bind, refused]
    rfl
  · intro json other
    rw [run]
    cases denoted : integerOfJson type json with
    | ok n => exact absurd ((integerOfJson_endsIn type json).gives n denoted) (other n)
    | error e =>
      obtain ⟨cause, rfl, -⟩ := (integerOfJson_endsIn type json).fails e denoted
      exact ⟨cause, rfl⟩

theorem readsIntegers_of_narrow {width : Nat} (make : Nat → PureValue)
    (run : ∀ json, ofJson type json =
      (do return make (← narrow type (8 * width) (← integerOfJson type json))))
    (form : ∀ m < 256 ^ width, type.encode (make m) = .ok (Bytes.ofNat width m)) :
    ReadsIntegers type width := by
  have narrows := narrow_narrows type (8 * width)
  rw [Nat.pow_mul] at narrows
  refine readsIntegers_of_narrows narrows make run ?_
  rintro m _ ⟨rfl, fits⟩
  exact ⟨m, rfl, fits, form m fits⟩

end Integer

theorem readsIntegers {type : PureType} {width : Nat} (h : type.integerWidth? = some width) :
    ReadsIntegers type width := by
  cases type with
  | u8 =>
    cases h
    exact readsIntegers_of_narrow (fun m => .u8 (.ofNat m)) (fun _ => rfl) fun _ _ => rfl
  | u16 =>
    cases h
    refine readsIntegers_of_narrow (fun m => .u16 (.ofNat m)) (fun _ => rfl) fun m fits => ?_
    exact congrArg (fun n => Except.ok (Bytes.ofNat 2 n)) (UInt16.toNat_ofNat_of_lt' fits)
  | u32 =>
    cases h
    refine readsIntegers_of_narrow (fun m => .u32 (.ofNat m)) (fun _ => rfl) fun m fits => ?_
    exact congrArg (fun n => Except.ok (Bytes.ofNat 4 n)) (UInt32.toNat_ofNat_of_lt' fits)
  | u64 =>
    cases h
    refine readsIntegers_of_narrow (fun m => .u64 (.ofNat m)) (fun _ => rfl) fun m fits => ?_
    exact congrArg (fun n => Except.ok (Bytes.ofNat 8 n)) (UInt64.toNat_ofNat_of_lt' fits)
  | u128 =>
    cases h
    refine readsIntegers_of_narrows Wide.toU128_narrows .u128 (fun _ => rfl) ?_
    rintro v _ rfl
    exact ⟨_, rfl, v.isLt, rfl⟩
  | u256 =>
    cases h
    refine readsIntegers_of_narrows Wide.toU256_narrows .u256 (fun _ => rfl) ?_
    rintro v _ rfl
    exact ⟨_, rfl, v.isLt, rfl⟩
  | _ => cases h

theorem ofHex_endsIn (text context : String) :
    EndsIn (fun _ => True) NoMismatch (Bytes.ofHex text context) := by
  unfold Bytes.ofHex
  split
  · exact .ok trivial
  · exact .error trivial

theorem parseAddress_endsIn (text : String) :
    EndsIn (fun _ => True) NoMismatch (Address.parse text) := by
  unfold Address.parse
  dsimp only
  split
  · exact .error trivial
  · split
    · exact .error trivial
    · unfold Address.ofBytes
      split
      · exact .ok trivial
      · exact .error trivial

/-- Whatever is read as of a type has the type. -/
theorem ofJson_endsIn (type : PureType) (json : Json) :
    EndsIn (fun v => v.check type = .ok ()) NoMismatch (ofJson type json) := by
  induction type generalizing json with
  | bool =>
    cases json with
    | bool b => exact .ok rfl
    | _ => exact .error trivial
  | u8 => exact integer_endsIn (narrow_narrows .u8 8) (fun m => .u8 (.ofNat m)) (fun _ => rfl) json
  | u16 =>
    exact integer_endsIn (narrow_narrows .u16 16) (fun m => .u16 (.ofNat m)) (fun _ => rfl) json
  | u32 =>
    exact integer_endsIn (narrow_narrows .u32 32) (fun m => .u32 (.ofNat m)) (fun _ => rfl) json
  | u64 =>
    exact integer_endsIn (narrow_narrows .u64 64) (fun m => .u64 (.ofNat m)) (fun _ => rfl) json
  | u128 => exact integer_endsIn Wide.toU128_narrows .u128 (fun _ => rfl) json
  | u256 => exact integer_endsIn Wide.toU256_narrows .u256 (fun _ => rfl) json
  | address =>
    cases json with
    | string s => exact (parseAddress_endsIn s).map _ fun _ _ => rfl
    | _ => exact .error trivial
  | string =>
    cases json with
    | string s => exact .ok rfl
    | _ => exact .error trivial
  | vector item ih =>
    cases json with
    | string s =>
      rw [ofJson]
      split
      · next bytes =>
        subst bytes
        refine (ofHex_endsIn s "vector<u8>").bind fun digits _ => .ok ?_
        refine checkItems_eq_ok.mpr fun v member => ?_
        obtain ⟨b, -, rfl⟩ := List.mem_map.mp member
        rfl
      · exact .error trivial
    | array items =>
      refine (EndsIn.mapM fun json _ => ih json).map _ fun vs each => ?_
      exact checkItems_eq_ok.mpr each
    | _ => exact .error trivial
  | option item ih =>
    unfold ofJson
    split
    · exact .ok rfl
    · exact (ih _).map _ fun _ fine => fine
    · exact .error trivial
    · exact (ih _).map _ fun _ fine => fine

end PureValue

namespace PureType

open Fallible PureValue

theorem parse_endsIn (name : String) :
    EndsIn (fun type => parse name = .ok type) NoMismatch (parse name) := by
  rcases parseWithin_cases maxTypeDepth name.toList with read | deep | ⟨word, unknown⟩
  · obtain ⟨type, read⟩ := read
    have run : parse name = .ok type := parseWithin_eq_ok_iff.mpr read
    rw [run]
    exact .ok rfl
  · have run : parse name = .error (.parse .depth) := deep.refused
    rw [run]
    exact .error trivial
  · have run : parse name = .error (.unknownType word) := unknown
    rw [run]
    exact .error trivial

/-- A value of the type is written as bytes that it is read back from, or a count is too large. -/
theorem encode_endsIn {type : PureType} {v : PureValue} (fine : v.check type = .ok ()) :
    EndsIn (fun form => type.decode form = .ok v) NoMismatch (type.encode v) := by
  obtain ⟨x, rfl⟩ := exists_ofContent fine
  have formed := (type.contentCodec_conforms.carries x).form_if
  rw [encode_ofContent]
  by_cases fits : type.Fits x
  · obtain ⟨form, written⟩ := formed.1 fits
    have run : type.contentCodec.encode x = .ok form := written
    rw [run]
    exact .ok (decode_of_encode run)
  · obtain ⟨cause, refused⟩ := formed.2 fits
    have run : type.contentCodec.encode x = .error (.range cause) := refused
    rw [run]
    exact .error trivial

theorem encodeJson_endsIn (name : String) (json : Json) :
    EndsIn (fun bytes => ∃ type v, parse name = .ok type ∧ type.decode bytes = .ok v) NoMismatch
      (encodeJson name json) := by
  refine (parse_endsIn name).bind fun type named => ?_
  refine (ofJson_endsIn type json).bind fun v fine => ?_
  have written := encode_endsIn fine
  exact ⟨fun bytes run => ⟨type, v, named, written.gives bytes run⟩, written.fails⟩

/-- What is read from JSON as of a type has the type, so writing it is refused for no type, and its
bytes are shown as JSON that gives them again. An integer, as a number or as text, is written as all
of its digits in the field of its type exactly if the field has room for it, and is out of range
otherwise; where an integer is asked for, all other JSON is invalid. JSON that is read from text has
no integers beyond the words of 64 bits. -/
theorem json_read_as_typed :
    (∀ type json v, ofJson type json = .ok v → v.check type = .ok ()) ∧
    (∀ name json kind type,
      encodeJson name json ≠ .error (.invalid (.valueMismatch kind type))) ∧
    (∀ name json bytes, encodeJson name json = .ok bytes →
      ∃ shown, decodeJson name bytes = .ok shown ∧ encodeJson name shown = .ok bytes) ∧
    (∀ type width, type.integerWidth? = some width → ReadsIntegers type width) ∧
    ∀ text json, Json.parse text = .ok json → json.InWords := by
  refine ⟨fun type json => (ofJson_endsIn type json).gives, ?_, ?_,
    fun type width => readsIntegers, fun text json => Json.inWords_of_parse⟩
  · intro name json kind type refused
    exact (encodeJson_endsIn name json).fails _ refused
  · intro name json bytes written
    obtain ⟨type, v, named, read⟩ := (encodeJson_endsIn name json).gives bytes written
    refine ⟨v.toJson, decodeJson_eq_ok.mpr ⟨type, v, named, read, rfl⟩, ?_⟩
    rw [encodeJson, named, ok_bind, ofJson_toJson_of_check (check_of_decode read), ok_bind]
    exact encode_of_decode read

/-- Hexadecimal text for 256 is read as 16 bits, alone and in a vector of options, and has no room
in 8 bits; a truth value is no integer; and of two numbers next to each other the one that is no
word is no integer either. -/
theorem hexadecimal_text_read_as_typed :
    let json : Json := .string "0x1_00"
    let name := "vector<option<u16>>"
    let listed : Json := .array [json, .null, .integer 7]
    let bytes : Bytes := [3, 1, 0, 1, 0, 1, 7, 0]
    (ofJson .u16 json = .ok (.u16 256) ∧ (PureValue.u16 256).check .u16 = .ok ()) ∧
      (encodeJson name listed = .ok bytes ∧
        ∃ shown, decodeJson name bytes = .ok shown ∧ encodeJson name shown = .ok bytes) ∧
      integerWidth? .u8 = some 1 ∧ (∃ cause, ofJson .u8 json = .error (.range cause)) ∧
      (∃ cause, ofJson .u8 (.bool true) = .error (.invalid cause)) ∧
      ∃ x, Json.parse "[18446744073709551615,18446744073709551616]" =
          .ok (.array [.integer (2 ^ 64 - 1), .real x]) ∧
        Json.InWords (.array [.integer (2 ^ 64 - 1), .real x]) := by
  intro json name listed bytes
  have spelled : Wide.parse "0x1_00" = .ok 256 := by decide +kernel
  have read : ofJson .u16 json = .ok (.u16 256) := by
    rw [ofJson, integerOfJson, spelled]
    rfl
  have written : encodeJson name listed = .ok bytes := by decide +kernel
  have parsed : ∃ x, Json.parse "[18446744073709551615,18446744073709551616]" =
      .ok (.array [.integer (2 ^ 64 - 1), .real x]) := ⟨_, rfl⟩
  obtain ⟨typed, -, shown, integers, words⟩ := json_read_as_typed
  obtain ⟨x, parsed⟩ := parsed
  have byte := integers .u8 1 rfl
  have truth (n : Int) : ¬Json.Denotes (.bool true) n := by rintro ⟨⟩
  have wide : ¬((0 : Int) ≤ 256 ∧ (256 : Int) < (256 ^ 1 : Nat)) := by decide
  exact ⟨⟨read, typed .u16 json _ read⟩, ⟨written, shown name listed bytes written⟩, rfl,
    byte.range json 256 (.text spelled) wide, byte.invalid (.bool true) truth, x, parsed,
    words _ _ parsed⟩

end PureType

end MoveWire
