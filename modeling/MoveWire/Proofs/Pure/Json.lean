import MoveWire.Proofs.Address
import MoveWire.Proofs.Number.Wide
import MoveWire.Proofs.Pure.Content
import MoveWire.Pure.Json

/-!
The JSON of a pure value does not say its type. Read back as of the type of the value it gives
that value again: null stands for an absent option alone, since an option in an option is wrapped
in an array, and an integer is read from a number and from its decimal text alike.
-/

namespace MoveWire

namespace PureValue

theorem itemsToJson_eq (items : List PureValue) : itemsToJson items = items.map toJson := by
  induction items with
  | nil => rfl
  | cons v rest ih => rw [itemsToJson, ih, List.map_cons]

theorem toJson_ne_null {v : PureValue} (there : v ≠ .absent) : v.toJson ≠ .null := by
  cases v with
  | absent => exact absurd rfl there
  | present v => cases v <;> simp [toJson, Address.toJson]
  | _ => simp [toJson, Address.toJson]

theorem narrow_natCast {type : PureType} {bits n : Nat} (h : n < 2 ^ bits) :
    narrow type bits n = .ok n := by
  have range : 0 ≤ (n : Int) ∧ (n : Int) < 2 ^ bits := ⟨Int.natCast_nonneg n, by exact_mod_cast h⟩
  rw [narrow, if_pos range, Int.toNat_natCast]

theorem ofJson_vector {item : PureType} {items : List PureValue}
    (each : ∀ v ∈ items, ofJson item v.toJson = .ok v) :
    ofJson (.vector item) (.array (itemsToJson items)) = .ok (.vector items) := by
  have read : (itemsToJson items).mapM (ofJson item) = .ok items := by
    rw [itemsToJson_eq]
    exact Fallible.mapM_map_eq_ok each
  rw [ofJson, read]
  rfl

/-- Apart from null, an option of what is no option is read as what it holds. -/
theorem ofJson_option {item : PureType} {json : Json} (plain : ∀ inner, item ≠ .option inner)
    (there : json ≠ .null) : ofJson (.option item) json = .present <$> ofJson item json := by
  rw [ofJson]
  · exact there
  · exact plain
  · exact fun _ inner _ => plain inner

/-- What an option holds is wrapped exactly where it is itself an option. -/
theorem ofJson_present {item : PureType} {v : PureValue} (fine : v.check item = .ok ())
    (read : ofJson item v.toJson = .ok v) :
    ofJson (.option item) (PureValue.present v).toJson = .ok (.present v) := by
  cases v with
  | absent =>
    cases item with
    | option inner => rfl
    | _ => cases fine
  | present v =>
    cases item with
    | option inner =>
      rw [toJson, ofJson, read]
      rfl
    | _ => cases fine
  | _ =>
    have plain : ∀ inner, item ≠ .option inner := by
      rintro inner rfl
      cases fine
    refine (ofJson_option plain ?_).trans (congrArg (PureValue.present <$> ·) read)
    exact toJson_ne_null nofun

theorem ofJson_toJson_of_check {type : PureType} {v : PureValue} (h : v.check type = .ok ()) :
    ofJson type v.toJson = .ok v := by
  induction type generalizing v with
  | bool =>
    cases v with
    | bool b => rfl
    | _ => cases h
  | u8 =>
    cases v with
    | u8 n =>
      rw [toJson, ofJson, integerOfJson, Fallible.ok_bind, narrow_natCast n.toNat_lt,
        Fallible.ok_bind, UInt8.ofNat_toNat]
      rfl
    | _ => cases h
  | u16 =>
    cases v with
    | u16 n =>
      rw [toJson, ofJson, integerOfJson, Fallible.ok_bind, narrow_natCast n.toNat_lt,
        Fallible.ok_bind, UInt16.ofNat_toNat]
      rfl
    | _ => cases h
  | u32 =>
    cases v with
    | u32 n =>
      rw [toJson, ofJson, integerOfJson, Fallible.ok_bind, narrow_natCast n.toNat_lt,
        Fallible.ok_bind, UInt32.ofNat_toNat]
      rfl
    | _ => cases h
  | u64 =>
    cases v with
    | u64 n =>
      rw [toJson, ofJson, integerOfJson, Wide.parse_toString, Fallible.ok_bind,
        narrow_natCast n.toNat_lt, Fallible.ok_bind, UInt64.ofNat_toNat]
      rfl
    | _ => cases h
  | u128 =>
    cases v with
    | u128 n =>
      rw [toJson, ofJson, integerOfJson, Wide.parse_toString, Fallible.ok_bind,
        Wide.toU128_toNat]
      rfl
    | _ => cases h
  | u256 =>
    cases v with
    | u256 n =>
      rw [toJson, ofJson, integerOfJson, Wide.parse_toString, Fallible.ok_bind,
        Wide.toU256_toNat]
      rfl
    | _ => cases h
  | address =>
    cases v with
    | address a =>
      rw [toJson, Address.toJson, ofJson, Address.parse_text]
      rfl
    | _ => cases h
  | string =>
    cases v with
    | string s => rfl
    | _ => cases h
  | vector item ih =>
    cases v with
    | vector items => exact ofJson_vector fun v member => ih (checkItems_eq_ok.mp h v member)
    | _ => cases h
  | option item ih =>
    cases v with
    | absent => rfl
    | present v => exact ofJson_present h (ih h)
    | _ => cases h

end PureValue

namespace PureType

theorem decodeNamed_eq_ok {name : String} {bytes : Bytes} {v : PureValue} :
    decodeNamed name bytes = .ok v ↔
      ∃ type, parse name = .ok type ∧ type.decode bytes = .ok v :=
  Fallible.bind_eq_ok

theorem decodeJson_eq_ok {name : String} {bytes : Bytes} {json : Json} :
    decodeJson name bytes = .ok json ↔ ∃ type v, parse name = .ok type ∧
      type.decode bytes = .ok v ∧ v.toJson = json := by
  rw [decodeJson, map_eq_pure_bind, Fallible.bind_eq_ok]
  simp only [decodeNamed_eq_ok]
  constructor
  · rintro ⟨v, ⟨type, named, read⟩, shown⟩
    exact ⟨type, v, named, read, Except.ok.inj shown⟩
  · rintro ⟨type, v, named, read, rfl⟩
    exact ⟨v, ⟨type, named, read⟩, rfl⟩

/-- JSON keeps all of a pure value: read as of a type that the value has, it is the value again,
however vectors and options are nested in each other. So the JSON of bytes gives the bytes back. -/
theorem json_lossless :
    (∀ (type : PureType) (v : PureValue), v.check type = .ok () →
      PureValue.ofJson type v.toJson = .ok v) ∧
    ∀ (name : String) (bytes : Bytes) (json : Json), decodeJson name bytes = .ok json →
      encodeJson name json = .ok bytes := by
  constructor
  · intro type v fine
    exact PureValue.ofJson_toJson_of_check fine
  · intro name bytes json shown
    obtain ⟨type, v, named, read, rfl⟩ := decodeJson_eq_ok.mp shown
    have back := PureValue.ofJson_toJson_of_check (check_of_decode read)
    rw [encodeJson, named, Fallible.ok_bind, back, Fallible.ok_bind]
    exact encode_of_decode read

/-- An absent option, an option that holds an absent one, and one that holds a number. -/
def nestedCounts : PureValue :=
  .vector [.absent, .present .absent, .present (.present (.u64 7))]

theorem json_lossless_of_nested_counts :
    let type : PureType := .vector (.option (.option .u64))
    let name := "vector<option<option<u64>>>"
    let bytes : Bytes := [3, 0, 1, 0, 1, 1, 7, 0, 0, 0, 0, 0, 0, 0]
    let json : Json := .array [.null, .array [.null], .array [.string "7"]]
    (nestedCounts.check type = .ok () ∧ PureValue.ofJson type json = .ok nestedCounts) ∧
      decodeJson name bytes = .ok json ∧ encodeJson name json = .ok bytes := by
  intro type name bytes json
  have fine : nestedCounts.check type = .ok () := rfl
  have named : parse name = .ok type := by decide +kernel
  have read : type.decode bytes = .ok nestedCounts := rfl
  have shown : nestedCounts.toJson = json := rfl
  have decoded : decodeJson name bytes = .ok json :=
    decodeJson_eq_ok.mpr ⟨type, nestedCounts, named, read, shown⟩
  have back := json_lossless.1 type nestedCounts fine
  rw [shown] at back
  exact ⟨⟨fine, back⟩, decoded, json_lossless.2 name bytes json decoded⟩

end PureType

end MoveWire
