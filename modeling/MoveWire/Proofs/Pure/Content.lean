import Mathlib.Data.Set.List
import MoveWire.Proofs.Fallible
import MoveWire.Proofs.Object
import MoveWire.Proofs.Wire.WholeBuffer
import MoveWire.Pure.Value

/-!
What pure values hold. A pure type stands for a type of contents, whose codec is put together from
the codecs of its parts. The values of the pure type are these contents with their kinds, and the
bytes of a value are the bytes of its content: a type that is known only at run time writes and
reads what the type of contents does, and fails where and as that fails.
-/

namespace MoveWire

variable {α β : Type}

namespace PureType

/-- The type of what the values of a pure type hold. -/
def Content : PureType → Type
  | .bool => Bool
  | .u8 => UInt8
  | .u16 => UInt16
  | .u32 => UInt32
  | .u64 => UInt64
  | .u128 => U128
  | .u256 => U256
  | .address => FixedBytes 32
  | .string => String
  | .vector item => List item.Content
  | .option item => Option item.Content

def contentCodec : (type : PureType) → Codec type.Content
  | .bool => Codec.bool
  | .u8 => Codec.u8
  | .u16 => Codec.u16
  | .u32 => Codec.u32
  | .u64 => Codec.u64
  | .u128 => Codec.u128
  | .u256 => Codec.u256
  | .address => Codec.fixed 32
  | .string => Codec.string
  | .vector item => item.contentCodec.vector
  | .option item => item.contentCodec.option

/-- No count in a content is too large for its form. -/
def Fits : (type : PureType) → type.Content → Prop
  | .string, (s : String) => s.utf8ByteSize < 2 ^ 32
  | .vector item, (xs : List item.Content) => xs.length < 2 ^ 32 ∧ ∀ x ∈ xs, item.Fits x
  | .option item, (x : Option item.Content) => ∀ y ∈ x, item.Fits y
  | _, _ => True

theorem contentCodec_conforms (type : PureType) :
    type.contentCodec.Conforms (.plain type.Fits) := by
  induction type with
  | bool => exact Codec.bool_conforms
  | u8 => exact Codec.u8_conforms
  | u16 => exact Codec.u16_conforms
  | u32 => exact Codec.u32_conforms
  | u64 => exact Codec.u64_conforms
  | u128 => exact Codec.u128_conforms
  | u256 => exact Codec.u256_conforms
  | address => exact Codec.fixed_conforms 32
  | string => exact Codec.string_conforms
  | vector item ih => exact ih.vector.congr (fun _ => .rfl) (by simp) List.map_id
  | option item ih => exact ih.option.congr (fun _ => .rfl) (by simp) fun _ => Option.map_id_apply

end PureType

namespace PureValue

/-- A content as a value of its pure type. -/
def ofContent : (type : PureType) → type.Content → PureValue
  | .bool, x => .bool x
  | .u8, x => .u8 x
  | .u16, x => .u16 x
  | .u32, x => .u32 x
  | .u64, x => .u64 x
  | .u128, x => .u128 x
  | .u256, x => .u256 x
  | .address, x => .address ⟨x⟩
  | .string, x => .string x
  | .vector item, (xs : List item.Content) => .vector (xs.map (ofContent item))
  | .option _, none => .absent
  | .option item, some x => .present (ofContent item x)

theorem ofContent_injective (type : PureType) : Function.Injective (ofContent type) := by
  induction type with
  | vector item ih =>
    intro x y same
    exact List.map_injective_iff.mpr ih (PureValue.vector.inj same)
  | option item ih =>
    intro x y same
    cases x with
    | none =>
      cases y with
      | none => rfl
      | some b => cases same
    | some a =>
      cases y with
      | none => cases same
      | some b => exact congrArg some (ih (PureValue.present.inj same))
  | address =>
    intro x y same
    cases same
    rfl
  | _ =>
    intro x y same
    cases same
    rfl

/-- The codec of lists does not tell apart items with one form. -/
theorem write_items_map {f : α → Fallible Bytes} {g : β → Fallible Bytes} {h : α → β}
    (same : ∀ a, g (h a) = f a) (as : List α) :
    Writer.items g (as.map h) = Writer.items f as := by
  induction as with
  | nil => rfl
  | cons a rest ih => rw [List.map_cons, Codec.items_cons, Codec.items_cons, same, ih]

theorem writeItems_eq (items : List PureValue) : writeItems items = Writer.items write items := by
  induction items with
  | nil => rfl
  | cons v rest ih => rw [Codec.items_cons, writeItems, ih]

theorem write_vector (items : List PureValue) :
    (PureValue.vector items).write = Writer.vector write items := by
  rw [write, writeItems_eq]
  rfl

/-- Kinds leave no trace in the bytes. -/
theorem write_ofContent (type : PureType) (x : type.Content) :
    (ofContent type x).write = type.contentCodec.write x := by
  induction type with
  | vector item ih =>
    have parts (xs : List item.Content) :
        Writer.vector write (xs.map (ofContent item)) = Writer.vector item.contentCodec.write xs := by
      rw [Writer.vector, write_items_map ih, List.length_map]
      rfl
    exact (write_vector _).trans (parts x)
  | option item ih =>
    cases x with
    | none => rfl
    | some y =>
      change (do return 1 :: (← (ofContent item y).write)) = _
      rw [ih]
      rfl
  | _ => rfl

theorem checkItems_eq_ok {item : PureType} {items : List PureValue} :
    checkItems item items = .ok () ↔ ∀ v ∈ items, v.check item = .ok () := by
  induction items with
  | nil => simp [checkItems]
  | cons v rest ih =>
    rw [checkItems, Fallible.bind_eq_ok, List.forall_mem_cons, ih]
    constructor
    · rintro ⟨⟨⟩, first, others⟩
      exact ⟨first, others⟩
    · rintro ⟨first, others⟩
      exact ⟨(), first, others⟩

theorem check_ofContent (type : PureType) (x : type.Content) :
    (ofContent type x).check type = .ok () := by
  induction type with
  | vector item ih =>
    refine checkItems_eq_ok.mpr fun v member => ?_
    obtain ⟨y, -, rfl⟩ := List.mem_map.mp member
    exact ih y
  | option item ih =>
    cases x with
    | none => rfl
    | some y => exact ih y
  | _ => rfl

theorem exists_ofContent {type : PureType} {v : PureValue} (h : v.check type = .ok ()) :
    ∃ x, ofContent type x = v := by
  induction type generalizing v with
  | vector item ih =>
    cases v with
    | vector items =>
      have each : items ∈ Set.range (List.map (ofContent item)) := by
        rw [Set.range_list_map]
        exact fun v member => ih (checkItems_eq_ok.mp h v member)
      obtain ⟨xs, rfl⟩ := each
      exact ⟨xs, rfl⟩
    | _ => cases h
  | option item ih =>
    cases v with
    | absent => exact ⟨none, rfl⟩
    | present v =>
      obtain ⟨x, rfl⟩ := ih h
      exact ⟨some x, rfl⟩
    | _ => cases h
  | _ =>
    -- a value of any other kind is refused, which leaves the one of this kind
    cases v <;> cases h
    exact ⟨_, rfl⟩

/-- The values of a type are its contents, of which an empty vector and an absent option have
nothing to be checked. -/
theorem check_eq_ok_iff {type : PureType} {v : PureValue} :
    v.check type = .ok () ↔ ∃ x, ofContent type x = v := by
  constructor
  · exact exists_ofContent
  · rintro ⟨x, rfl⟩
    exact check_ofContent type x

theorem check_leaf {type : PureType} {v : PureValue} (leaf : type.depth = 0) :
    v.check type = .ok () ∨
      v.check type = .error (.invalid (.valueMismatch v.kind type.text)) := by
  cases type with
  | vector item => cases leaf
  | option item => cases leaf
  | _ => cases v <;> simp [check, kind]

/-- A refusal names the kind of a part and the type that the part does not have. -/
theorem check_eq_error {type : PureType} {v : PureValue} (h : v.check type ≠ .ok ()) :
    ∃ (part : PureValue) (expected : PureType),
      v.check type = .error (.invalid (.valueMismatch part.kind expected.text)) := by
  induction type generalizing v with
  | vector item ih =>
    cases v with
    | vector items =>
      change checkItems item items ≠ _ at h
      change ∃ part expected, checkItems item items = _
      induction items with
      | nil => exact absurd rfl h
      | cons first rest others =>
        by_cases fine : first.check item = .ok ()
        · rw [checkItems, fine] at h ⊢
          exact others h
        · obtain ⟨part, expected, refused⟩ := ih fine
          exact ⟨part, expected, by rw [checkItems, refused]; rfl⟩
    | absent => exact ⟨.absent, item.vector, rfl⟩
    | present v => exact ⟨.present v, item.vector, rfl⟩
    | _ => exact ⟨_, item.vector, rfl⟩
  | option item ih =>
    cases v with
    | absent => exact absurd rfl h
    | present v => exact ih h
    | vector items => exact ⟨.vector items, item.option, rfl⟩
    | _ => exact ⟨_, item.option, rfl⟩
  | _ => exact ⟨v, _, (check_leaf (by rfl)).resolve_left h⟩

end PureValue

namespace Reader

theorem items_map (f : α → β) (r : Reader α) (acc : List α) (n : Nat) :
    items (f <$> r) (acc.map f) n = List.map f <$> items r acc n := by
  induction n generalizing acc with
  | zero => simp [items]
  | succ n ih =>
    simp only [items, bind_map_left, map_bind]
    congr 1
    funext a
    exact ih (a :: acc)

theorem vector_map (f : α → β) (r : Reader α) : vector (f <$> r) = List.map f <$> vector r := by
  simp only [vector, map_bind]
  congr 1
  funext n
  exact items_map f r [] n

theorem option_map (f : α → β) (r : Reader α) : option (f <$> r) = Option.map f <$> option r := by
  simp only [option, map_bind]
  congr 1
  funext start
  congr 1
  funext b
  split
  · rw [map_pure]
    rfl
  · split
    · simp only [Functor.map_map, Option.map_some]
    · rfl

end Reader

namespace PureType

/-- From every cursor a type reads what its contents' codec reads, and fails where that fails. -/
theorem read_eq (type : PureType) :
    type.read = PureValue.ofContent type <$> type.contentCodec.read := by
  induction type with
  | address =>
    rw [read, Address.codec, Codec.map, Functor.map_map]
    rfl
  | vector item ih =>
    rw [read, ih, Reader.vector_map, Functor.map_map]
    rfl
  | option item ih =>
    rw [read, ih, Reader.option_map, bind_map_left, map_eq_pure_bind]
    change (_ >>= _) = (Reader.option item.contentCodec.read >>= _)
    congr 1
    funext x
    cases x <;> rfl
  | _ => rfl

theorem encode_of_check {type : PureType} {v : PureValue} (h : v.check type = .ok ()) :
    type.encode v = v.write := by
  change (do v.check type; v.write) = _
  rw [h]
  rfl

theorem encode_ofContent (type : PureType) (x : type.Content) :
    type.encode (.ofContent type x) = type.contentCodec.encode x :=
  (encode_of_check (PureValue.check_ofContent type x)).trans (PureValue.write_ofContent type x)

theorem decode_eq (type : PureType) (bytes : Bytes) :
    type.decode bytes = PureValue.ofContent type <$> type.contentCodec.decode bytes := by
  change type.read.readAll bytes = _
  rw [read_eq, Reader.readAll_map]
  rfl

theorem decode_eq_ok {type : PureType} {bytes : Bytes} {v : PureValue}
    (h : type.decode bytes = .ok v) :
    ∃ x, type.contentCodec.decode bytes = .ok x ∧ PureValue.ofContent type x = v := by
  rw [decode_eq] at h
  cases read : type.contentCodec.decode bytes with
  | ok x =>
    rw [read] at h
    exact ⟨x, rfl, Except.ok.inj h⟩
  | error e =>
    rw [read] at h
    cases h

theorem check_of_decode {type : PureType} {bytes : Bytes} {v : PureValue}
    (h : type.decode bytes = .ok v) : v.check type = .ok () := by
  obtain ⟨x, -, rfl⟩ := decode_eq_ok h
  exact PureValue.check_ofContent type x

theorem encode_of_decode {type : PureType} {bytes : Bytes} {v : PureValue}
    (h : type.decode bytes = .ok v) : type.encode v = .ok bytes := by
  obtain ⟨x, read, rfl⟩ := decode_eq_ok h
  rw [encode_ofContent]
  exact type.contentCodec_conforms.encode_of_decode read

theorem decode_of_encode {type : PureType} {x : type.Content} {form : Bytes}
    (h : type.contentCodec.encode x = .ok form) :
    type.decode form = .ok (.ofContent type x) := by
  rw [decode_eq, type.contentCodec_conforms.decode_of_readable h trivial]
  rfl

/-- The codec of a type that is known only at run time is the codec of the type's contents under
their kinds: it writes the same bytes, and on every byte string it gives the same content or the
same error. So a value of the type is read back unless a count in it is too large to be written,
whatever is read is such a value and has no other form, and all other values are refused. -/
theorem codec_refines_contents (type : PureType) :
    Function.Injective (PureValue.ofContent type) ∧
    (∀ x, type.encode (.ofContent type x) = type.contentCodec.encode x) ∧
    (∀ bytes, type.decode bytes = PureValue.ofContent type <$> type.contentCodec.decode bytes) ∧
    (∀ v, v.check type = .ok () ↔ ∃ x, PureValue.ofContent type x = v) ∧
    (∀ v, v.check type = .ok () →
      (∃ form, type.encode v = .ok form ∧ type.decode form = .ok v) ∨
        ∃ cause, type.encode v = .error (.range cause)) ∧
    (∀ bytes v, type.decode bytes = .ok v →
      v.check type = .ok () ∧ type.encode v = .ok bytes) ∧
    ∀ v, v.check type ≠ .ok () → ∃ cause, type.encode v = .error (.invalid cause) := by
  refine ⟨PureValue.ofContent_injective type, encode_ofContent type, decode_eq type,
    fun v => PureValue.check_eq_ok_iff, ?_, ?_, ?_⟩
  · intro v fine
    obtain ⟨x, rfl⟩ := PureValue.exists_ofContent fine
    have formed := (type.contentCodec_conforms.carries x).form_if
    rw [encode_ofContent]
    by_cases fits : type.Fits x
    · obtain ⟨form, written⟩ := formed.1 fits
      exact .inl ⟨form, written, decode_of_encode written⟩
    · exact .inr (formed.2 fits)
  · intro bytes v read
    exact ⟨check_of_decode read, encode_of_decode read⟩
  · intro v wrong
    obtain ⟨part, expected, refused⟩ := PureValue.check_eq_error wrong
    refine ⟨.valueMismatch part.kind expected.text, ?_⟩
    change (do v.check type; v.write) = _
    rw [refused]
    rfl

/-- Three options in a vector, of which the last holds an empty vector. -/
def nestedPrices : PureValue :=
  .vector [.absent, .present (.vector [.u16 772, .u16 5]), .present (.vector [])]

theorem codec_refines_contents_of_nested_prices :
    let type : PureType := .vector (.option (.vector .u16))
    let other : PureType := .vector (.option (.vector .u32))
    let form : Bytes := [3, 0, 1, 2, 4, 3, 5, 0, 1, 0]
    nestedPrices.check type = .ok () ∧
      (type.encode nestedPrices = .ok form ∧ type.decode form = .ok nestedPrices) ∧
      nestedPrices.check other ≠ .ok () ∧
      ∃ cause, other.encode nestedPrices = .error (.invalid cause) := by
  intro type other form
  have wrong : nestedPrices.check other ≠ .ok () := nofun
  have read : type.decode form = .ok nestedPrices := rfl
  obtain ⟨-, -, -, -, forms, readings, -⟩ := codec_refines_contents type
  obtain ⟨-, -, -, -, -, -, refusals⟩ := codec_refines_contents other
  obtain ⟨fine, written⟩ := readings form nestedPrices read
  rcases forms nestedPrices fine with ⟨same, known, back⟩ | ⟨cause, refused⟩
  · have only : same = form := Except.ok.inj (known.symm.trans written)
    rw [only] at back
    exact ⟨fine, ⟨written, back⟩, wrong, refusals nestedPrices wrong⟩
  · rw [written] at refused
    cases refused

end PureType

end MoveWire
