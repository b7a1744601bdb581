import Mathlib.Data.String.Basic
import MoveWire.Proofs.Wire.Text
import MoveWire.Proofs.Wire.WholeBuffer
import MoveWire.Pure.Json
import MoveWire.Registry

/-!
What a registry is after any registrations, and what it does with a name. A name has the type that
it was registered for first, and then it is the codec of that type; any other name is a pure type or
is unknown. Where a text does not spell bytes, that is what is said, whatever the name is.
-/

namespace MoveWire

open WireFamily

namespace CodecTable

variable {T : Type}

theorem find?_eq_lookup (r : CodecTable T) (name : String) :
    r.find? name = r.bindings.lookup name := by
  unfold find?
  induction r.bindings with
  | nil => rfl
  | cons binding rest ih =>
    rw [List.find?_cons, List.lookup_cons, ← ih, BEq.comm]
    cases name == binding.1 <;> rfl

theorem find?_bind (r : CodecTable T) {bound : String} {type : T} (fresh : r.find? bound = none)
    (name : String) : (r.bind bound type fresh).find? name =
      (r.find? name).or (List.lookup name [(bound, type)]) := by
  rw [find?_eq_lookup, find?_eq_lookup, bind, List.lookup_append]

theorem mem_names_iff (r : CodecTable T) (name : String) :
    name ∈ r.names ↔ (r.find? name).isSome := by
  rw [names, (List.mergeSort_perm _ _).mem_iff, find?_eq_lookup, List.lookup_isSome_iff,
    List.mem_map]
  simp only [beq_iff_eq, eq_comm (a := name)]

theorem length_names (r : CodecTable T) : r.names.length = r.size := by
  rw [names, List.length_mergeSort, List.length_map, size]

/-- The names come in their order, each once. -/
theorem names_sorted (r : CodecTable T) : r.names.Pairwise (· < ·) := by
  have ordered : r.names.Pairwise fun a b => decide (a ≤ b) = true := by
    refine List.pairwise_mergeSort (fun a b c => ?_) (fun a b => ?_) _
    · simpa using le_trans
    · simpa using le_total a b
  have distinct : r.names.Nodup := (List.mergeSort_perm _ _).nodup_iff.mpr r.names_nodup
  exact (ordered.and distinct).imp fun ⟨le, ne⟩ => lt_of_le_of_ne (of_decide_eq_true le) ne

variable [DecidableEq T]

/-- The registry after a registration, which changes nothing if it is refused. -/
def registered (r : CodecTable T) (name : String) (type : T) : CodecTable T :=
  match r.register name type with
  | .ok next => next
  | .error _ => r

/-- The registry after registrations, refused ones included. -/
def registerEach (r : CodecTable T) (calls : List (String × T)) : CodecTable T :=
  calls.foldl (fun r call => r.registered call.1 call.2) r

/-- A registration is accepted unless the name has another type, and then it changes nothing. -/
theorem register_cases (r : CodecTable T) (name : String) (type : T) :
    (∃ fresh, r.register name type = .ok (r.bind name type fresh)) ∨
    (r.find? name = some type ∧ r.register name type = .ok r) ∨
    ∃ bound, r.find? name = some bound ∧ type ≠ bound ∧
      r.register name type = .error (.duplicateRegistration name) := by
  unfold register
  split
  · next fresh => exact .inl ⟨fresh, rfl⟩
  · next bound found =>
    by_cases same : bound = type
    · subst same
      exact .inr (.inl ⟨found, if_pos rfl⟩)
    · exact .inr (.inr ⟨bound, found, Ne.symm same, if_neg same⟩)

theorem registered_of_ok {r next : CodecTable T} {name : String} {type : T}
    (accepted : r.register name type = .ok next) : r.registered name type = next := by
  rw [registered, accepted]

theorem registered_of_error {r : CodecTable T} {name : String} {type : T} {e : WireError}
    (refused : r.register name type = .error e) : r.registered name type = r := by
  rw [registered, refused]

theorem find?_registered (r : CodecTable T) (bound : String) (type : T) (name : String) :
    (r.registered bound type).find? name =
      (r.find? name).or (List.lookup name [(bound, type)]) := by
  have held {other : T} (found : r.find? bound = some other) :
      r.find? name = (r.find? name).or (List.lookup name [(bound, type)]) := by
    by_cases same : name = bound
    · rw [same, found]
      rfl
    · rw [List.lookup_cons, beq_false_of_ne same, List.lookup_nil, Option.or_none]
  obtain ⟨fresh, accepted⟩ | ⟨found, accepted⟩ | ⟨other, found, -, refused⟩ :=
    r.register_cases bound type
  · rw [registered_of_ok accepted, find?_bind]
  · rw [registered_of_ok accepted]
    exact held found
  · rw [registered_of_error refused]
    exact held found

theorem find?_registerEach (r : CodecTable T) (calls : List (String × T)) (name : String) :
    (r.registerEach calls).find? name = (r.find? name).or (calls.lookup name) := by
  induction calls generalizing r with
  | nil => rw [List.lookup_nil, Option.or_none]; rfl
  | cons call rest ih =>
    have step := ih (r.registered call.1 call.2)
    rw [find?_registered, Option.or_assoc, ← List.lookup_append] at step
    exact step

/-- A registration in a run is accepted if it has the first type of its name in the whole run. -/
theorem register_registerEach {before later : List (String × T)} {name : String} {type first : T}
    (named : (before ++ (name, type) :: later).lookup name = some first) :
    let reached := registerEach empty before
    (type = first → reached.register name type = .ok (reached.registered name type)) ∧
    (type ≠ first → reached.register name type = .error (.duplicateRegistration name) ∧
      reached.registered name type = reached) := by
  intro reached
  have known : reached.find? name = before.lookup name := find?_registerEach empty before name
  rw [List.lookup_append, ← known, List.lookup_cons_self] at named
  obtain ⟨fresh, accepted⟩ | ⟨found, accepted⟩ | ⟨bound, found, differ, refused⟩ :=
    reached.register_cases name type
  · rw [registered_of_ok accepted]
    rw [fresh] at named
    exact ⟨fun _ => accepted, fun other => absurd (Option.some.inj named) other⟩
  · rw [registered_of_ok accepted]
    rw [found] at named
    exact ⟨fun _ => accepted, fun other => absurd (Option.some.inj named) other⟩
  · rw [registered_of_error refused]
    rw [found] at named
    cases named
    exact ⟨fun same => absurd same differ, fun _ => ⟨refused, rfl⟩⟩

variable [WireFamily T] {r : CodecTable T} {name : String}

theorem encode_eq {c : ErasedCodec T} (found : r.lookup name = .ok c) (value : ErasedValue T) :
    r.encode name value = c.write value := by
  rw [encode, found]
  rfl

omit [DecidableEq T] in
theorem decode_eq {c : ErasedCodec T} (found : r.lookup name = .ok c) (bytes : Bytes) :
    r.decode name bytes = c.read.readAll bytes := by
  rw [decode, found]
  rfl

theorem encode_eq_error {e : WireError} (missing : r.lookup name = .error e)
    (value : ErasedValue T) : r.encode name value = .error e := by
  rw [encode, missing]
  rfl

omit [DecidableEq T] in
theorem decode_eq_error {e : WireError} (missing : r.lookup name = .error e) (bytes : Bytes) :
    r.decode name bytes = .error e := by
  rw [decode, missing]
  rfl

/-- The name is the codec of a type. Values of other types are refused by the name, and so is
decoding into them; where a text does not spell bytes, it is called by the name. -/
structure StandsFor (r : CodecTable T) (name : String) (type : T) : Prop where
  encode : ∀ v, r.encode name (.typed type v) = (codec type).encode v
  toHex : ∀ v, r.toHex name (.typed type v) = (codec type).toHex v
  toBase64 : ∀ v, r.toBase64 name (.typed type v) = (codec type).toBase64 v
  wrongValue : ∀ value, (∀ v, value ≠ .typed type v) →
    r.encode name value = .error (.invalid (.wrongValueFor name)) ∧
    r.toHex name value = .error (.invalid (.wrongValueFor name)) ∧
    r.toBase64 name value = .error (.invalid (.wrongValueFor name))
  decode : ∀ bytes, r.decode name bytes = .typed type <$> (codec type).decode bytes
  decodeAs : ∀ bytes, r.decodeAs type name bytes = (codec type).decode bytes
  decodesOther : ∀ other bytes, other ≠ type → r.decodeAs other name bytes =
    (codec type).decode bytes >>= fun _ => .error (.invalid (.decodesOther name (label other)))
  decodePure : ∀ bytes, r.decodePure name bytes =
    (codec type).decode bytes >>= fun _ => .error (.invalid (.decodesOther name pureLabel))
  ofHex : ∀ text,
    (∃ fault, r.ofHex name text = .error (.text (.hex name text fault)) ∧
      (codec type).ofHex text = .error (.text (.hex Codec.payloadName text fault))) ∨
    r.ofHex name text = .typed type <$> (codec type).ofHex text
  ofBase64 : ∀ text,
    (∃ fault, r.ofBase64 name text = .error (.text (.base64 name fault)) ∧
      (codec type).ofBase64 text = .error (.text (.base64 Codec.payloadName fault))) ∨
    r.ofBase64 name text = .typed type <$> (codec type).ofBase64 text

/-- The name is that of a pure type. -/
structure StandsForPure (r : CodecTable T) (name : String) (type : PureType) : Prop where
  encode : ∀ v, r.encode name (.pure v) = PureType.encodeNamed name v
  toHex : ∀ v, r.toHex name (.pure v) = Bytes.toHex <$> PureType.encodeNamed name v
  toBase64 : ∀ v, r.toBase64 name (.pure v) = Bytes.toBase64 <$> PureType.encodeNamed name v
  wrongValue : ∀ other v,
    r.encode name (.typed other v) = .error (.invalid (.expectsPure type.text)) ∧
    r.toHex name (.typed other v) = .error (.invalid (.expectsPure type.text)) ∧
    r.toBase64 name (.typed other v) = .error (.invalid (.expectsPure type.text))
  decode : ∀ bytes, r.decode name bytes = .pure <$> PureType.decodeNamed name bytes
  decodePure : ∀ bytes, r.decodePure name bytes = PureType.decodeNamed name bytes
  decodesOther : ∀ other bytes, r.decodeAs other name bytes =
    PureType.decodeNamed name bytes >>= fun _ =>
      .error (.invalid (.decodesOther name (label other)))
  ofHex : ∀ text, r.ofHex name text =
    Bytes.ofHex text name >>= fun bytes => .pure <$> PureType.decodeNamed name bytes
  ofBase64 : ∀ text, r.ofBase64 name text =
    Bytes.ofBase64 text name >>= fun bytes => .pure <$> PureType.decodeNamed name bytes

/-- The name is nothing, which a text has to spell bytes to be told. -/
structure Unknown (r : CodecTable T) (name : String) : Prop where
  lookup : r.lookup name = .error (.unknownType name)
  encode : ∀ value, r.encode name value = .error (.unknownType name)
  toHex : ∀ value, r.toHex name value = .error (.unknownType name)
  toBase64 : ∀ value, r.toBase64 name value = .error (.unknownType name)
  decode : ∀ bytes, r.decode name bytes = .error (.unknownType name)
  decodeAs : ∀ type bytes, r.decodeAs type name bytes = .error (.unknownType name)
  decodePure : ∀ bytes, r.decodePure name bytes = .error (.unknownType name)
  ofHex : ∀ text, r.ofHex name text =
    Bytes.ofHex text name >>= fun _ => .error (.unknownType name)
  ofBase64 : ∀ text, r.ofBase64 name text =
    Bytes.ofBase64 text name >>= fun _ => .error (.unknownType name)

theorem standsFor_of_find? {type : T} (bound : r.find? name = some type) :
    r.StandsFor name type := by
  have found : r.lookup name = .ok (.typed name type) := by rw [CodecTable.lookup, bound]
  have encodes (v) : r.encode name (.typed type v) = (codec type).encode v := by
    rw [encode_eq found, ErasedCodec.write, dif_pos rfl]
    rfl
  have refuses (value) (wrong : ∀ v, value ≠ .typed type v) :
      r.encode name value = .error (.invalid (.wrongValueFor name)) := by
    rw [encode_eq found]
    cases value with
    | pure v => rfl
    | typed other v =>
      refine dif_neg fun same => ?_
      subst same
      exact wrong v rfl
  have decodes (bytes) : r.decode name bytes = .typed type <$> (codec type).decode bytes := by
    rw [decode_eq found]
    exact Reader.readAll_map _ _ bytes
  refine ⟨encodes, fun v => ?_, fun v => ?_, fun value wrong => ?_, decodes, fun bytes => ?_,
    fun other bytes differ => ?_, fun bytes => ?_, fun text => ?_, fun text => ?_⟩
  · rw [toHex, encodes, Codec.toHex]
  · rw [toBase64, encodes, Codec.toBase64]
  · rw [toHex, toBase64, refuses value wrong]
    exact ⟨rfl, rfl, rfl⟩
  · rw [decodeAs, decodes]
    cases (codec type).decode bytes with
    | ok v => exact dif_pos rfl
    | error e => rfl
  · rw [decodeAs, decodes]
    cases (codec type).decode bytes with
    | ok v => exact dif_neg (Ne.symm differ)
    | error e => rfl
  · rw [decodePure, decodes]
    cases (codec type).decode bytes <;> rfl
  · unfold ofHex Codec.ofHex
    obtain ⟨bytes, spelled⟩ | ⟨fault, spoiled⟩ := Bytes.ofHex_cases text
    · rw [spelled, spelled]
      exact .inr (decodes bytes)
    · rw [spoiled, spoiled]
      exact .inl ⟨fault, rfl, rfl⟩
  · unfold ofBase64 Codec.ofBase64
    obtain ⟨bytes, spelled⟩ | ⟨fault, spoiled⟩ := Bytes.ofBase64_cases text
    · rw [spelled, spelled]
      exact .inr (decodes bytes)
    · rw [spoiled, spoiled]
      exact .inl ⟨fault, rfl, rfl⟩

theorem standsForPure_of_parse {type : PureType} (unbound : r.find? name = none)
    (parsed : PureType.parse name = .ok type) : r.StandsForPure name type := by
  have found : r.lookup name = .ok (.pure type) := by rw [CodecTable.lookup, unbound, parsed]
  have encodes (v) : r.encode name (.pure v) = PureType.encodeNamed name v := by
    rw [encode_eq found, PureType.encodeNamed, parsed]
    rfl
  have refuses (other v) :
      r.encode name (.typed other v) = .error (.invalid (.expectsPure type.text)) := by
    rw [encode_eq found]
    rfl
  have decodes (bytes) : r.decode name bytes = .pure <$> PureType.decodeNamed name bytes := by
    rw [decode_eq found, PureType.decodeNamed, parsed]
    exact Reader.readAll_map _ _ bytes
  refine ⟨encodes, fun v => ?_, fun v => ?_, fun other v => ?_, decodes, fun bytes => ?_,
    fun other bytes => ?_, fun text => ?_, fun text => ?_⟩
  · rw [toHex, encodes]
  · rw [toBase64, encodes]
  · rw [toHex, toBase64, refuses]
    exact ⟨rfl, rfl, rfl⟩
  · rw [decodePure, decodes]
    cases PureType.decodeNamed name bytes <;> rfl
  · rw [decodeAs, decodes]
    cases PureType.decodeNamed name bytes <;> rfl
  · rw [ofHex, funext decodes]
  · rw [ofBase64, funext decodes]

theorem unknown_of_parse {e : WireError} (unbound : r.find? name = none)
    (refused : PureType.parse name = .error e) : r.Unknown name := by
  have missing : r.lookup name = .error (.unknownType name) := by
    rw [CodecTable.lookup, unbound, refused]
  have decodes := funext (decode_eq_error missing)
  refine ⟨missing, encode_eq_error missing, fun value => ?_, fun value => ?_,
    decode_eq_error missing, fun type bytes => ?_, fun bytes => ?_, fun text => ?_,
    fun text => ?_⟩
  · rw [toHex, encode_eq_error missing]
    rfl
  · rw [toBase64, encode_eq_error missing]
    rfl
  · rw [decodeAs, decodes]
    rfl
  · rw [decodePure, decodes]
    rfl
  · rw [ofHex, decodes]
  · rw [ofBase64, decodes]

/-- What a registry is after these registrations. A name that they hold has its first type in them,
and each of them is accepted or refused by that type, also where it comes later. -/
structure Follows (r : CodecTable T) (calls : List (String × T)) : Prop where
  find?_eq : ∀ name, r.find? name = calls.lookup name
  contains_iff : ∀ name, r.contains name ↔ ∃ type, (name, type) ∈ calls
  names_sorted : r.names.Pairwise (· < ·)
  mem_names_iff : ∀ name, name ∈ r.names ↔ ∃ type, (name, type) ∈ calls
  size_eq : r.size = r.names.length
  call : ∀ before name type later first, calls = before ++ (name, type) :: later →
    calls.lookup name = some first →
    let reached := registerEach empty before
    (type = first → reached.register name type = .ok (reached.registered name type)) ∧
    (type ≠ first → reached.register name type = .error (.duplicateRegistration name) ∧
      reached.registered name type = reached)
  bound : ∀ name type, calls.lookup name = some type → r.StandsFor name type
  pure : ∀ name type, calls.lookup name = none → PureType.parse name = .ok type →
    r.StandsForPure name type
  unknown : ∀ name e, calls.lookup name = none → PureType.parse name = .error e → r.Unknown name

/-- Whatever is registered in whatever order, the first type of a name stays its type. -/
theorem registerEach_follows (calls : List (String × T)) :
    (registerEach empty calls).Follows calls := by
  have found (name : String) : (registerEach empty calls).find? name = calls.lookup name :=
    find?_registerEach empty calls name
  have occurs (name : String) : ((registerEach empty calls).find? name).isSome ↔
      ∃ type, (name, type) ∈ calls := by
    rw [found, List.lookup_isSome_iff]
    constructor
    · rintro ⟨⟨bound, type⟩, member, same⟩
      rw [beq_iff_eq.mp same]
      exact ⟨type, member⟩
    · rintro ⟨type, member⟩
      exact ⟨(name, type), member, beq_self_eq_true name⟩
  exact
    { find?_eq := found
      contains_iff := occurs
      names_sorted := names_sorted _
      mem_names_iff := fun name => (mem_names_iff _ name).trans (occurs name)
      size_eq := (length_names _).symm
      call := by
        rintro before name type later first rfl named
        exact register_registerEach named
      bound := fun name type bound => standsFor_of_find? ((found name).trans bound)
      pure := fun name type unbound => standsForPure_of_parse ((found name).trans unbound)
      unknown := fun name e unbound => unknown_of_parse ((found name).trans unbound) }

/-- A text that spells no bytes is told off as such, and not its name for being unknown. -/
theorem faulty_text_of_unknown_name :
    Registry.empty.find? "Nope" = none ∧ (∃ e, PureType.parse "Nope" = .error e) ∧
      (∃ fault, Registry.empty.ofHex "Nope" "zz" = .error (.text (.hex "Nope" "zz" fault))) ∧
      Registry.empty.ofHex "Nope" "zz" ≠ .error (.unknownType "Nope") := by
  have unknown : PureType.parse "Nope" = .error (.unknownType "Nope") := by cbv
  have faulty : Registry.empty.ofHex "Nope" "zz" =
      .error (.text (.hex "Nope" "zz" (.badDigit 0 122))) := by rfl
  refine ⟨rfl, ⟨_, unknown⟩, ⟨_, faulty⟩, ?_⟩
  rw [faulty]
  intro same
  cases same

end CodecTable

end MoveWire
