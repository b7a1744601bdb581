import MoveWire.Proofs.Transaction.Uses
import MoveWire.Proofs.Transaction.Wire
import MoveWire.Proofs.Wire.WholeBuffer

/-!
When the types of pure inputs can be found, and what is found then. The types told so far are those
of the uses seen so far, as long as these agree with each other and with what was declared; the
first use that breaks this is refused.
-/

namespace MoveWire

/-- Is the input at this index a pure one? -/
def ProgrammableTransaction.PureAt (pt : ProgrammableTransaction) (i : UInt16) : Prop :=
  ∃ arg, pt.inputs[i.toNat]? = some (.pure arg)

/-- What a use asks of the inputs alone: a typed one that its input is there and not declared of
another type, an object that its input is not a pure one. -/
def Use.Fits (pt : ProgrammableTransaction) : Use → Prop
  | .value (.input i) type => i.toNat < pt.inputs.length ∧
    ∀ arg declared, pt.inputs[i.toNat]? = some (.pure arg) → arg.declared = some declared →
      declared = type
  | .object (.input i) _ => ¬pt.PureAt i
  | _ => True

/-- The uses fit the inputs, and no pure input is used as two types. -/
structure Use.Agree (pt : ProgrammableTransaction) (seen : Use → Prop) : Prop where
  fits : ∀ use, seen use → use.Fits pt
  one_type : ∀ i s t, pt.PureAt i → seen (.value (.input i) s) → seen (.value (.input i) t) → s = t

theorem Use.Agree.mono {pt : ProgrammableTransaction} {seen all : Use → Prop}
    (h : Use.Agree pt all) (less : ∀ use, seen use → all use) : Use.Agree pt seen where
  fits use there := h.fits use (less use there)
  one_type i s t pure first second := h.one_type i s t pure (less _ first) (less _ second)

theorem Use.Agree.cons {pt : ProgrammableTransaction} {seen : Use → Prop} {use : Use}
    (h : Use.Agree pt seen) (fits : use.Fits pt)
    (one_type : ∀ i s t, pt.PureAt i → use = .value (.input i) s → seen (.value (.input i) t) →
      s = t) : Use.Agree pt fun u => u = use ∨ seen u where
  fits := by
    rintro u (rfl | there)
    · exact fits
    · exact h.fits u there
  one_type := by
    rintro i s t pure (first | first) (second | second)
    · cases first.trans second.symm
      rfl
    · exact one_type i s t pure first.symm second
    · exact (one_type i t s pure second.symm first).symm
    · exact h.one_type i s t pure first second

namespace InputTypes

variable {pt : ProgrammableTransaction} {seen : Use → Prop} {types : InputTypes}

/-- The types are those that the uses tell of pure inputs. -/
def Tells (pt : ProgrammableTransaction) (seen : Use → Prop) (types : InputTypes) : Prop :=
  ∀ (i : UInt16) type, types[i]? = some type ↔ pt.PureAt i ∧ seen (.value (.input i) type)

/-- What taking more uses gives: types that tell all uses seen then, or a refusal because these do
not agree. -/
def Follows (pt : ProgrammableTransaction) (seen : Use → Prop) : Fallible InputTypes → Prop
  | .ok types => Use.Agree pt seen ∧ Tells pt seen types
  | .error _ => ¬Use.Agree pt seen

theorem Follows.congr {all : Use → Prop} {x : Fallible InputTypes} (h : Follows pt seen x)
    (same : ∀ use, seen use ↔ all use) : Follows pt all x := by
  rwa [← show seen = all from funext fun use => propext (same use)]

/-- A use of anything but a pure input as a type tells nothing. -/
theorem Tells.skip {use : Use} (h : Tells pt seen types)
    (silent : ∀ i type, pt.PureAt i → use ≠ .value (.input i) type) :
    Tells pt (fun u => u = use ∨ seen u) types := by
  intro i type
  rw [h i type]
  refine and_congr_right fun pure => (or_iff_right ?_).symm
  exact fun same => silent i type pure same.symm

theorem Tells.insert {i : UInt16} {type : PureType} (h : Tells pt seen types) (pure : pt.PureAt i)
    (one_type : ∀ other, seen (.value (.input i) other) → other = type) :
    Tells pt (fun u => u = .value (.input i) type ∨ seen u) (types.insert i type) := by
  intro j other
  rw [Std.HashMap.getElem?_insert]
  by_cases same : i = j
  · subst same
    simp only [beq_self_eq_true, if_true, Option.some.injEq, Use.value.injEq, true_and]
    constructor
    · rintro rfl
      exact ⟨pure, .inl rfl⟩
    · rintro ⟨-, rfl | there⟩
      · rfl
      · exact (one_type other there).symm
  · rw [if_neg (by simpa using same), h j other]
    refine and_congr_right fun _ => (or_iff_right ?_).symm
    intro equal
    cases equal
    exact same rfl

/-- What is known of a pure input before a use: nothing, or the one type that all earlier uses and
the declaration say. -/
theorem known_type {i : UInt16} {arg : PureArg} (agree : Use.Agree pt seen)
    (tells : Tells pt seen types) (there : pt.inputs[i.toNat]? = some (.pure arg))
    (known : Option PureType) (h : (types[i]? <|> arg.declared) = known) :
    (∀ type, known = some type →
      seen (.value (.input i) type) ∨ arg.declared = some type) ∧
    (∀ type, seen (.value (.input i) type) → known = some type) ∧
    ∀ type, arg.declared = some type → known = some type := by
  subst h
  have used (type : PureType) : types[i]? = some type ↔ seen (.value (.input i) type) :=
    (tells i type).trans (and_iff_right ⟨arg, there⟩)
  simp only [← used]
  cases told : types[i]? with
  | none => simp
  | some earlier =>
    refine ⟨fun type same => .inl same, fun type same => same, fun type declared => ?_⟩
    rw [(agree.fits _ ((used earlier).mp told)).2 arg type there declared]
    rfl

/-- A pure input takes a use as a type if neither an earlier use nor its declaration says else. -/
theorem assign_follows {site : String} {i : UInt16} {arg : PureArg} {type : PureType}
    (agree : Use.Agree pt seen) (tells : Tells pt seen types)
    (there : pt.inputs[i.toNat]? = some (.pure arg)) :
    Follows pt (fun u => u = .value (.input i) type ∨ seen u) (types.assign site i arg type) := by
  have pure : pt.PureAt i := ⟨arg, there⟩
  have accepted (used : ∀ other, seen (.value (.input i) other) → other = type)
      (declared : ∀ other, arg.declared = some other → other = type) :
      Follows pt (fun u => u = .value (.input i) type ∨ seen u) (.ok (types.insert i type)) := by
    refine ⟨agree.cons ⟨(List.getElem?_eq_some_iff.mp there).1, ?_⟩ ?_, tells.insert pure used⟩
    · intro other given there' h
      cases there.symm.trans there'
      exact declared given h
    · intro j s t _ same before
      cases same
      exact (used t before).symm
  unfold assign
  split
  · next earlier told =>
    obtain ⟨source, used, declared⟩ := known_type agree tells there _ told
    by_cases same : earlier = type
    · subst same
      rw [if_pos rfl]
      exact accepted (fun t h => (Option.some.inj (used t h)).symm)
        fun t h => (Option.some.inj (declared t h)).symm
    · rw [if_neg same]
      intro agree'
      rcases source earlier rfl with before | given
      · exact same (agree'.one_type i _ _ pure (.inr before) (.inl rfl))
      · exact same ((agree'.fits _ (.inl rfl)).2 arg earlier there given)
  · next told =>
    obtain ⟨-, used, declared⟩ := known_type agree tells there _ told
    exact accepted (fun t h => nomatch used t h) fun t h => nomatch declared t h

/-- Taking one more use. -/
theorem record_follows (site : String) (use : Use) (agree : Use.Agree pt seen)
    (tells : Tells pt seen types) :
    Follows pt (fun u => u = use ∨ seen u) (record pt.inputs.toArray site types use) := by
  have skipped (fits : use.Fits pt)
      (silent : ∀ i type, pt.PureAt i → use ≠ .value (.input i) type) :
      Follows pt (fun u => u = use ∨ seen u) (.ok types) :=
    ⟨agree.cons fits fun i s _ pure same => absurd same (silent i s pure), tells.skip silent⟩
  -- Only a value at the place of a pure input tells a type, only an object there is refused.
  cases use with
  | value arg type =>
    cases arg with
    | input i =>
      rw [record, List.getElem?_toArray]
      cases there : pt.inputs[i.toNat]? with
      | none =>
        intro agree'
        have inside := (agree'.fits _ (.inl rfl)).1
        rw [List.getElem?_eq_none_iff] at there
        omega
      | some input =>
        cases input with
        | pure arg => exact assign_follows agree tells there
        | object arg =>
          refine skipped ⟨(List.getElem?_eq_some_iff.mp there).1, ?_⟩ ?_
          · intro other _ there'
            cases there.symm.trans there'
          · rintro j other ⟨found, there'⟩ same
            cases same
            cases there.symm.trans there'
    | _ => exact skipped trivial nofun
  | object arg text =>
    cases arg with
    | input i =>
      rw [record, List.getElem?_toArray]
      cases there : pt.inputs[i.toNat]? with
      | none => exact skipped (fun ⟨_, there'⟩ => nomatch there.symm.trans there') nofun
      | some input =>
        cases input with
        | pure arg => exact fun agree' => agree'.fits _ (.inl rfl) ⟨arg, there⟩
        | object arg =>
          refine skipped (fun ⟨_, there'⟩ => ?_) nofun
          cases there.symm.trans there'
    | _ => exact skipped trivial nofun

theorem foldlM_record_follows {site : String} (uses : List Use) (agree : Use.Agree pt seen)
    (tells : Tells pt seen types) : Follows pt (fun u => u ∈ uses ∨ seen u)
      (uses.foldlM (record pt.inputs.toArray site) types) := by
  induction uses generalizing seen types with
  | nil => exact Follows.congr (x := .ok types) ⟨agree, tells⟩ (by simp)
  | cons use rest ih =>
    have step := record_follows site use agree tells
    rw [List.foldlM_cons]
    cases run : record pt.inputs.toArray site types use with
    | error e =>
      rw [run] at step
      refine fun agree' => step (agree'.mono fun u => ?_)
      rintro (rfl | before)
      · exact .inl List.mem_cons_self
      · exact .inr before
    | ok next =>
      rw [run] at step
      refine (ih step.1 step.2).congr fun u => ?_
      rw [List.mem_cons]
      tauto

variable {source : SignatureSource}

theorem recordCommand_follows {command : Command} (index : Nat) (known : command.Known source)
    (agree : Use.Agree pt seen) (tells : Tells pt seen types) :
    Follows pt (fun u => command.HasUse source u ∨ seen u)
      (recordCommand source pt.inputs.toArray types command index) := by
  obtain ⟨uses, given⟩ : ∃ uses, command.uses source (command.site index) = .ok uses :=
    Command.exists_uses_iff.mpr known
  simp only [recordCommand, given]
  refine (foldlM_record_follows uses agree tells).congr fun u => ?_
  rw [Command.mem_uses_iff given]

theorem known_of_recordCommand {inputs : Array CallArg} {command : Command} {index : Nat}
    {next : InputTypes} (h : recordCommand source inputs types command index = .ok next) :
    command.Known source := by
  obtain ⟨uses, given, -⟩ := Fallible.bind_eq_ok.mp h
  exact Command.exists_uses_iff.mp ⟨uses, given⟩

theorem foldlM_recordCommand_follows (commands : List Command) (first : Nat)
    (known : ∀ command ∈ commands, command.Known source) (agree : Use.Agree pt seen)
    (tells : Tells pt seen types) :
    Follows pt (fun u => (∃ command ∈ commands, command.HasUse source u) ∨ seen u)
      ((commands.zipIdx first).foldlM (fun types (command, index) =>
        recordCommand source pt.inputs.toArray types command index) types) := by
  induction commands generalizing first seen types with
  | nil => exact Follows.congr (x := .ok types) ⟨agree, tells⟩ (by simp)
  | cons command rest ih =>
    obtain ⟨known, others⟩ := List.forall_mem_cons.mp known
    have step := recordCommand_follows first known agree tells
    rw [List.zipIdx_cons, List.foldlM_cons]
    dsimp only
    cases run : recordCommand source pt.inputs.toArray types command first with
    | error e =>
      rw [run] at step
      refine fun agree' => step (agree'.mono fun u => ?_)
      rintro (use | before)
      · exact .inl ⟨command, List.mem_cons_self, use⟩
      · exact .inr before
    | ok next =>
      rw [run] at step
      refine (ih _ others step.1 step.2).congr fun u => ?_
      rw [List.exists_mem_cons_iff]
      exact or_left_comm.trans or_assoc.symm

theorem known_of_foldlM {inputs : Array CallArg} {commands : List Command} {first : Nat}
    {last : InputTypes} (h : (commands.zipIdx first).foldlM (fun types (command, index) =>
      recordCommand source inputs types command index) types = .ok last) :
    ∀ command ∈ commands, command.Known source := by
  induction commands generalizing first types with
  | nil => simp
  | cons command rest ih =>
    rw [List.zipIdx_cons, List.foldlM_cons] at h
    obtain ⟨next, run, later⟩ := Fallible.bind_eq_ok.mp h
    exact List.forall_mem_cons.mpr ⟨known_of_recordCommand run, ih later⟩

/-- A pure input within the reach of an index is declared of the type that is told for it, if its
bytes decode as that type. -/
theorem declare_pure_eq_ok {index : Nat} {arg : PureArg} {out : CallArg} :
    types.declare index (.pure arg) = .ok out ↔ index < 2 ^ 16 ∧
      ((types[UInt16.ofNat index]? = none ∧ out = .pure arg) ∨
        ∃ type value, types[UInt16.ofNat index]? = some type ∧
          type.decode arg.bytes = .ok value ∧ out = .pure (arg.declare type)) := by
  rw [declare]
  by_cases reach : index < 2 ^ 16
  · rw [if_neg (Nat.not_le.mpr reach), and_iff_right reach]
    cases types[UInt16.ofNat index]? with
    | none =>
      constructor
      · exact fun given => .inl ⟨rfl, (Except.ok.inj given).symm⟩
      · rintro (⟨-, rfl⟩ | ⟨_, _, told, -⟩)
        · rfl
        · cases told
    | some type =>
      dsimp only
      constructor
      · intro given
        split at given
        · next value decoded => exact .inr ⟨type, value, rfl, decoded, (Except.ok.inj given).symm⟩
        · cases given
      · rintro (⟨silent, -⟩ | ⟨_, value, told, decoded, rfl⟩)
        · cases silent
        · cases told
          rw [decoded]
  · rw [if_pos (Nat.not_lt.mp reach)]
    exact iff_of_false nofun fun h => reach h.1

theorem declare_same {index : Nat} {input out : CallArg} (h : types.declare index input = .ok out) :
    out.Same input := by
  cases input with
  | object arg => cases h; rfl
  | pure arg =>
    obtain ⟨-, ⟨-, rfl⟩ | ⟨type, value, -, -, rfl⟩⟩ := declare_pure_eq_ok.mp h <;> rfl

theorem tells_empty : Tells pt (fun _ => False) ∅ := fun i type => by simp

end InputTypes

namespace ProgrammableTransaction

variable {pt : ProgrammableTransaction} {source : SignatureSource}

/-- Some command of the transaction takes an argument for this. -/
def HasUse (source : SignatureSource) (pt : ProgrammableTransaction) (use : Use) : Prop :=
  ∃ command ∈ pt.commands, command.HasUse source use

/-- The types that are told in the end are those of all uses, and there are any exactly when every
call is known and all uses agree. -/
theorem ofTransaction_spec (source : SignatureSource) (pt : ProgrammableTransaction) :
    (∀ types, InputTypes.ofTransaction source pt = .ok types →
      (∀ command ∈ pt.commands, command.Known source) ∧ Use.Agree pt (pt.HasUse source) ∧
        InputTypes.Tells pt (pt.HasUse source) types) ∧
    ((∀ command ∈ pt.commands, command.Known source) → Use.Agree pt (pt.HasUse source) →
      ∃ types, InputTypes.ofTransaction source pt = .ok types) := by
  have follows (known : ∀ command ∈ pt.commands, command.Known source) :
      InputTypes.Follows pt (pt.HasUse source) (InputTypes.ofTransaction source pt) := by
    refine (InputTypes.foldlM_recordCommand_follows pt.commands 0 known
      ⟨nofun, nofun⟩ InputTypes.tells_empty).congr fun use => ?_
    exact or_iff_left id
  constructor
  · intro types run
    have known := InputTypes.known_of_foldlM run
    have told := follows known
    rw [run] at told
    exact ⟨known, told⟩
  · intro known agree
    have told := follows known
    cases run : InputTypes.ofTransaction source pt with
    | ok types => exact ⟨types, rfl⟩
    | error e =>
      rw [run] at told
      exact absurd agree told

/-- What it takes to find the types of all pure inputs. -/
structure Resolvable (source : SignatureSource) (pt : ProgrammableTransaction) : Prop where
  known : ∀ call, .moveCall call ∈ pt.commands → ∃ parameters,
    call.HasParameters source parameters ∧ parameters.length = call.arguments.length
  no_pure_object : ∀ i text arg, pt.HasUse source (.object (.input i) text) →
    pt.inputs[i.toNat]? ≠ some (.pure arg)
  present : ∀ i type, pt.HasUse source (.value (.input i) type) → i.toNat < pt.inputs.length
  one_type : ∀ i arg type, pt.inputs[i.toNat]? = some (.pure arg) →
    pt.HasUse source (.value (.input i) type) →
      (∀ other, pt.HasUse source (.value (.input i) other) → other = type) ∧
      (∀ declared, arg.declared = some declared → declared = type) ∧
      ∃ value, type.decode arg.bytes = .ok value
  in_reach : ∀ (index : Nat) (arg : PureArg), pt.inputs[index]? = some (.pure arg) → index ≤ 65535

/-- The same transaction, in which each pure input with a typed use is declared of the type of its
uses. -/
structure ResolvedAs (source : SignatureSource) (pt out : ProgrammableTransaction) : Prop where
  commands : out.commands = pt.commands
  length : out.inputs.length = pt.inputs.length
  object : ∀ (index : Nat) (arg : ObjectArg), pt.inputs[index]? = some (.object arg) →
    out.inputs[index]? = some (.object arg)
  typed : ∀ i arg type, pt.inputs[i.toNat]? = some (.pure arg) →
    pt.HasUse source (.value (.input i) type) →
      out.inputs[i.toNat]? = some (.pure (arg.declare type)) ∧
      ∃ value, (arg.declare type).value = .ok value
  untyped : ∀ i arg, pt.inputs[i.toNat]? = some (.pure arg) →
    (∀ type, ¬pt.HasUse source (.value (.input i) type)) →
      out.inputs[i.toNat]? = some (.pure arg)
  same : out.Same pt
  form : codec.encode out = codec.encode pt

theorem resolve_eq_ok {out : ProgrammableTransaction} : pt.resolve source = .ok out ↔
    ∃ types inputs, InputTypes.ofTransaction source pt = .ok types ∧
      (pt.inputs.zipIdx.mapM fun (input, index) => types.declare index input) = .ok inputs ∧
      out = { pt with inputs } := by
  simp only [resolve, Fallible.bind_eq_ok]
  constructor
  · rintro ⟨types, told, inputs, declared, given⟩
    exact ⟨types, inputs, told, declared, (Except.ok.inj given).symm⟩
  · rintro ⟨types, inputs, told, declared, rfl⟩
    exact ⟨types, told, inputs, declared, rfl⟩

theorem agree_iff : Use.Agree pt (pt.HasUse source) ↔
    (∀ i text arg, pt.HasUse source (.object (.input i) text) →
      pt.inputs[i.toNat]? ≠ some (.pure arg)) ∧
    (∀ i type, pt.HasUse source (.value (.input i) type) → i.toNat < pt.inputs.length) ∧
    ∀ i arg type, pt.inputs[i.toNat]? = some (.pure arg) →
      pt.HasUse source (.value (.input i) type) →
        (∀ other, pt.HasUse source (.value (.input i) other) → other = type) ∧
        ∀ declared, arg.declared = some declared → declared = type := by
  constructor
  · rintro ⟨fits, one_type⟩
    refine ⟨fun i text arg use there => fits _ use ⟨arg, there⟩, fun i type use => (fits _ use).1,
      fun i arg type there use => ⟨fun other use' => ?_, fun declared => ?_⟩⟩
    · exact one_type i other type ⟨arg, there⟩ use' use
    · exact (fits _ use).2 arg declared there
  · rintro ⟨no_pure, present, one_type⟩
    refine ⟨fun use there => ?_, fun i s t ⟨arg, at_i⟩ first second => ?_⟩
    · match use with
      | .value (.input i) type =>
        exact ⟨present i type there, fun arg declared at_i => (one_type i arg type at_i there).2 _⟩
      | .object (.input i) text => exact fun ⟨arg, at_i⟩ => no_pure i text arg there at_i
      | .value .gasCoin _ | .value (.result _) _ | .value (.nestedResult ..) _ => trivial
      | .object .gasCoin _ | .object (.result _) _ | .object (.nestedResult ..) _ => trivial
    · exact (one_type i arg t at_i second).1 s first

theorem resolvable_iff : pt.Resolvable source ↔
    (∀ command ∈ pt.commands, command.Known source) ∧ Use.Agree pt (pt.HasUse source) ∧
    (∀ i arg type, pt.inputs[i.toNat]? = some (.pure arg) →
      pt.HasUse source (.value (.input i) type) → ∃ value, type.decode arg.bytes = .ok value) ∧
    ∀ (index : Nat) (arg : PureArg), pt.inputs[index]? = some (.pure arg) → index < 2 ^ 16 := by
  rw [agree_iff]
  constructor
  · rintro ⟨known, no_pure, present, one_type, in_reach⟩
    refine ⟨?_, ⟨no_pure, present, fun i arg type there use => ?_⟩, fun i arg type there use => ?_,
      fun index arg there => ?_⟩
    · rintro command member call rfl
      exact known call member
    · obtain ⟨used, declared, -⟩ := one_type i arg type there use
      exact ⟨used, declared⟩
    · exact (one_type i arg type there use).2.2
    · exact Nat.lt_succ_of_le (in_reach index arg there)
  · rintro ⟨known, ⟨no_pure, present, one_type⟩, decodes, in_reach⟩
    refine ⟨fun call member => known _ member call rfl, no_pure, present,
      fun i arg type there use => ?_, fun index arg there => ?_⟩
    · obtain ⟨used, declared⟩ := one_type i arg type there use
      exact ⟨used, declared, decodes i arg type there use⟩
    · exact Nat.le_of_lt_succ (in_reach index arg there)

/-- Types that tell all uses can be declared exactly if the inputs decode as them, and have
indices. -/
theorem exists_declared_iff {types : InputTypes}
    (tells : InputTypes.Tells pt (pt.HasUse source) types) :
    (∃ inputs, (pt.inputs.zipIdx.mapM fun (input, index) => types.declare index input) =
      .ok inputs) ↔
    (∀ i arg type, pt.inputs[i.toNat]? = some (.pure arg) →
      pt.HasUse source (.value (.input i) type) → ∃ value, type.decode arg.bytes = .ok value) ∧
    ∀ (index : Nat) (arg : PureArg), pt.inputs[index]? = some (.pure arg) → index < 2 ^ 16 := by
  rw [Fallible.exists_mapM_eq_ok]
  simp only [Prod.forall, List.mk_mem_zipIdx_iff_getElem?]
  constructor
  · intro each
    constructor
    · intro i arg type there use
      have told := (tells i type).mpr ⟨⟨arg, there⟩, use⟩
      obtain ⟨out, given⟩ := each _ _ there
      rw [InputTypes.declare_pure_eq_ok, UInt16.ofNat_toNat, told] at given
      obtain ⟨-, ⟨silent, -⟩ | ⟨_, value, same, decoded, -⟩⟩ := given
      · cases silent
      · cases same
        exact ⟨value, decoded⟩
    · intro index arg there
      obtain ⟨out, given⟩ := each _ _ there
      exact (InputTypes.declare_pure_eq_ok.mp given).1
  · rintro ⟨decodes, in_reach⟩ input index there
    cases input with
    | object arg => exact ⟨_, rfl⟩
    | pure arg =>
      have reach := in_reach index arg there
      simp only [InputTypes.declare_pure_eq_ok, reach, true_and]
      cases told : types[UInt16.ofNat index]? with
      | none => exact ⟨_, .inl ⟨rfl, rfl⟩⟩
      | some type =>
        have place : (UInt16.ofNat index).toNat = index := UInt16.toNat_ofNat_of_lt' reach
        obtain ⟨value, decoded⟩ := decodes (UInt16.ofNat index) arg type (by rwa [place])
          ((tells _ _).mp told).2
        exact ⟨_, .inr ⟨type, value, rfl, decoded, rfl⟩⟩

theorem resolvedAs_of_declared {types : InputTypes} {inputs : List CallArg}
    (tells : InputTypes.Tells pt (pt.HasUse source) types)
    (h : (pt.inputs.zipIdx.mapM fun (input, index) => types.declare index input) = .ok inputs) :
    pt.ResolvedAs source { pt with inputs } := by
  have declared {index : Nat} {input : CallArg} (there : pt.inputs[index]? = some input) :
      ∃ out, inputs[index]? = some out ∧ types.declare index input = .ok out :=
    Fallible.getElem?_of_mapM h (a := (input, index)) (by simp [List.getElem?_zipIdx, there])
  have same : ProgrammableTransaction.Same { pt with inputs } pt := by
    have each := (Fallible.mapM_eq_ok.mp h).imp fun _ _ given => InputTypes.declare_same given
    refine ⟨List.Forall₂.flip ?_, rfl⟩
    rw [← List.zipIdx_map_fst 0 pt.inputs]
    exact List.forall₂_map_left_iff.mpr each
  exact
    { commands := rfl
      length := by simpa using Fallible.length_of_mapM h
      object := fun index arg there => by
        obtain ⟨out, at_index, given⟩ := declared there
        cases given
        exact at_index
      typed := fun i arg type there use => by
        obtain ⟨out, at_i, given⟩ := declared there
        have told := (tells i type).mpr ⟨⟨arg, there⟩, use⟩
        rw [InputTypes.declare_pure_eq_ok, UInt16.ofNat_toNat, told] at given
        obtain ⟨-, ⟨silent, -⟩ | ⟨_, value, same, decoded, rfl⟩⟩ := given
        · cases silent
        · cases same
          exact ⟨at_i, value, decoded⟩
      untyped := fun i arg there no_use => by
        obtain ⟨out, at_i, given⟩ := declared there
        rw [InputTypes.declare_pure_eq_ok, UInt16.ofNat_toNat] at given
        obtain ⟨-, ⟨-, rfl⟩ | ⟨type, _, told, -, -⟩⟩ := given
        · exact at_i
        · exact absurd ((tells i type).mp told).2 (no_use type)
      same
      form := by
        have normal (a : ProgrammableTransaction) : codec.write a.undeclared = codec.write a :=
          (codec_conforms.carries a).normal
        exact (normal _).symm.trans ((congrArg _ (same_iff.mp same)).trans (normal pt)) }

/-- Resolution succeeds exactly where types can be found, and then changes nothing but what pure
inputs are declared of. -/
theorem resolve_exactly (source : SignatureSource) (pt : ProgrammableTransaction) :
    ((∃ out, pt.resolve source = .ok out) ↔ pt.Resolvable source) ∧
      ∀ out, pt.resolve source = .ok out → pt.ResolvedAs source out := by
  obtain ⟨sound, complete⟩ := ofTransaction_spec source pt
  constructor
  · rw [resolvable_iff]
    constructor
    · rintro ⟨out, run⟩
      obtain ⟨types, inputs, told, declared, -⟩ := resolve_eq_ok.mp run
      obtain ⟨known, agree, tells⟩ := sound types told
      exact ⟨known, agree, (exists_declared_iff tells).mp ⟨inputs, declared⟩⟩
    · rintro ⟨known, agree, declarable⟩
      obtain ⟨types, told⟩ := complete known agree
      have tells := (sound types told).2.2
      obtain ⟨inputs, declared⟩ := (exists_declared_iff tells).mpr declarable
      exact ⟨_, resolve_eq_ok.mpr ⟨types, inputs, told, declared, rfl⟩⟩
  · intro out run
    obtain ⟨types, inputs, told, declared, rfl⟩ := resolve_eq_ok.mp run
    exact resolvedAs_of_declared (sound types told).2.2 declared

/-- Splits off an amount and sends it to the recipient that an argument holds. -/
def ofPayment (recipient : Argument) : ProgrammableTransaction :=
  ⟨[.ofBytes (Writer.u64 500), .ofBytes Address.framework.bytes],
    [.splitCoins .gasCoin [.input 0], .transferObjects [.result 0] recipient]⟩

theorem ofPayment_hasUse_iff {recipient : Argument} {use : Use} :
    (ofPayment recipient).HasUse source use ↔
      use = .value (.input 0) .u64 ∨ use = .value recipient .address := by
  constructor
  · rintro ⟨command, member, use⟩
    simp only [ofPayment, List.mem_cons, List.not_mem_nil, or_false] at member
    rcases member with rfl | rfl
    · cases use with
      | amount passed => exact .inl (by rw [List.mem_singleton.mp passed])
    · cases use with
      | recipient => exact .inr rfl
  · rintro (rfl | rfl)
    · exact ⟨_, List.mem_cons_self, .amount List.mem_cons_self⟩
    · exact ⟨_, List.mem_cons_of_mem _ List.mem_cons_self, .recipient⟩

theorem ofPayment_resolvable : (ofPayment (.input 1)).Resolvable source where
  known call member := by simp [ofPayment] at member
  no_pure_object i text arg use := by
    rcases ofPayment_hasUse_iff.mp use with use | use <;> cases use
  present i type use := by
    rcases ofPayment_hasUse_iff.mp use with use | use <;> cases use <;> decide
  one_type i arg type there use := by
    simp only [ofPayment_hasUse_iff]
    rcases ofPayment_hasUse_iff.mp use with use | use <;> cases use <;> cases there
    · exact ⟨by simp, nofun, .u64 500, rfl⟩
    · exact ⟨by simp, nofun, .address .framework, rfl⟩
  in_reach index arg there := by
    have inside : index < 2 := (List.getElem?_eq_some_iff.mp there).1
    omega

/-- With inputs of its own for amount and recipient a payment is resolved, and their types are
found; with one input for both it is refused. -/
theorem payment_is_resolved : ∃ source : SignatureSource,
    (∃ out, (ofPayment (.input 1)).resolve source = .ok out ∧
      out.inputs[0]? = some (.pure ⟨Writer.u64 500, some .u64⟩) ∧
      out.inputs[1]? = some (.pure ⟨Address.framework.bytes, some .address⟩)) ∧
    ¬∃ out, (ofPayment (.input 0)).resolve source = .ok out := by
  refine ⟨fun name => .error (.unknownType name.text), ?_, ?_⟩
  · obtain ⟨out, run⟩ := (resolve_exactly _ _).1.mpr ofPayment_resolvable
    have resolved := (resolve_exactly _ _).2 out run
    exact ⟨out, run, (resolved.typed 0 _ .u64 rfl (ofPayment_hasUse_iff.mpr (.inl rfl))).1,
      (resolved.typed 1 _ .address rfl (ofPayment_hasUse_iff.mpr (.inr rfl))).1⟩
  · rw [(resolve_exactly _ _).1]
    intro h
    have first := (h.one_type 0 _ .u64 rfl (ofPayment_hasUse_iff.mpr (.inl rfl))).1
    cases first .address (ofPayment_hasUse_iff.mpr (.inr rfl))

end ProgrammableTransaction

end MoveWire
