import MoveWire.Proofs.Transaction.Resolution

/-!
What does not matter when the types of pure inputs are found. The order of the commands does not,
for the types told in the end are those of all uses, and a transaction has the uses of its commands
wherever these stand. Nor does it matter that types were found before: an input that is declared of
the type of its uses fits all of them, and is declared of that type once more.
-/

namespace MoveWire

namespace InputTypes

variable {pt : ProgrammableTransaction} {seen : Use → Prop} {types others : InputTypes}

/-- Two tables that tell the same uses hold the same types. -/
theorem Tells.getElem?_eq (h : Tells pt seen types) (h' : Tells pt seen others) (i : UInt16) :
    types[i]? = others[i]? := by
  apply Option.ext
  intro type
  exact (h i type).trans (h' i type).symm

/-- Tables that hold the same types declare inputs alike. -/
theorem declare_congr (same : ∀ i : UInt16, types[i]? = others[i]?) (index : Nat)
    (input : CallArg) : types.declare index input = others.declare index input := by
  cases input with
  | object arg => rfl
  | pure arg => rw [declare, declare, same]

/-- An input as it was declared is left as it is. -/
theorem declare_again {index : Nat} {input out : CallArg}
    (h : types.declare index input = .ok out) : types.declare index out = .ok out := by
  cases input with
  | object arg =>
    cases h
    rfl
  | pure arg =>
    rw [declare_pure_eq_ok] at h
    obtain ⟨reach, ⟨silent, rfl⟩ | ⟨type, value, told, decoded, rfl⟩⟩ := h
    · exact declare_pure_eq_ok.mpr ⟨reach, .inl ⟨silent, rfl⟩⟩
    · exact declare_pure_eq_ok.mpr ⟨reach, .inr ⟨type, value, told, decoded, rfl⟩⟩

/-- All inputs as they were declared are left as they are. -/
theorem mapM_declare_again {inputs outs : List CallArg} {first : Nat}
    (h : ((inputs.zipIdx first).mapM fun (input, index) => types.declare index input) = .ok outs) :
    ((outs.zipIdx first).mapM fun (input, index) => types.declare index input) = .ok outs := by
  rw [Fallible.mapM_eq_ok] at h ⊢
  induction inputs generalizing outs first with
  | nil =>
    cases h
    exact .nil
  | cons input rest ih =>
    rw [List.zipIdx_cons] at h
    cases h with
    | cons given later =>
      rw [List.zipIdx_cons]
      exact .cons (declare_again given) (ih later)

end InputTypes

namespace ProgrammableTransaction

variable {pt out : ProgrammableTransaction} {source : SignatureSource}

/-- Resolution declares the inputs by any table that tells all uses, if these agree. -/
theorem resolve_eq_ok_iff : pt.resolve source = .ok out ↔
    (∀ command ∈ pt.commands, command.Known source) ∧ Use.Agree pt (pt.HasUse source) ∧
    ∃ types, InputTypes.Tells pt (pt.HasUse source) types ∧
      (pt.inputs.zipIdx.mapM fun (input, index) => types.declare index input) = .ok out.inputs ∧
      out.commands = pt.commands := by
  obtain ⟨sound, complete⟩ := ofTransaction_spec source pt
  rw [resolve_eq_ok]
  constructor
  · rintro ⟨types, inputs, told, declared, rfl⟩
    obtain ⟨known, agree, tells⟩ := sound types told
    exact ⟨known, agree, types, tells, declared, rfl⟩
  · rintro ⟨known, agree, types, tells, declared, same⟩
    -- The table that is found need not be this one, but it holds the same types.
    obtain ⟨found, told⟩ := complete known agree
    have tells' := (sound found told).2.2
    refine ⟨found, out.inputs, told, ?_, ?_⟩
    · simpa only [InputTypes.declare_congr (tells'.getElem?_eq tells)] using declared
    · rw [← same]

/-- A resolvable transaction is resolved. -/
theorem Resolvable.exists_out (h : pt.Resolvable source) : ∃ out, pt.resolve source = .ok out := by
  obtain ⟨known, agree, declarable⟩ := resolvable_iff.mp h
  obtain ⟨types, told⟩ := (ofTransaction_spec source pt).2 known agree
  have tells := ((ofTransaction_spec source pt).1 types told).2.2
  obtain ⟨inputs, declared⟩ := (exists_declared_iff tells).mpr declarable
  exact ⟨{ pt with inputs }, resolve_eq_ok_iff.mpr ⟨known, agree, types, tells, declared, rfl⟩⟩

/-- It is the commands that matter, and not in which order or how often they stand. -/
theorem resolve_of_same_commands {other : ProgrammableTransaction}
    (run : pt.resolve source = .ok out) (inputs : other.inputs = pt.inputs)
    (same : ∀ command, command ∈ other.commands ↔ command ∈ pt.commands) :
    other.resolve source = .ok { out with commands := other.commands } := by
  have uses : other.HasUse source = pt.HasUse source := by
    funext use
    simp only [HasUse, same]
  obtain ⟨_, commands⟩ := other
  cases inputs
  rw [resolve_eq_ok_iff] at run ⊢
  obtain ⟨known, ⟨fits, one_type⟩, types, tells, declared, -⟩ := run
  rw [uses]
  refine ⟨?_, ⟨fits, one_type⟩, types, tells, declared, rfl⟩
  intro command there
  exact known command ((same command).mp there)

namespace ResolvedAs

/-- A pure input stays one, and no object becomes one. -/
theorem pureAt_iff (h : pt.ResolvedAs source out) (i : UInt16) : out.PureAt i ↔ pt.PureAt i := by
  constructor
  · rintro ⟨arg, there⟩
    have inside : i.toNat < pt.inputs.length := by
      rw [← h.length]
      exact (List.getElem?_eq_some_iff.mp there).1
    cases before : pt.inputs[i.toNat] with
    | pure given => exact ⟨given, List.getElem?_eq_some_iff.mpr ⟨inside, before⟩⟩
    | object given =>
      have stays := h.object i.toNat given (List.getElem?_eq_some_iff.mpr ⟨inside, before⟩)
      cases there.symm.trans stays
  · rintro ⟨arg, there⟩
    by_cases used : ∃ type, pt.HasUse source (.value (.input i) type)
    · obtain ⟨type, use⟩ := used
      exact ⟨_, (h.typed i arg type there use).1⟩
    · exact ⟨arg, h.untyped i arg there (not_exists.mp used)⟩

/-- The type that an input with a use is declared of afterwards is the type of that use. -/
theorem declared_eq (h : pt.ResolvedAs source out) {i : UInt16} {arg : PureArg}
    {type declared : PureType} (use : pt.HasUse source (.value (.input i) type))
    (there : out.inputs[i.toNat]? = some (.pure arg)) (given : arg.declared = some declared) :
    declared = type := by
  obtain ⟨before, at_i⟩ := (h.pureAt_iff i).mp ⟨arg, there⟩
  have after := (h.typed i before type at_i use).1
  cases there.symm.trans after
  exact (Option.some.inj given).symm

/-- Uses that agreed before agree afterwards. -/
theorem agree (h : pt.ResolvedAs source out) (agree : Use.Agree pt (pt.HasUse source)) :
    Use.Agree out (pt.HasUse source) where
  fits use there := by
    match use with
    | .value (.input i) type =>
      constructor
      · rw [h.length]
        exact (agree.fits _ there).1
      · intro arg declared at_i
        exact h.declared_eq there at_i
    | .object (.input i) text =>
      intro pure
      exact agree.fits _ there ((h.pureAt_iff i).mp pure)
    | .value .gasCoin _ | .value (.result _) _ | .value (.nestedResult ..) _ => trivial
    | .object .gasCoin _ | .object (.result _) _ | .object (.nestedResult ..) _ => trivial
  one_type i s t pure := agree.one_type i s t ((h.pureAt_iff i).mp pure)

end ResolvedAs

/-- What was resolved is left as it is. -/
theorem resolve_again (run : pt.resolve source = .ok out) : out.resolve source = .ok out := by
  obtain ⟨known, agree, types, tells, declared, same⟩ := resolve_eq_ok_iff.mp run
  have resolved : pt.ResolvedAs source out := by
    have result : out = { pt with inputs := out.inputs } := by rw [← same]
    rw [result]
    exact resolvedAs_of_declared tells declared
  have uses : out.HasUse source = pt.HasUse source := by
    funext use
    rw [HasUse, HasUse, same]
  rw [resolve_eq_ok_iff, same, uses]
  refine ⟨known, resolved.agree agree, types, ?_, InputTypes.mapM_declare_again declared, rfl⟩
  intro i type
  rw [resolved.pureAt_iff]
  exact tells i type

/-- A transaction is resolved with its commands in one order exactly when it is in any other, with
the same inputs declared of the same types; and once resolved it is resolved to itself. -/
theorem resolve_in_any_order_and_again (source : SignatureSource) (pt : ProgrammableTransaction) :
    (∀ commands, commands.Perm pt.commands →
      ((∃ out, { pt with commands }.resolve source = .ok out) ↔
        ∃ out, pt.resolve source = .ok out) ∧
      ∀ out reordered, pt.resolve source = .ok out →
        { pt with commands }.resolve source = .ok reordered →
          reordered.inputs = out.inputs ∧ reordered.commands = commands) ∧
    ∀ out, pt.resolve source = .ok out → out.resolve source = .ok out := by
  constructor
  · intro commands order
    constructor
    · constructor
      · rintro ⟨out, run⟩
        exact ⟨_, resolve_of_same_commands run rfl fun _ => order.mem_iff.symm⟩
      · rintro ⟨out, run⟩
        exact ⟨_, resolve_of_same_commands run rfl fun _ => order.mem_iff⟩
    · intro out reordered run run'
      have given : { pt with commands }.resolve source = .ok { out with commands } :=
        resolve_of_same_commands run rfl fun _ => order.mem_iff
      cases given.symm.trans run'
      exact ⟨rfl, rfl⟩
  · intro out run
    exact resolve_again run

/-- A payment, with its two commands exchanged, and resolved once more. -/
theorem payment_resolved_in_any_order : ∃ source : SignatureSource, ∃ out reordered,
    (ofPayment (.input 1)).resolve source = .ok out ∧
    { ofPayment (.input 1) with commands := (ofPayment (.input 1)).commands.reverse }.resolve
      source = .ok reordered ∧
    reordered.inputs = out.inputs ∧ out.resolve source = .ok out := by
  refine ⟨fun name => .error (.unknownType name.text), ?_⟩
  obtain ⟨any_order, again⟩ := resolve_in_any_order_and_again
    (fun name => .error (.unknownType name.text)) (ofPayment (.input 1))
  obtain ⟨out, run⟩ := ofPayment_resolvable.exists_out
  obtain ⟨both, same⟩ := any_order _ (List.reverse_perm _)
  obtain ⟨reordered, run'⟩ := both.mpr ⟨out, run⟩
  exact ⟨out, reordered, run, run', (same out reordered run run').1, again out run⟩

end ProgrammableTransaction

end MoveWire
