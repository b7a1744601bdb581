import MoveWire.Proofs.Fallible
import MoveWire.Transaction.Resolution

/-!
What the commands of a transaction take arguments for, as a relation: one rule for each place at
which an argument can stand. The lists of uses that are computed hold exactly these uses.
-/

namespace MoveWire

/-- The parameters that a caller fills: of all texts that the source tells for the function, each
with its type in this call, those that are no context. -/
def MoveCall.HasParameters (source : SignatureSource) (call : MoveCall)
    (parameters : List (String × TypeTag)) : Prop :=
  ∃ all : List (String × TypeTag), source call.functionName = .ok (all.map Prod.fst) ∧
    (∀ p ∈ all, Move.parseParameter p.1 call.typeArguments = .ok p.2) ∧
    parameters = all.filter fun p => !p.2.isTxContext

/-- A call can be typed if its function is known and takes as many arguments as it is given; there
is nothing to know about other commands. -/
def Command.Known (source : SignatureSource) (command : Command) : Prop :=
  ∀ call, command = .moveCall call →
    ∃ parameters, call.HasParameters source parameters ∧
      parameters.length = call.arguments.length

inductive Command.HasUse (source : SignatureSource) : Command → Use → Prop where
  | pureParameter {call parameters arg text tag type} (known : call.HasParameters source parameters)
      (passed : (arg, text, tag) ∈ call.arguments.zip parameters)
      (pure : tag.pureType? = some type) : HasUse source (.moveCall call) (.value arg type)
  | objectParameter {call parameters arg text tag} (known : call.HasParameters source parameters)
      (passed : (arg, text, tag) ∈ call.arguments.zip parameters)
      (object : tag.pureType? = none) : HasUse source (.moveCall call) (.object arg text)
  | amount {coin amounts arg} (passed : arg ∈ amounts) :
      HasUse source (.splitCoins coin amounts) (.value arg .u64)
  | recipient {objects arg} : HasUse source (.transferObjects objects arg) (.value arg .address)
  | item {tag type items arg} (pure : tag.pureType? = some type) (passed : arg ∈ items) :
      HasUse source (.makeMoveVec (some tag) items) (.value arg type)

variable {source : SignatureSource}

namespace MoveCall

theorem parameters_eq_ok {call : MoveCall} {parameters : List (String × TypeTag)} :
    call.parameters source = .ok parameters ↔ call.HasParameters source parameters := by
  simp only [MoveCall.parameters, HasParameters, Fallible.bind_eq_ok, Fallible.mapM_pair_eq_ok]
  constructor
  · rintro ⟨_, told, all, ⟨rfl, each⟩, given⟩
    exact ⟨all, told, each, (Except.ok.inj given).symm⟩
  · rintro ⟨all, told, each, rfl⟩
    exact ⟨_, told, all, ⟨rfl, each⟩, rfl⟩

theorem parameters_unique {call : MoveCall} {parameters others : List (String × TypeTag)}
    (h : call.HasParameters source parameters) (h' : call.HasParameters source others) :
    parameters = others :=
  Except.ok.inj ((parameters_eq_ok.mpr h).symm.trans (parameters_eq_ok.mpr h'))

theorem uses_eq_ok {call : MoveCall} {site : String} {uses : List Use} :
    call.uses source site = .ok uses ↔ ∃ parameters, call.HasParameters source parameters ∧
      parameters.length = call.arguments.length ∧
      uses = (call.arguments.zip parameters).map fun (arg, text, tag) =>
        match tag.pureType? with
        | some type => .value arg type
        | none => .object arg text := by
  simp only [MoveCall.uses, Fallible.bind_eq_ok, parameters_eq_ok]
  refine exists_congr fun parameters => and_congr_right fun _ => ?_
  by_cases same : parameters.length = call.arguments.length
  · rw [if_neg (not_not_intro same), and_iff_right same]
    exact ⟨fun given => (Except.ok.inj given).symm, fun given => congrArg Except.ok given.symm⟩
  · rw [if_pos same]
    refine iff_of_false (fun given => ?_) fun h => same h.1
    cases given

end MoveCall

namespace Command

theorem exists_uses_iff {command : Command} {site : String} :
    (∃ uses, command.uses source site = .ok uses) ↔ command.Known source := by
  cases command with
  | moveCall call =>
    simp only [uses, MoveCall.uses_eq_ok, Known, moveCall.injEq, forall_eq']
    constructor
    · rintro ⟨_, parameters, known, same, -⟩
      exact ⟨parameters, known, same⟩
    · rintro ⟨parameters, known, same⟩
      exact ⟨_, parameters, known, same, rfl⟩
  | makeMoveVec item items =>
    refine iff_of_true ?_ fun _ same => by cases same
    cases item with
    | none => exact ⟨[], rfl⟩
    | some tag =>
      rw [uses]
      split <;> exact ⟨_, rfl⟩
  | _ => exact iff_of_true ⟨_, rfl⟩ fun _ same => by cases same

theorem mem_uses_iff {command : Command} {site : String} {uses : List Use}
    (h : command.uses source site = .ok uses) {use : Use} :
    use ∈ uses ↔ command.HasUse source use := by
  cases command with
  | moveCall call =>
    obtain ⟨parameters, known, -, rfl⟩ := MoveCall.uses_eq_ok.mp h
    rw [List.mem_map]
    constructor
    · rintro ⟨⟨arg, text, tag⟩, passed, rfl⟩
      dsimp only
      split
      · next type pure => exact .pureParameter known passed pure
      · next object => exact .objectParameter known passed object
    · intro use
      cases use with
      | pureParameter known' passed pure =>
        obtain rfl := MoveCall.parameters_unique known known'
        exact ⟨_, passed, by simp only [pure]⟩
      | objectParameter known' passed object =>
        obtain rfl := MoveCall.parameters_unique known known'
        exact ⟨_, passed, by simp only [object]⟩
  | splitCoins coin amounts =>
    cases h
    rw [List.mem_map]
    constructor
    · rintro ⟨arg, passed, rfl⟩
      exact .amount passed
    · intro use
      cases use with
      | amount passed => exact ⟨_, passed, rfl⟩
  | transferObjects objects recipient =>
    cases h
    rw [List.mem_singleton]
    constructor
    · rintro rfl
      exact .recipient
    · intro use
      cases use with
      | recipient => rfl
  | makeMoveVec item items =>
    cases item with
    | none =>
      cases h
      exact iff_of_false List.not_mem_nil fun use => by cases use
    | some tag =>
      rw [Command.uses] at h
      split at h
      · next type pure =>
        cases h
        rw [List.mem_map]
        constructor
        · rintro ⟨arg, passed, rfl⟩
          exact .item pure passed
        · intro use
          cases use with
          | item pure' passed =>
            obtain rfl := Option.some.inj (pure.symm.trans pure')
            exact ⟨_, passed, rfl⟩
      · next object =>
        cases h
        refine iff_of_false List.not_mem_nil fun use => ?_
        cases use with
        | item pure' passed => cases object.symm.trans pure'
  | mergeCoins target sources =>
    cases h
    exact iff_of_false List.not_mem_nil fun use => by cases use
  | publish modules dependencies =>
    cases h
    exact iff_of_false List.not_mem_nil fun use => by cases use
  | upgrade modules dependencies package ticket =>
    cases h
    exact iff_of_false List.not_mem_nil fun use => by cases use

end Command

end MoveWire
