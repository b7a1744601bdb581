import MoveWire.Proofs.Transaction.Builder.Operations
import MoveWire.Proofs.Wire.WholeBuffer

/-!
What operations on a builder keep. Whether they succeed or fail, they only add behind what is
there, no input stands twice, and no list grows beyond what an index of 16 bits reaches; so a place
that was given out stays the place of what it was given for.
-/

namespace MoveWire

theorem CallArg.encode_eq_ok_iff {a b : CallArg} {form : Bytes} (h : codec.encode a = .ok form) :
    codec.encode b = .ok form ↔ a.Same b := by
  rw [codec_conforms.encode_eq_iff h, same_iff]
  rfl

theorem Builder.getElem?_of_prefix {α : Type} {l longer : List α} (h : l <+: longer) {i : Nat}
    {a : α} (there : l[i]? = some a) : longer[i]? = some a := by
  obtain ⟨tail, rfl⟩ := h
  rw [List.getElem?_append_left (List.getElem?_eq_some_iff.mp there).1, there]

namespace BuildStep

open Building

theorem apply_grown (b : Builder) (step : BuildStep) : b.Grown (apply b step).2 := by
  have grown := (action_meets step).grown b
  unfold after at grown
  unfold apply
  cases run : step.action b <;> rwa [run] at grown

theorem run_grown (b : Builder) (steps : List BuildStep) : b.Grown (run b steps) := by
  induction steps generalizing b with
  | nil => exact .refl b
  | cons step rest ih => exact (apply_grown b step).trans (ih _)

/-- The input that an operation asks a place for, if it does nothing else. -/
def input? : BuildStep → Option CallArg
  | .input arg => some arg
  | .bytes content => some (.ofBytes content)
  | .encoded form => form.toOption.map .ofBytes
  | .typed type value => (PureArg.typed type value).toOption.map .pure
  | .object arg => some (.object arg)
  | _ => none

/-- The command that an operation adds, if it does nothing else. -/
def command? : BuildStep → Option Command
  | .command c => some c
  | .moveCall call => some (.moveCall call)
  | .publish modules dependencies => some (.publish modules dependencies)
  | .upgrade package ticket dependencies modules =>
    some (.upgrade modules dependencies package ticket)
  | .makeMoveVec item items =>
    if item.isNone && items.isEmpty then none else some (.makeMoveVec item items)
  | _ => none

theorem action_of_input? {step : BuildStep} {arg : CallArg} (h : step.input? = some arg) :
    step.action = some <$> addInput arg := by
  cases step with
  | input given => cases h; rfl
  | bytes content => cases h; rfl
  | object given => cases h; rfl
  | encoded form =>
    cases form with
    | ok content => cases h; rfl
    | error e => cases h
  | typed type value =>
    simp only [input?] at h
    simp only [action, addTyped]
    cases typed : PureArg.typed type value with
    | ok pure => rw [typed] at h; cases h; rfl
    | error e => rw [typed] at h; cases h
  | _ => cases h

theorem action_of_command? {step : BuildStep} {c : Command} (h : step.command? = some c) :
    step.action = some <$> addCommand c := by
  cases step with
  | command given => cases h; rfl
  | moveCall call => cases h; rfl
  | publish modules dependencies => cases h; rfl
  | upgrade package ticket dependencies modules => cases h; rfl
  | makeMoveVec item items =>
    simp only [command?] at h
    simp only [action, Building.makeMoveVec]
    split at h
    · cases h
    · next typed => cases h; rw [if_neg typed]
  | _ => cases h

theorem apply_of_input? {b : Builder} {step : BuildStep} {arg : CallArg}
    (h : step.input? = some arg) : apply b step =
      match addInput arg b with
      | .ok place next => (.ok (some place), next)
      | .error e next => (.error e, next) := by
  rw [apply, action_of_input? h]
  simp only [Functor.map, EStateM.map]
  cases addInput arg b <;> rfl

theorem apply_of_command? {b : Builder} {step : BuildStep} {c : Command}
    (h : step.command? = some c) : apply b step =
      match appendCommand c b with
      | .ok place next => (.ok (some (.result place)), next)
      | .error e next => (.error e, next) := by
  rw [apply, action_of_command? h]
  simp only [addCommand, Functor.map, EStateM.map]
  cases appendCommand c b <;> rfl

/-- A place that an operation gives for an input holds that input. -/
theorem input_of_apply {b : Builder} {step : BuildStep} {arg : CallArg} {result : Option Argument}
    (h : step.input? = some arg) (run : (apply b step).1 = .ok result) :
    ∃ i held, result = some (.input i) ∧
      (apply b step).2.finish.inputs[i.toNat]? = some held ∧ held.Same arg := by
  rw [apply_of_input? h] at run ⊢
  obtain ⟨i, held, reach, there, same, added⟩ | ⟨-, room, next, content, added⟩ |
    ⟨-, index, -, added⟩ := addInput_cases arg b <;> rw [added] at run ⊢
  · cases run
    exact ⟨_, held, rfl, by rwa [UInt16.toNat_ofNat_of_lt' reach], same⟩
  · cases run
    refine ⟨_, arg, rfl, ?_, CallArg.same_iff.mpr rfl⟩
    rw [UInt16.toNat_ofNat_of_lt' room, content]
    simp
  · cases run

theorem command_of_apply {b : Builder} {step : BuildStep} {c : Command} {result : Option Argument}
    (h : step.command? = some c) (run : (apply b step).1 = .ok result) :
    ∃ i, result = some (.result i) ∧ (apply b step).2.finish.commands[i.toNat]? = some c := by
  rw [apply_of_command? h] at run ⊢
  obtain ⟨room, next, content, added⟩ | ⟨-, added⟩ := appendCommand_cases c b <;>
    rw [added] at run ⊢
  · cases run
    refine ⟨_, rfl, ?_⟩
    rw [UInt16.toNat_ofNat_of_lt' room, content]
    simp
  · cases run

/-- A place for an input is refused only if it would be a new one behind the last index. -/
theorem refused_iff {b : Builder} {step : BuildStep} {arg : CallArg} (h : step.input? = some arg)
    (bounded : b.finish.inputs.length ≤ 2 ^ 16) :
    (∃ e, (apply b step).1 = .error e) ↔
      (∀ held ∈ b.finish.inputs, ¬held.Same arg) ∧ b.finish.inputs.length = 2 ^ 16 := by
  rw [apply_of_input? h]
  obtain ⟨i, held, -, there, same, added⟩ | ⟨-, room, next, -, added⟩ |
    ⟨full, index, cause, added⟩ := addInput_cases arg b <;> rw [added]
  · refine iff_of_false (fun ⟨_, failed⟩ => nomatch failed) fun ⟨absent, _⟩ => ?_
    exact absent held (List.mem_of_getElem? there) same
  · exact iff_of_false (fun ⟨_, failed⟩ => nomatch failed) fun ⟨_, full⟩ => by omega
  · exact iff_of_true ⟨_, rfl⟩ ⟨(cause bounded).1, Nat.le_antisymm bounded full⟩

theorem unchanged_of_refused {b : Builder} {step : BuildStep} {arg : CallArg} {e : WireError}
    (h : step.input? = some arg) (refused : (apply b step).1 = .error e) :
    (apply b step).2 = b := by
  rw [apply_of_input? h] at refused ⊢
  obtain ⟨i, held, -, -, -, added⟩ | ⟨-, -, next, -, added⟩ | ⟨-, index, -, added⟩ :=
    addInput_cases arg b <;> rw [added] at refused ⊢
  · cases refused

/-- What can be relied on in a builder, now and after any later operations. -/
structure KeepsPlaces (b : Builder) : Prop where
  distinct : b.finish.inputs.Pairwise fun a c => ¬a.Same c
  form_eq_iff : ∀ a ∈ b.finish.inputs, ∀ form, CallArg.codec.encode a = .ok form →
    ∀ c, CallArg.codec.encode c = .ok form ↔ a.Same c
  inputs_le : b.finish.inputs.length ≤ 65536
  commands_le : b.finish.commands.length ≤ 65536
  continued : ∀ later, b.finish.inputs <+: (run b later).finish.inputs ∧
    b.finish.commands <+: (run b later).finish.commands
  input_kept : ∀ step arg result, step.input? = some arg → (apply b step).1 = .ok result →
    ∃ i, result = some (.input i) ∧ ∀ later, ∃ held,
      (run b (step :: later)).finish.inputs[i.toNat]? = some held ∧ held.Same arg
  input_refused : ∀ step arg, step.input? = some arg →
    ((∃ e, (apply b step).1 = .error e) ↔
      (∀ held ∈ b.finish.inputs, ¬held.Same arg) ∧ b.finish.inputs.length = 65536)
  unchanged : ∀ step arg e, step.input? = some arg → (apply b step).1 = .error e →
    (apply b step).2 = b
  command_kept : ∀ step c result, step.command? = some c → (apply b step).1 = .ok result →
    ∃ i, result = some (.result i) ∧ ∀ later,
      (run b (step :: later)).finish.commands[i.toNat]? = some c

/-- Whatever operations a builder has seen, and whichever of them failed, the places that it gave
out are kept. -/
theorem run_keeps_places (steps : List BuildStep) : KeepsPlaces (run .empty steps) := by
  -- Only the bounds come from the run; all the rest holds of any builder.
  have grown := run_grown .empty steps
  generalize run .empty steps = b at grown
  have bounded : b.finish.inputs.length ≤ 2 ^ 16 := grown.inputs_le (Nat.zero_le _)
  exact
    { distinct := b.inputs.distinct
      form_eq_iff := fun a _ form written c => CallArg.encode_eq_ok_iff written
      inputs_le := bounded
      commands_le := grown.commands_le (Nat.zero_le _)
      continued := fun later => ⟨(run_grown b later).inputs, (run_grown b later).commands⟩
      input_kept := fun step arg result h given => by
        obtain ⟨i, held, rfl, there, same⟩ := input_of_apply h given
        refine ⟨i, rfl, fun later => ⟨held, ?_, same⟩⟩
        exact Builder.getElem?_of_prefix (run_grown _ later).inputs there
      input_refused := fun step arg h => refused_iff h bounded
      unchanged := fun step arg e h => unchanged_of_refused h
      command_kept := fun step c result h given => by
        obtain ⟨i, rfl, there⟩ := command_of_apply h given
        refine ⟨i, rfl, fun later => ?_⟩
        exact Builder.getElem?_of_prefix (run_grown _ later).commands there }

/-- Different inputs get their places in the order in which they come. -/
theorem run_inputs {args : List CallArg} {b : Builder}
    (distinct : (b.finish.inputs ++ args).Pairwise fun a c => ¬a.Same c)
    (room : (b.finish.inputs ++ args).length ≤ 2 ^ 16) : (run b (args.map .input)).finish =
      { b.finish with inputs := b.finish.inputs ++ args } := by
  induction args generalizing b with
  | nil => simp [run]
  | cons arg rest ih =>
    have split : b.finish.inputs ++ arg :: rest = b.finish.inputs ++ [arg] ++ rest := by simp
    have short : b.finish.inputs.length < 2 ^ 16 := by
      simp only [List.length_append, List.length_cons] at room
      omega
    change (run (apply b (.input arg)).2 (rest.map .input)).finish = _
    rw [apply_of_input? rfl]
    obtain ⟨i, held, -, there, same, added⟩ | ⟨-, -, next, content, added⟩ | ⟨full, -⟩ :=
      addInput_cases arg b
    · have apart := (List.pairwise_append.mp distinct).2.2 held (List.mem_of_getElem? there) arg
      exact absurd same (apart List.mem_cons_self)
    · have inputs : next.finish.inputs = b.finish.inputs ++ [arg] := by rw [content]
      rw [split, ← inputs] at distinct room
      rw [added, ih distinct room, content, split]
    · omega

/-- Operations that take the first `n` places for inputs. -/
def filling (n : Nat) : List BuildStep :=
  ((List.range n).map fun size => CallArg.ofBytes (List.replicate size 0)).map .input

theorem run_filling {n : Nat} (h : n ≤ 2 ^ 16) : (run .empty (filling n)).finish =
    ⟨(List.range n).map fun size => CallArg.ofBytes (List.replicate size 0), []⟩ := by
  refine run_inputs (b := .empty) ?_ (by simpa [Builder.empty, Builder.finish,
    InputTable.empty, InputTable.toList] using h)
  refine List.pairwise_map.mpr (List.nodup_range.imp fun differ same => differ ?_)
  simpa [CallArg.Same, CallArg.ofBytes, PureArg.ofBytes] using congrArg List.length same

/-- In a builder without a free place for inputs a new input is refused, while the last one of
those that are there still has its place, and a command gets one. -/
theorem full_builder_keeps_places : ∃ b : Builder, KeepsPlaces b ∧
    b.finish.inputs.length = 65536 ∧
    (∃ e, apply b (.bytes [1]) = (.error e, b)) ∧
    (∃ i, (apply b (.bytes (List.replicate 65535 0))).1 = .ok (some (.input i)) ∧
      ∀ later, ∃ held, (run b (.bytes (List.replicate 65535 0) :: later)).finish.inputs[i.toNat]? =
        some held ∧ held.Same (.ofBytes (List.replicate 65535 0))) ∧
    ∃ i, (apply b (.publish [] [])).1 = .ok (some (.result i)) ∧
      ∀ later, (run b (.publish [] [] :: later)).finish.commands[i.toNat]? =
        some (.publish [] []) := by
  have keeps := run_keeps_places (filling (2 ^ 16))
  have content := run_filling (Nat.le_refl (2 ^ 16))
  generalize run .empty (filling (2 ^ 16)) = b at keeps content
  have inputs : b.finish.inputs =
      (List.range (2 ^ 16)).map fun size => CallArg.ofBytes (List.replicate size 0) := by
    rw [content]
  have full : b.finish.inputs.length = 65536 := by
    rw [inputs]
    simp only [List.length_map, List.length_range]
  refine ⟨b, keeps, full, ?_, ?_, ?_⟩
  · have fresh : ∀ held ∈ b.finish.inputs, ¬held.Same (.ofBytes [1]) := by
      intro held member same
      rw [inputs] at member
      obtain ⟨size, -, rfl⟩ := List.mem_map.mp member
      have bytes : List.replicate size (0 : UInt8) = [1] := same
      have one : (1 : UInt8) ∈ List.replicate size 0 := by simp [bytes]
      exact absurd (List.eq_of_mem_replicate one) (by decide)
    obtain ⟨e, refused⟩ := (keeps.input_refused (.bytes [1]) _ rfl).mpr ⟨fresh, full⟩
    exact ⟨e, Prod.ext refused (keeps.unchanged _ _ e rfl refused)⟩
  · have last : CallArg.ofBytes (List.replicate 65535 0) ∈ b.finish.inputs := by
      rw [inputs]
      exact List.mem_map.mpr ⟨65535, List.mem_range.mpr (by omega), rfl⟩
    have accepted := (keeps.input_refused (.bytes (List.replicate 65535 0)) _ rfl).not.mpr
      fun ⟨absent, _⟩ => absent _ last (CallArg.same_iff.mpr rfl)
    cases given : (apply b (.bytes (List.replicate 65535 0))).1 with
    | error e => exact absurd ⟨e, given⟩ accepted
    | ok result =>
      obtain ⟨i, rfl, kept⟩ := keeps.input_kept _ _ result rfl given
      exact ⟨i, rfl, kept⟩
  · have none_yet : b.finish.commands.length = 0 := by rw [content]; rfl
    obtain ⟨-, next, -, added⟩ | ⟨occupied, -⟩ := appendCommand_cases (.publish [] []) b
    · have given : (apply b (.publish [] [])).1 = .ok (some (.result 0)) := by
        rw [apply_of_command? rfl, added, none_yet]
        rfl
      obtain ⟨i, same, kept⟩ := keeps.command_kept _ _ _ rfl given
      exact ⟨i, given.trans (congrArg _ same), kept⟩
    · omega

end BuildStep

end MoveWire
