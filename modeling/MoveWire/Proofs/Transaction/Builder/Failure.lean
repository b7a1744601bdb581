import MoveWire.Proofs.Transaction.Builder.Interrupted

/-!
What a failed operation leaves behind. Nothing is taken back: the parts of the operation in front
of the one that was refused stay where they are, and the commands among them are the first of those
that it was asked for. So the builder is as before only if these parts were inputs that had a place
already, which holds of every operation with a single part.
-/

namespace MoveWire

namespace Builder

/-- Why a part is refused in a builder whose lists are within the reach of an index. -/
def Full (b : Builder) (e : WireError) : Part → Prop
  | .input arg => b.finish.inputs.length = 65536 ∧ (∀ held ∈ b.finish.inputs, ¬held.Same arg) ∧
      e = .range (.slot "input" 65536)
  | .command _ => b.finish.commands.length = 65536 ∧ e = .range (.slot "command" 65536)
  | .refuse cause => e = cause

variable {b left : Builder} {e : WireError}

theorem Refuses.full {part : Part} (h : b.Refuses e part)
    (inputs_le : b.finish.inputs.length ≤ 65536) (commands_le : b.finish.commands.length ≤ 65536) :
    b.Full e part := by
  cases part with
  | input arg =>
    obtain ⟨full, cause⟩ := h
    exact ⟨Nat.le_antisymm inputs_le full, cause inputs_le⟩
  | command form =>
    obtain ⟨full, rfl⟩ := h
    have reached := Nat.le_antisymm commands_le full
    exact ⟨reached, by rw [reached]⟩
  | refuse cause => exact h

/-- The part is an input that has a place already. -/
def Holds (b : Builder) (part : Part) : Prop :=
  ∃ arg, part = .input arg ∧ ∃ held ∈ b.finish.inputs, held.Same arg

/-- Parts change nothing only if each of them is there already. -/
theorem Gains.finish_eq_iff {done : List Part} (h : b.Gains done left) :
    left.finish = b.finish ↔ ∀ part ∈ done, b.Holds part := by
  induction h with
  | nothing b => exact iff_of_true rfl fun _ member => nomatch member
  | held there same rest ih =>
    rw [ih, List.forall_mem_cons]
    exact (and_iff_right ⟨_, rfl, _, there, same⟩).symm
  | @input b middle next arg ps fresh room added rest ih =>
    refine iff_of_false (fun same => ?_) fun holds => ?_
    · have longer := rest.grown.inputs.length_le
      simp only [added, same, List.length_append, List.length_singleton] at longer
      omega
    · obtain ⟨other, eq, held, there, same⟩ := holds _ List.mem_cons_self
      cases eq
      exact fresh held there same
  | @command b middle next form c ps formed room added rest ih =>
    refine iff_of_false (fun same => ?_) fun holds => ?_
    · have longer := rest.grown.commands.length_le
      simp only [added, same, List.length_append, List.length_singleton] at longer
      omega
    · obtain ⟨other, eq, -⟩ := holds _ List.mem_cons_self
      cases eq

end Builder

namespace BuildStep

open Builder Building

theorem action_of_failed {b : Builder} {step : BuildStep} {e : WireError}
    (failed : (apply b step).1 = .error e) : step.action b = .error e (apply b step).2 := by
  unfold apply at failed ⊢
  cases run : step.action b with
  | ok result next =>
    rw [run] at failed
    cases failed
  | error cause next =>
    rw [run] at failed
    cases failed
    rfl

/-- What a failed operation leaves: the parts in front of the one that was refused, behind all that
was there. The commands among them are the first of the instructions that it was asked for, on these
inputs and on those that later operations add. -/
structure LeavesPartsDone (b : Builder) (step : BuildStep) (e : WireError) (left : Builder) :
    Prop where
  inputs : b.finish.inputs <+: left.finish.inputs
  commands : b.finish.commands <+: left.finish.commands
  asked : ∃ added, left.finish.commands = b.finish.commands ++ added ∧ ∀ later,
    added.map (Command.instruction (run left later).finish.inputs) <+:
      step.instructions (run left later).finish.inputs b.finish.commands.length
  exactly : ∃ done refused rest, step.parts = done ++ refused :: rest ∧ b.Gains done left ∧
    left.Full e refused ∧ (left.finish = b.finish ↔ ∀ part ∈ done, b.Holds part)
  unchanged : step.parts.length = 1 → left.finish = b.finish

/-- A failed operation keeps what it has added until then; if it has a single part, that is
nothing. -/
theorem failure_leaves_parts_done (steps : List BuildStep) (step : BuildStep) {e : WireError}
    (failed : (apply (run .empty steps) step).1 = .error e) :
    LeavesPartsDone (run .empty steps) step e (apply (run .empty steps) step).2 := by
  have start := run_grown .empty steps
  generalize run .empty steps = b at failed start
  have grown := apply_grown b step
  obtain ⟨-, added, commands, asked⟩ := action_leaves step b e _ (action_of_failed failed)
  have played := (action_meets step).plays b
  rw [action_of_failed failed] at played
  obtain ⟨done, refused, rest, parts, gained, no⟩ := played
  have whole := start.trans grown
  refine ⟨grown.inputs, grown.commands, ⟨added, commands, fun later => ?_⟩,
    ⟨done, refused, rest, parts, gained, ?_, ?_⟩, ?_⟩
  · exact asked _ (run_grown _ later).inputs
  · exact no.full (whole.inputs_le (Nat.zero_le _)) (whole.commands_le (Nat.zero_le _))
  · exact gained.finish_eq_iff
  · intro single
    rw [parts, List.length_append, List.length_cons] at single
    obtain rfl : done = [] := List.eq_nil_of_length_eq_zero (by omega)
    exact gained.finish_eq_iff.mpr fun _ member => nomatch member

theorem run_nil (b : Builder) : run b [] = b := rfl

theorem run_cons (b : Builder) (step : BuildStep) (rest : List BuildStep) :
    run b (step :: rest) = run (apply b step).2 rest := rfl

theorem run_commands {cs : List Command} {b : Builder}
    (room : (b.finish.commands ++ cs).length ≤ 2 ^ 16) : (run b (cs.map .command)).finish =
      { b.finish with commands := b.finish.commands ++ cs } := by
  induction cs generalizing b with
  | nil => simp [run]
  | cons c rest ih =>
    have split : b.finish.commands ++ c :: rest = b.finish.commands ++ [c] ++ rest := by simp
    change (run (apply b (.command c)).2 (rest.map .command)).finish = _
    rw [apply_of_command? rfl]
    obtain ⟨-, next, content, added⟩ | ⟨full, -⟩ := appendCommand_cases c b
    · have commands : next.finish.commands = b.finish.commands ++ [c] := by rw [content]
      rw [split, ← commands] at room
      rw [added, ih room, content, split]
    · simp only [List.length_append, List.length_cons] at room
      omega

/-- Operations that take so many places for commands. -/
def publishing (n : Nat) : List BuildStep :=
  (List.replicate n (Command.publish [] [])).map .command

theorem run_publishing {n : Nat} {b : Builder} (none_yet : b.finish.commands = [])
    (h : n ≤ 65536) : (run b (publishing n)).finish =
      ⟨b.finish.inputs, List.replicate n (.publish [] [])⟩ := by
  rw [publishing, run_commands (by simpa [none_yet] using h), none_yet, List.nil_append]

/-- A transfer whose account gets a place and whose command does not. -/
theorem apply_transferArg {b next : Builder} {recipient : Address} {object place : Argument}
    (added : addInput (.ofBytes recipient.bytes) b = .ok place next)
    (full : next.finish.commands.length = 65536) :
    apply b (.transferArg recipient object) = (.error (.range (.slot "command" 65536)), next) := by
  obtain ⟨room, -⟩ | ⟨-, refused⟩ :=
    appendCommand_cases (.transferObjects [object] place) next
  · omega
  · rw [full] at refused
    have transfer : Building.transferArg recipient object b =
        .error (.range (.slot "command" 65536)) next :=
      (Stateful.bind_ok added _).trans (Stateful.map_error (Stateful.map_error refused _) _)
    rw [apply, action, silently, Stateful.bind_error transfer]

theorem apply_transferArg_of_new {b : Builder} {recipient : Address} {object : Argument}
    (none_yet : b.finish.inputs = []) (full : b.finish.commands.length = 65536) :
    ∃ left, apply b (.transferArg recipient object) =
        (.error (.range (.slot "command" 65536)), left) ∧
      left.finish.inputs = [.ofBytes recipient.bytes] := by
  obtain ⟨i, held, -, there, -⟩ | ⟨-, -, next, taken, added⟩ | ⟨occupied, -⟩ :=
    addInput_cases (.ofBytes recipient.bytes) b
  · rw [none_yet] at there
    cases there
  · exact ⟨next, apply_transferArg added (by rw [taken, full]), by rw [taken, none_yet]; rfl⟩
  · rw [none_yet] at occupied
    cases occupied

theorem apply_transferArg_of_known {b : Builder} {recipient : Address} {object : Argument}
    (known : b.finish.inputs = [.ofBytes recipient.bytes])
    (full : b.finish.commands.length = 65536) :
    apply b (.transferArg recipient object) = (.error (.range (.slot "command" 65536)), b) := by
  obtain ⟨i, held, -, -, -, added⟩ | ⟨fresh, -⟩ | ⟨occupied, -⟩ :=
    addInput_cases (.ofBytes recipient.bytes) b
  · exact apply_transferArg added full
  · rw [known] at fresh
    exact absurd (CallArg.same_iff.mpr rfl) (fresh _ List.mem_cons_self)
  · rw [known, List.length_singleton] at occupied
    omega

/-- In a builder without a free place for commands a transfer fails, and the account that it was
for has become an input. -/
theorem failed_transfer_leaves_account : ∃ left : Builder,
    apply (run .empty (publishing 65536)) (.transferArg .framework .gasCoin) =
      (.error (.range (.slot "command" 65536)), left) ∧
    (run .empty (publishing 65536)).finish.inputs = [] ∧
    left.finish.inputs = [.ofBytes Address.framework.bytes] ∧
    left.finish ≠ (run .empty (publishing 65536)).finish := by
  have content := run_publishing (n := 65536) (b := .empty) rfl (Nat.le_refl _)
  generalize run .empty (publishing 65536) = b at content ⊢
  have none_yet : b.finish.inputs = [] := by rw [content]; rfl
  have full : b.finish.commands.length = 65536 := by rw [content, List.length_replicate]
  obtain ⟨left, failed, account⟩ := apply_transferArg_of_new none_yet full
  refine ⟨left, failed, none_yet, account, fun same => ?_⟩
  rw [same, none_yet] at account
  cases account

/-- The same transfer leaves nothing where the account has a place already. -/
theorem failed_transfer_to_known_account : ∃ b : Builder,
    b = run .empty (.input (.ofBytes Address.framework.bytes) :: publishing 65536) ∧
    (apply b (.transferArg .framework .gasCoin)).1 = .error (.range (.slot "command" 65536)) ∧
    LeavesPartsDone b (.transferArg .framework .gasCoin) (.range (.slot "command" 65536))
      (apply b (.transferArg .framework .gasCoin)).2 ∧
    (apply b (.transferArg .framework .gasCoin)).2.finish = b.finish := by
  have account : (run .empty ([.ofBytes Address.framework.bytes].map .input)).finish =
      ⟨[.ofBytes Address.framework.bytes], []⟩ :=
    run_inputs (List.pairwise_singleton _ _) (by decide)
  rw [List.map_singleton, run_cons, run_nil] at account
  have content := run_publishing (n := 65536) (by rw [account]) (Nat.le_refl _)
  rw [← run_cons, account] at content
  have leaves := failure_leaves_parts_done
    (.input (.ofBytes Address.framework.bytes) :: publishing 65536)
    (.transferArg .framework .gasCoin) (e := .range (.slot "command" 65536))
  generalize run .empty (.input (.ofBytes Address.framework.bytes) :: publishing 65536) = b
    at content leaves ⊢
  have known : b.finish.inputs = [.ofBytes Address.framework.bytes] := by rw [content]
  have full : b.finish.commands.length = 65536 := by rw [content, List.length_replicate]
  have failed : apply b (.transferArg .framework .gasCoin) = (.error _, b) :=
    apply_transferArg_of_known known full
  exact ⟨b, rfl, congrArg Prod.fst failed, leaves (congrArg Prod.fst failed),
    congrArg (·.2.finish) failed⟩

end BuildStep

end MoveWire
