import MoveWire.Proofs.Transaction.Builder.Correctness

/-!
What operations that fail have built until then. Main statement: the commands that a failed
operation adds are the first of the instructions that it was asked for; it stops at one of them, or
at an input for one of them.
-/

namespace MoveWire

namespace Building

variable {α β γ : Type}

/-- What is known of an action that fails: of the number of commands before it, of all inputs that
continue those after it, and of the commands that it has added, as they are on these inputs. -/
def Leaves (m : Building α) (spec : Nat → List CallArg → List Instruction → Prop) : Prop :=
  ∀ b e next, m b = .error e next →
    b.finish.inputs <+: next.finish.inputs ∧
    ∃ added, next.finish.commands = b.finish.commands ++ added ∧
      ∀ inputs, next.finish.inputs <+: inputs →
        spec b.finish.commands.length inputs (added.map (Command.instruction inputs))

/-- No command is added when the action fails. -/
def LeavesNone (m : Building α) : Prop := m.Leaves fun _ _ made => made = []

namespace Leaves

variable {m : Building α} {left weaker : Nat → List CallArg → List Instruction → Prop}

theorem mono (h : m.Leaves left)
    (le : ∀ count inputs made, left count inputs made → weaker count inputs made) :
    m.Leaves weaker := by
  intro b e next run
  obtain ⟨continued, added, commands, holds⟩ := h b e next run
  exact ⟨continued, added, commands, fun inputs longer => le _ _ _ (holds inputs longer)⟩

/-- Either the first action fails, or the second one does behind what the first has made. -/
theorem bind {k : α → Building β} {spec : Nat → List CallArg → α → List Instruction → Prop}
    {after : α → Nat → List CallArg → List Instruction → Prop} (made : m.Makes spec)
    (first : m.Leaves left) (second : ∀ a, (k a).Leaves (after a)) :
    (m >>= k).Leaves fun count inputs made => left count inputs made ∨ ∃ a front back,
      made = front ++ back ∧ spec count inputs a front ∧
        after a (count + front.length) inputs back := by
  intro b e last run
  cases begun : m b with
  | error cause middle =>
    rw [Stateful.bind_error begun] at run
    cases run
    obtain ⟨continued, added, commands, holds⟩ := first b e last begun
    exact ⟨continued, added, commands, fun inputs longer => .inl (holds inputs longer)⟩
  | ok a middle =>
    rw [Stateful.bind_ok begun] at run
    obtain ⟨continued, front, commands, holds⟩ := made b a middle begun
    obtain ⟨continued', back, commands', holds'⟩ := second a middle e last run
    refine ⟨continued.trans continued', front ++ back, ?_, fun inputs longer => .inr ?_⟩
    · rw [commands', commands, List.append_assoc]
    · refine ⟨a, _, _, List.map_append, holds inputs (continued'.trans longer), ?_⟩
      have later := holds' inputs longer
      rw [commands, List.length_append] at later
      rwa [List.length_map]

theorem map (h : m.Leaves left) (f : α → β) : (f <$> m).Leaves left := by
  intro b e next run
  cases begun : m b with
  | ok a middle =>
    rw [map_eq_pure_bind, Stateful.bind_ok begun] at run
    cases run
  | error cause middle =>
    rw [Stateful.map_error begun] at run
    cases run
    exact h b e next begun

end Leaves

namespace LeavesNone

theorem of_unchanged {m : Building α} (h : ∀ b e next, m b = .error e next → next = b) :
    m.LeavesNone := by
  intro b e next run
  obtain rfl := h b e next run
  exact ⟨List.prefix_rfl, [], (List.append_nil _).symm, fun _ _ => rfl⟩

theorem pure (a : α) : (pure a : Building α).LeavesNone := by
  refine .of_unchanged fun b e next run => ?_
  cases run

theorem throw (e : WireError) : (throw e : Building α).LeavesNone := by
  refine .of_unchanged fun b e next run => ?_
  cases run
  rfl

theorem lift (result : Fallible α) : (Building.lift result).LeavesNone := by
  cases result with
  | ok a => exact .pure a
  | error e => exact .throw e

theorem map {m : Building α} (h : m.LeavesNone) (f : α → β) : (f <$> m).LeavesNone :=
  Leaves.map h f

/-- No commands at all are the first of whatever was asked for. -/
theorem leaves {m : Building α} (h : m.LeavesNone)
    (asked : Nat → List CallArg → List Instruction) :
    m.Leaves fun count inputs made => made <+: asked count inputs := by
  apply h.mono
  rintro count inputs _ rfl
  exact List.nil_prefix

/-- An action that only adds inputs, in front of another one. -/
theorem bind {m : Building α} {k : α → Building β}
    {stands : Nat → List CallArg → α → List Instruction → Prop} (made : m.Makes stands)
    (none : ∀ {count inputs a l}, stands count inputs a l → l = []) (first : m.LeavesNone)
    (second : ∀ a, (k a).LeavesNone) : (m >>= k).LeavesNone := by
  apply (Leaves.bind made first second).mono
  rintro count inputs made (rfl | ⟨a, front, back, rfl, given, rfl⟩)
  · rfl
  · rw [none given, List.append_nil]

theorem mapM {f : γ → Building Argument} {g : γ → Operand}
    (made : ∀ c, (f c).Makes fun _ inputs place made => place.operand inputs = g c ∧ made = [])
    (each : ∀ c, (f c).LeavesNone) (cs : List γ) : (cs.mapM f).LeavesNone := by
  induction cs with
  | nil => exact .pure []
  | cons c cs ih =>
    rw [List.mapM_cons]
    refine .bind (made c) And.right (each c) fun place => ?_
    exact .bind (Makes.mapM made cs) And.right ih fun places => .pure _

end LeavesNone

/-- One instruction for each thing of a list: those before the one that fails. -/
theorem Leaves.forM {f : γ → Building PUnit} {g : List CallArg → γ → Instruction}
    (made : ∀ c, (f c).Makes fun _ inputs _ made => made = [g inputs c])
    (each : ∀ c, (f c).LeavesNone) (cs : List γ) :
    (cs.forM f).Leaves fun _ inputs made => made <+: cs.map (g inputs) := by
  induction cs with
  | nil => exact (LeavesNone.pure _).leaves fun _ inputs => [].map (g inputs)
  | cons c cs ih =>
    rw [List.forM_eq_forM, List.forM_cons]
    apply (Leaves.bind (made c) (each c) fun _ => ih).mono
    rintro count inputs _ (rfl | ⟨_, _, back, rfl, rfl, part⟩)
    · exact List.nil_prefix
    · exact (List.prefix_append_right_inj [g inputs c]).mpr part

theorem addInput_leavesNone (arg : CallArg) : (addInput arg).LeavesNone := by
  refine .of_unchanged fun b e next run => ?_
  obtain ⟨i, held, -, -, -, added⟩ | ⟨-, -, later, -, added⟩ | ⟨-, index, -, added⟩ :=
    addInput_cases arg b
  all_goals
    rw [added] at run
    cases run
  rfl

theorem appendCommand_leavesNone (c : Command) : (appendCommand c).LeavesNone := by
  refine .of_unchanged fun b e next run => ?_
  obtain ⟨-, later, -, added⟩ | ⟨-, added⟩ := appendCommand_cases c b
  all_goals
    rw [added] at run
    cases run
  rfl

theorem addCommand_leavesNone (c : Command) : (addCommand c).LeavesNone :=
  (appendCommand_leavesNone c).map _

theorem addEncoded_leavesNone (form : Fallible Bytes) : (addEncoded form).LeavesNone := by
  refine .bind (Makes.lift form) And.right (.lift form) fun content => addInput_leavesNone _

theorem addPure_leavesNone (c : Codec α) (a : α) : (addPure c a).LeavesNone :=
  addEncoded_leavesNone _

theorem addOwned_leavesNone (ref : ObjectRef) : (addOwned ref).LeavesNone := addInput_leavesNone _

theorem transferArgs_leavesNone (recipient : Address) (objects : List Argument) :
    (transferArgs recipient objects).LeavesNone :=
  .bind (addAccount_makes recipient) And.right (addPure_leavesNone _ _) fun _ =>
    (addCommand_leavesNone _).map _

theorem transferArg_leavesNone (recipient : Address) (arg : Argument) :
    (transferArg recipient arg).LeavesNone := transferArgs_leavesNone recipient [arg]

theorem transferObjects_leavesNone (recipient : Address) (objects : List ObjectRef) :
    (transferObjects recipient objects).LeavesNone := by
  refine .bind (addAccount_makes recipient) And.right (addPure_leavesNone _ _) fun place => ?_
  refine .bind (Makes.mapM addOwned_makes objects) And.right ?_ fun places => ?_
  · exact .mapM addOwned_makes addOwned_leavesNone objects
  · exact (addCommand_leavesNone _).map _

/-- If the second command is refused, the new coin stays. -/
theorem transferSui_leaves (recipient : Address) (amount : Option UInt64) :
    (transferSui recipient amount).Leaves fun count inputs made =>
      made <+: (BuildStep.transferSui recipient amount).instructions inputs count := by
  cases amount with
  | none => exact (transferArgs_leavesNone recipient [.gasCoin]).leaves _
  | some amount =>
    apply (Leaves.bind (addAccount_makes recipient) (addPure_leavesNone _ _) fun place =>
      Leaves.bind (addAmount_makes amount) (addPure_leavesNone _ _) fun part =>
        Leaves.bind (addCommand_makes (.splitCoins .gasCoin [part])) (addCommand_leavesNone _)
          fun coin => (addCommand_leavesNone (.transferObjects [coin] place)).map _).mono
    rintro count inputs _ (rfl | ⟨place, _, _, rfl, ⟨-, rfl⟩, rfl | ⟨part, _, _, rfl, ⟨value, rfl⟩,
      rfl | ⟨coin, _, _, rfl, ⟨-, rfl⟩, rfl⟩⟩⟩)
    · exact List.nil_prefix
    · exact List.nil_prefix
    · exact List.nil_prefix
    · simp [Command.instruction, value, BuildStep.instructions]

/-- The coins of a split go to the accounts in their order, up to the one that gets none. -/
theorem payEach_leaves (split : UInt16) (recipients : List Address) :
    (recipients.zipIdx.forM fun (recipient, i) => do
      transferArg recipient (.nestedResult split (← lift (slot "split result" i)))).Leaves
      fun _ _ made => made <+: recipients.zipIdx.map (BuildStep.payment split.toNat) := by
  apply Leaves.forM (g := fun _ => BuildStep.payment split.toNat) (payOne_makes split)
  rintro ⟨recipient, i⟩
  exact .bind (Makes.lift _) And.right (.lift _) fun part => transferArg_leavesNone _ _

theorem paySui_leaves (recipients : List Address) (amounts : List UInt64) :
    (paySui recipients amounts).Leaves fun count inputs made =>
      made <+: (BuildStep.paySui recipients amounts).instructions inputs count := by
  rw [paySui]
  by_cases counts : recipients.length ≠ amounts.length
  · rw [if_pos counts]
    exact (LeavesNone.throw _).leaves _
  · rw [if_neg counts]
    cases recipients with
    | nil => exact (LeavesNone.pure ()).leaves _
    | cons first rest =>
      have places := LeavesNone.mapM addAmount_makes (addPure_leavesNone Codec.u64) amounts
      apply (Leaves.bind (Makes.mapM addAmount_makes amounts) places fun places =>
        Leaves.bind (appendCommand_makes (.splitCoins .gasCoin places)) (appendCommand_leavesNone _)
          fun split => payEach_leaves split (first :: rest)).mono
      rintro count inputs _ (rfl | ⟨places, _, _, rfl, ⟨values, rfl⟩, rfl | ⟨split, _, back, rfl,
        ⟨place, rfl⟩, paid⟩⟩)
      · exact List.nil_prefix
      · exact List.nil_prefix
      · rw [place] at paid
        simpa [Command.instruction, values, BuildStep.instructions] using paid

theorem moveCallOn_leavesNone (package : ObjectId) (moduleName function : String)
    (typeArguments : List TypeTag) (args : List CallArg) :
    (moveCallOn package moduleName function typeArguments args).LeavesNone :=
  .bind (Makes.mapM addInput_makes args) And.right (.mapM addInput_makes addInput_leavesNone args)
    fun _ => addCommand_leavesNone _

theorem splitCoins_leavesNone (coin : Argument) (amounts : List UInt64) :
    (splitCoins coin amounts).LeavesNone :=
  .bind (Makes.mapM addAmount_makes amounts) And.right
    (.mapM addAmount_makes (addPure_leavesNone Codec.u64) amounts) fun _ => addCommand_leavesNone _

theorem mergeCoins_leavesNone (target : ObjectRef) (coins : List ObjectRef) :
    (mergeCoins target coins).LeavesNone := by
  refine .bind (addOwned_makes target) And.right (addOwned_leavesNone _) fun place => ?_
  refine .bind (Makes.mapM addOwned_makes coins) And.right ?_ fun places => ?_
  · exact .mapM addOwned_makes addOwned_leavesNone coins
  · exact (addCommand_leavesNone _).map _

theorem smashCoins_leavesNone (coins : List ObjectRef) : (smashCoins coins).LeavesNone := by
  cases coins with
  | nil => exact .throw _
  | cons first rest =>
    refine .bind (addOwned_makes first) And.right (addOwned_leavesNone _) fun place => ?_
    refine .bind (Makes.mapM addOwned_makes rest) And.right ?_ fun places => ?_
    · exact .mapM addOwned_makes addOwned_leavesNone rest
    · rw [← map_eq_pure_bind]
      exact ((addCommand_leavesNone _).map _).map _

theorem publishImmutableTo_leaves (recipient : Address) (modules : List Bytes)
    (dependencies : List ObjectId) :
    (publishImmutableTo recipient modules dependencies).Leaves fun count inputs made =>
      made <+: (BuildStep.publishImmutableTo recipient modules dependencies).instructions inputs
        count := by
  apply (Leaves.bind (addCommand_makes (.publish modules dependencies)) (addCommand_leavesNone _)
    fun cap => transferArg_leavesNone recipient cap).mono
  rintro count inputs _ (rfl | ⟨cap, _, _, rfl, ⟨-, rfl⟩, rfl⟩)
  · exact List.nil_prefix
  · simp [Command.instruction, BuildStep.instructions]

theorem makeMoveVec_leavesNone (item : Option TypeTag) (items : List Argument) :
    (makeMoveVec item items).LeavesNone := by
  rw [makeMoveVec]
  split
  · exact .throw _
  · exact addCommand_leavesNone _

theorem authorizeUpgrade_leavesNone (cap : ObjectArg) (policy : UInt8) (digest : Bytes) :
    (authorizeUpgrade cap policy digest).LeavesNone := by
  refine .bind (addInput_makes (.object cap)) And.right (addInput_leavesNone _) fun cap => ?_
  refine .bind (addEncoded_makes _) And.right (addPure_leavesNone Codec.u8 policy) fun policy => ?_
  refine .bind (addEncoded_makes _) And.right (addPure_leavesNone Codec.bytes digest) fun _ => ?_
  exact addCommand_leavesNone _

end Building

namespace BuildStep

open Building

/-- One case for each operation. Only an operation with several commands can leave some of them. -/
theorem action_leaves (step : BuildStep) :
    step.action.Leaves fun count inputs made => made <+: step.instructions inputs count := by
  have none {m : Building (Option Argument)} (h : m.LeavesNone) : m.Leaves fun count inputs made =>
      made <+: step.instructions inputs count :=
    h.leaves fun count inputs => step.instructions inputs count
  have silent {m : Building Unit} {left : Nat → List CallArg → List Instruction → Prop}
      (h : m.Leaves left) : (silently m).Leaves left := by
    rw [silently, ← map_eq_pure_bind]
    exact h.map _
  cases step with
  | input arg => exact none ((addInput_leavesNone _).map _)
  | bytes content => exact none ((addInput_leavesNone _).map _)
  | encoded form => exact none ((addEncoded_leavesNone form).map _)
  | typed type value =>
    exact none (.map (.bind (Makes.lift _) And.right (.lift _) fun _ => addInput_leavesNone _) _)
  | object arg => exact none ((addInput_leavesNone _).map _)
  | command c => exact none ((addCommand_leavesNone _).map _)
  | moveCall call => exact none ((addCommand_leavesNone _).map _)
  | moveCallOn package moduleName function typeArguments inputs =>
    exact none ((moveCallOn_leavesNone _ _ _ _ _).map _)
  | transferArg recipient arg => exact none (silent (transferArg_leavesNone _ _))
  | transferArgs recipient objects => exact none (silent (transferArgs_leavesNone _ _))
  | transferObjects recipient objects => exact none (silent (transferObjects_leavesNone _ _))
  | transferSui recipient amount => exact silent (transferSui_leaves _ _)
  | paySui recipients amounts => exact silent (paySui_leaves _ _)
  | splitCoins coin amounts => exact none ((splitCoins_leavesNone _ _).map _)
  | mergeCoins target coins => exact none (silent (mergeCoins_leavesNone _ _))
  | smashCoins coins => exact none ((smashCoins_leavesNone _).map _)
  | publish modules dependencies => exact none ((addCommand_leavesNone _).map _)
  | publishImmutableTo recipient modules dependencies =>
    exact silent (publishImmutableTo_leaves _ _ _)
  | upgrade package ticket dependencies modules => exact none ((addCommand_leavesNone _).map _)
  | makeMoveVec item items => exact none ((makeMoveVec_leavesNone _ _).map _)
  | authorizeUpgrade cap policy digest => exact none ((authorizeUpgrade_leavesNone _ _ _).map _)

end BuildStep

end MoveWire
