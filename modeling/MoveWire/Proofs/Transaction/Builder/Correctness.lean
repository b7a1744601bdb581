import MoveWire.Proofs.Transaction.Builder
import MoveWire.Proofs.Transaction.Builder.Instructions

/-!
What operations on a builder build. Main statement: the commands that a successful operation adds
are the instructions that it was asked for, whatever inputs were there before and whichever of the
given values are equal; and they stay that after all later operations.
-/

namespace MoveWire

namespace BuildStep

/-- The coin of a number goes to the account of that number. -/
def payment (split : Nat) (paid : Address × Nat) : Instruction :=
  .transferObjects [.nestedResult split paid.2] (.account paid.1)

/-- The instructions that an operation asks for, behind so many commands. Arguments that it is given
refer to the inputs. -/
def instructions (inputs : List CallArg) (count : Nat) : BuildStep → List Instruction
  | .input _ | .bytes _ | .encoded _ | .typed .. | .object _ => []
  | .command c => [c.instruction inputs]
  | .moveCall call => [(Command.moveCall call).instruction inputs]
  | .moveCallOn package moduleName function typeArguments args =>
    [.moveCall package moduleName function typeArguments (args.map .ofInput)]
  | .transferArg recipient arg =>
    [.transferObjects [arg.operand inputs] (.account recipient)]
  | .transferArgs recipient objects =>
    [.transferObjects (objects.map (·.operand inputs)) (.account recipient)]
  | .transferObjects recipient objects =>
    [.transferObjects (objects.map .owned) (.account recipient)]
  | .transferSui recipient none => [.transferObjects [.gasCoin] (.account recipient)]
  | .transferSui recipient (some amount) =>
    [.splitCoins .gasCoin [.amount amount],
      .transferObjects [.result count] (.account recipient)]
  | .paySui [] _ => []
  | .paySui recipients amounts =>
    .splitCoins .gasCoin (amounts.map .amount) :: recipients.zipIdx.map (payment count)
  | .splitCoins coin amounts => [.splitCoins (coin.operand inputs) (amounts.map .amount)]
  | .mergeCoins target coins => [.mergeCoins (.owned target) (coins.map .owned)]
  | .smashCoins [] => []
  | .smashCoins (first :: rest) => [.mergeCoins (.owned first) (rest.map .owned)]
  | .publish modules dependencies => [.publish modules dependencies]
  | .publishImmutableTo recipient modules dependencies =>
    [.publish modules dependencies, .transferObjects [.result count] (.account recipient)]
  | .upgrade package ticket dependencies modules =>
    [.upgrade modules dependencies package (ticket.operand inputs)]
  | .makeMoveVec item items => [.makeMoveVec item (items.map (·.operand inputs))]
  | .authorizeUpgrade cap policy digest =>
    [.moveCall .framework "package" "authorize_upgrade" [] [.ofInput (.object cap),
      .bytes [policy], .bytes (Writer.uleb128 (.ofNat digest.length) ++ digest)]]

end BuildStep

namespace Building

open BuildStep

theorem addOwned_makes (ref : ObjectRef) : (addOwned ref).Makes fun _ inputs place made =>
    place.operand inputs = .owned ref ∧ made = [] := addInput_makes _

theorem addAccount_makes (a : Address) :
    (addPure Address.codec a).Makes fun _ inputs place made =>
      place.operand inputs = .account a ∧ made = [] := addPure_makes rfl

theorem addAmount_makes (n : UInt64) : (addPure Codec.u64 n).Makes fun _ inputs place made =>
    place.operand inputs = .amount n ∧ made = [] := addPure_makes rfl

theorem moveCallOn_makes (package : ObjectId) (moduleName function : String)
    (typeArguments : List TypeTag) (args : List CallArg) :
    (moveCallOn package moduleName function typeArguments args).Makes fun count inputs _ made =>
      made = (BuildStep.moveCallOn package moduleName function typeArguments args).instructions
        inputs count := by
  apply ((Makes.mapM addInput_makes args).bind fun places => addCommand_makes _).mono
  rintro count inputs place made ⟨places, _, _, rfl, ⟨stand, rfl⟩, -, rfl⟩
  simp only [Command.instruction, stand, instructions, List.nil_append]

theorem transferArgs_makes (recipient : Address) (objects : List Argument) :
    (transferArgs recipient objects).Makes fun count inputs _ made =>
      made = (BuildStep.transferArgs recipient objects).instructions inputs count := by
  apply ((addAccount_makes recipient).bind fun place =>
    (addCommand_makes (.transferObjects objects place)).map _).mono
  rintro count inputs _ made ⟨place, _, _, rfl, ⟨stands, rfl⟩, _, -, -, rfl⟩
  simp only [Command.instruction, stands, instructions, List.nil_append]

theorem transferArg_makes (recipient : Address) (arg : Argument) :
    (transferArg recipient arg).Makes fun count inputs _ made =>
      made = (BuildStep.transferArg recipient arg).instructions inputs count :=
  transferArgs_makes recipient [arg]

theorem transferObjects_makes (recipient : Address) (objects : List ObjectRef) :
    (transferObjects recipient objects).Makes fun count inputs _ made =>
      made = (BuildStep.transferObjects recipient objects).instructions inputs count := by
  apply ((addAccount_makes recipient).bind fun place =>
    (Makes.mapM addOwned_makes objects).bind fun places =>
      (addCommand_makes (.transferObjects places place)).map _).mono
  rintro count inputs _ made ⟨place, _, _, rfl, ⟨stands, rfl⟩, places, _, _, rfl, ⟨stand, rfl⟩,
    _, -, -, rfl⟩
  simp only [Command.instruction, stands, stand, instructions, List.nil_append]

theorem transferSui_makes (recipient : Address) (amount : Option UInt64) :
    (transferSui recipient amount).Makes fun count inputs _ made =>
      made = (BuildStep.transferSui recipient amount).instructions inputs count := by
  cases amount with
  | none => exact transferArgs_makes recipient [.gasCoin]
  | some amount =>
    apply ((addAccount_makes recipient).bind fun place => (addAmount_makes amount).bind fun part =>
      (addCommand_makes (.splitCoins .gasCoin [part])).bind fun coin =>
        (addCommand_makes (.transferObjects [coin] place)).map _).mono
    rintro count inputs _ made ⟨place, _, _, rfl, ⟨stands, rfl⟩, part, _, _, rfl, ⟨value, rfl⟩,
      coin, _, _, rfl, ⟨split, rfl⟩, _, -, -, rfl⟩
    simp [Command.instruction, stands, value, split, instructions]

theorem payOne_makes (split : UInt16) (paid : Address × Nat) :
    (do transferArg paid.1 (.nestedResult split (← lift (slot "split result" paid.2)))).Makes
      fun _ _ _ made => made = [payment split.toNat paid] := by
  apply ((Makes.lift (slot "split result" paid.2)).bind fun part =>
    transferArg_makes paid.1 (.nestedResult split part)).mono
  rintro count inputs _ made ⟨part, _, _, rfl, ⟨given, rfl⟩, rfl⟩
  simp [instructions, toNat_of_slot given, payment]

/-- The coins of a split go to the accounts in their order. -/
theorem payEach_makes (split : UInt16) (recipients : List Address) :
    (recipients.zipIdx.forM fun (recipient, i) => do
      transferArg recipient (.nestedResult split (← lift (slot "split result" i)))).Makes
      fun _ _ _ made => made = recipients.zipIdx.map (payment split.toNat) :=
  Makes.forM (g := fun _ => payment split.toNat) (payOne_makes split) _

theorem paySui_makes (recipients : List Address) (amounts : List UInt64) :
    (paySui recipients amounts).Makes fun count inputs _ made =>
      made = (BuildStep.paySui recipients amounts).instructions inputs count := by
  rw [paySui]
  by_cases counts : recipients.length ≠ amounts.length
  · rw [if_pos counts]
    exact .throw _
  · rw [if_neg counts]
    cases recipients with
    | nil =>
      apply (Makes.pure ()).mono
      rintro count inputs _ made ⟨-, rfl⟩
      rfl
    | cons first rest =>
      apply ((Makes.mapM addAmount_makes amounts).bind fun places =>
        (appendCommand_makes (.splitCoins .gasCoin places)).bind fun split =>
          payEach_makes split (first :: rest)).mono
      rintro count inputs _ made ⟨places, _, _, rfl, ⟨values, rfl⟩, split, _, _, rfl, ⟨place, rfl⟩,
        rfl⟩
      simp [Command.instruction, values, place, instructions]

theorem splitCoins_makes (coin : Argument) (amounts : List UInt64) :
    (splitCoins coin amounts).Makes fun count inputs _ made =>
      made = (BuildStep.splitCoins coin amounts).instructions inputs count := by
  apply ((Makes.mapM addAmount_makes amounts).bind fun places =>
    addCommand_makes (.splitCoins coin places)).mono
  rintro count inputs place made ⟨places, _, _, rfl, ⟨values, rfl⟩, -, rfl⟩
  simp [Command.instruction, values, instructions]

theorem mergeCoins_makes (target : ObjectRef) (coins : List ObjectRef) :
    (mergeCoins target coins).Makes fun count inputs _ made =>
      made = (BuildStep.mergeCoins target coins).instructions inputs count := by
  apply ((addOwned_makes target).bind fun place => (Makes.mapM addOwned_makes coins).bind
    fun places => (addCommand_makes (.mergeCoins place places)).map _).mono
  rintro count inputs _ made ⟨place, _, _, rfl, ⟨stands, rfl⟩, places, _, _, rfl, ⟨stand, rfl⟩,
    _, -, -, rfl⟩
  simp [Command.instruction, stands, stand, instructions]

theorem smashCoins_makes (coins : List ObjectRef) :
    (smashCoins coins).Makes fun count inputs _ made =>
      made = (BuildStep.smashCoins coins).instructions inputs count := by
  cases coins with
  | nil => exact .throw _
  | cons first rest =>
    apply ((addOwned_makes first).bind fun place => (Makes.mapM addOwned_makes rest).bind
      fun places => ((addCommand_makes (.mergeCoins place places)).map _).bind fun _ =>
        .pure place).mono
    rintro count inputs _ made ⟨place, _, _, rfl, ⟨stands, rfl⟩, places, _, _, rfl, ⟨stand, rfl⟩,
      _, _, _, rfl, ⟨_, -, -, rfl⟩, -, rfl⟩
    simp [Command.instruction, stands, stand, instructions]

theorem publishImmutableTo_makes (recipient : Address) (modules : List Bytes)
    (dependencies : List ObjectId) :
    (publishImmutableTo recipient modules dependencies).Makes fun count inputs _ made =>
      made = (BuildStep.publishImmutableTo recipient modules dependencies).instructions inputs
        count := by
  apply ((addCommand_makes (.publish modules dependencies)).bind fun cap =>
    transferArg_makes recipient cap).mono
  rintro count inputs _ made ⟨cap, _, _, rfl, ⟨stands, rfl⟩, rfl⟩
  simp [Command.instruction, stands, instructions]

theorem makeMoveVec_makes (item : Option TypeTag) (items : List Argument) :
    (makeMoveVec item items).Makes fun count inputs _ made =>
      made = (BuildStep.makeMoveVec item items).instructions inputs count := by
  rw [makeMoveVec]
  by_cases untyped : item.isNone && items.isEmpty
  · rw [if_pos untyped]
    exact .throw _
  · rw [if_neg untyped]
    apply (addCommand_makes (.makeMoveVec item items)).mono
    rintro count inputs place made ⟨-, one⟩
    exact one

/-- The byte form of bytes begins with their number. -/
theorem eq_of_encode_bytes {content form : Bytes} (h : Codec.bytes.encode content = .ok form) :
    form = Writer.uleb128 (.ofNat content.length) ++ content := by
  obtain ⟨size, written, formed⟩ := Fallible.bind_eq_ok.mp h
  unfold Writer.length at written
  split at written
  · cases written
    exact (Except.ok.inj formed).symm
  · cases written

theorem authorizeUpgrade_makes (cap : ObjectArg) (policy : UInt8) (digest : Bytes) :
    (authorizeUpgrade cap policy digest).Makes fun count inputs _ made =>
      made = (BuildStep.authorizeUpgrade cap policy digest).instructions inputs count := by
  apply ((addInput_makes (.object cap)).bind fun cap =>
    (addPure_makes (c := Codec.u8) (a := policy) rfl).bind fun policy =>
      (addEncoded_makes (Codec.bytes.encode digest)).bind fun digest =>
        addCommand_makes (.moveCall _)).mono
  rintro count inputs place made ⟨cap, _, _, rfl, ⟨right, rfl⟩, policy, _, _, rfl, ⟨number, rfl⟩,
    place, _, _, rfl, ⟨⟨content, formed, package⟩, rfl⟩, -, rfl⟩
  obtain rfl := eq_of_encode_bytes formed
  simp [Command.instruction, right, number, package, instructions]

end Building

namespace BuildStep

open Builder Building

/-- One case for each operation. -/
theorem action_makes (step : BuildStep) :
    step.action.Makes fun count inputs _ made => made = step.instructions inputs count := by
  have asked {c : Command} : (addCommand c).Makes fun _ inputs _ made =>
      made = [c.instruction inputs] := by
    apply (addCommand_makes c).mono
    rintro count inputs place made ⟨-, one⟩
    exact one
  have silent {m : Building Argument} {stands : Argument → List CallArg → Prop}
      (h : m.Makes fun _ inputs place made => stands place inputs ∧ made = []) :
      m.Makes fun _ _ _ made => made = [] := by
    apply h.mono
    rintro count inputs place made ⟨-, none⟩
    exact none
  cases step with
  | input arg => exact (silent (addInput_makes arg)).map_any _
  | bytes content => exact (silent (addInput_makes _)).map_any _
  | encoded form => exact (silent (addEncoded_makes form)).map_any _
  | typed type value =>
    apply Makes.map_any
    apply ((Makes.lift (PureArg.typed type value)).bind fun arg => addInput_makes (.pure arg)).mono
    rintro count inputs place made ⟨arg, _, _, rfl, ⟨-, rfl⟩, -, rfl⟩
    rfl
  | object arg => exact (silent (addInput_makes _)).map_any _
  | command c => exact asked.map_any _
  | moveCall call => exact asked.map_any _
  | moveCallOn package moduleName function typeArguments inputs =>
    exact (moveCallOn_makes _ _ _ _ _).map_any _
  | transferArg recipient arg => exact (transferArg_makes _ _).map_any _
  | transferArgs recipient objects => exact (transferArgs_makes _ _).map_any _
  | transferObjects recipient objects => exact (transferObjects_makes _ _).map_any _
  | transferSui recipient amount => exact (transferSui_makes _ _).map_any _
  | paySui recipients amounts => exact (paySui_makes _ _).map_any _
  | splitCoins coin amounts => exact (splitCoins_makes _ _).map_any _
  | mergeCoins target coins => exact (mergeCoins_makes _ _).map_any _
  | smashCoins coins => exact (smashCoins_makes _).map_any _
  | publish modules dependencies => exact asked.map_any _
  | publishImmutableTo recipient modules dependencies =>
    exact (publishImmutableTo_makes _ _ _).map_any _
  | upgrade package ticket dependencies modules => exact asked.map_any _
  | makeMoveVec item items => exact (makeMoveVec_makes _ _).map_any _
  | authorizeUpgrade cap policy digest => exact (authorizeUpgrade_makes _ _ _).map_any _

/-- The second builder is the first with the instructions that the operation asked for, and these
stay what they are. -/
structure Builds (b : Builder) (step : BuildStep) (next : Builder) (added : List Command) :
    Prop where
  inputs : b.finish.inputs <+: next.finish.inputs
  commands : next.finish.commands = b.finish.commands ++ added
  asked : ∀ later, added.map (Command.instruction (run next later).finish.inputs) =
    step.instructions (run next later).finish.inputs b.finish.commands.length

/-- A successful operation builds what it was asked for. -/
theorem apply_builds {b : Builder} {step : BuildStep} {result : Option Argument}
    (succeeded : (apply b step).1 = .ok result) :
    ∃ added, Builds b step (apply b step).2 added := by
  unfold apply at succeeded ⊢
  cases ran : step.action b with
  | error e next =>
    rw [ran] at succeeded
    cases succeeded
  | ok given next =>
    obtain ⟨inputs, added, commands, asked⟩ := action_makes step b given next ran
    refine ⟨added, inputs, commands, ?_⟩
    intro later
    exact asked _ (run_grown next later).inputs

/-- An operation succeeds if there is room for its parts and none of them is a refusal. -/
theorem apply_of_room {b : Builder} {step : BuildStep} (possible : ∀ e, .refuse e ∉ step.parts)
    (inputs : b.finish.inputs.length + step.parts.length ≤ 2 ^ 16)
    (commands : b.finish.commands.length + step.parts.length ≤ 2 ^ 16) :
    ∃ result, (apply b step).1 = .ok result := by
  have played := (action_meets step).plays b
  unfold apply
  cases ran : step.action b with
  | ok result next => exact ⟨result, rfl⟩
  | error e next =>
    rw [ran] at played
    obtain ⟨done, refused, rest, parts, gained, no⟩ := played
    have length : step.parts.length = done.length + (rest.length + 1) := by
      rw [parts, List.length_append, List.length_cons]
    cases refused with
    | input arg =>
      have full : 2 ^ 16 ≤ next.finish.inputs.length := no.1
      have few := gained.length_le.1
      omega
    | command form =>
      have full : 2 ^ 16 ≤ next.finish.commands.length := no.1
      have few := gained.length_le.2
      omega
    | refuse cause =>
      exact absurd (parts ▸ List.mem_append_right done List.mem_cons_self) (possible cause)

/-- Two equal payments to one account, where the amount is an input already and declared of a type:
both stand in the commands. -/
theorem equal_payments_built : ∃ b result added,
    b = run .empty ([CallArg.pure ⟨Writer.u64 7, some .u64⟩].map .input) ∧
    (apply b (.paySui [.framework, .framework] [7, 7])).1 = .ok result ∧
    (apply b (.paySui [.framework, .framework] [7, 7])).2.finish.commands = added ∧
    added.map (Command.instruction
      (apply b (.paySui [.framework, .framework] [7, 7])).2.finish.inputs) =
      [.splitCoins .gasCoin [.amount 7, .amount 7],
        .transferObjects [.nestedResult 0 0] (.account .framework),
        .transferObjects [.nestedResult 0 1] (.account .framework)] := by
  have content : (run .empty ([CallArg.pure ⟨Writer.u64 7, some .u64⟩].map .input)).finish =
      ⟨[.pure ⟨Writer.u64 7, some .u64⟩], []⟩ :=
    run_inputs (List.pairwise_singleton _ _) (by decide)
  generalize run .empty ([CallArg.pure ⟨Writer.u64 7, some .u64⟩].map .input) = b at content
  have listed : (BuildStep.paySui [.framework, .framework] [7, 7]).parts =
      [.input (.ofBytes (Writer.u64 7)), .input (.ofBytes (Writer.u64 7)), .splits .gasCoin [7, 7],
        .input (.ofBytes Address.framework.bytes), .transfers (coinOfSplit 0),
        .input (.ofBytes Address.framework.bytes), .transfers (coinOfSplit 1)] := rfl
  obtain ⟨result, succeeded⟩ : ∃ result,
      (apply b (.paySui [.framework, .framework] [7, 7])).1 = .ok result := by
    apply apply_of_room
    · intro e member
      simp [listed, Part.splits, Part.transfers] at member
    · simp [content, listed]
    · simp [content, listed]
  obtain ⟨added, -, commands, asked⟩ := apply_builds succeeded
  refine ⟨b, result, added, rfl, succeeded, ?_, ?_⟩
  · rw [commands, content]
    rfl
  · have now := asked []
    rw [content] at now
    exact now

end BuildStep

end MoveWire
