import MoveWire.Proofs.Transaction.Builder.Parts

/-!
What operations on a builder are made of. Main statement: each operation gains its parts or fails
at the first that is refused, and if the arguments that it is given refer to what is there, so do
the commands that it adds and the arguments that it gives.
-/

namespace MoveWire

/-- The arguments are the places of so many inputs. -/
def Argument.Places (n : Nat) (args : List Argument) : Prop :=
  args.length = n ∧ ∀ arg ∈ args, ∃ i, arg = .input i

theorem Argument.Places.nil : Places 0 [] := ⟨rfl, fun _ member => nomatch member⟩

theorem Argument.Places.cons {n : Nat} {arg : Argument} {args : List Argument}
    (first : ∃ i, arg = .input i) (rest : Places n args) : Places (n + 1) (arg :: args) :=
  ⟨congrArg (· + 1) rest.1, List.forall_mem_cons.mpr ⟨first, rest.2⟩⟩

namespace Part

/-- An input that has to be made first. -/
def made : Fallible CallArg → Part
  | .ok arg => .input arg
  | .error e => .refuse e

def encoded (form : Fallible Bytes) : Part := made (CallArg.ofBytes <$> form)

def value {α : Type} (c : Codec α) (a : α) : Part := encoded (c.encode a)

def object (arg : ObjectArg) : Part := .input (.object arg)

def owned (ref : ObjectRef) : Part := object (.owned ref)

/-- Sending objects to an account that has a place among the inputs. -/
def transfers (objects : List Argument → Prop) : Part :=
  .command fun c => ∃ sent i, objects sent ∧ c = .transferObjects sent (.input i)

/-- One new coin for each amount. -/
def splits (coin : Argument) (amounts : List UInt64) : Part :=
  .command fun c => ∃ places, Argument.Places amounts.length places ∧ c = .splitCoins coin places

/-- So many coins merged into one. -/
def merges (n : Nat) : Part :=
  .command fun c => ∃ i places, Argument.Places n places ∧ c = .mergeCoins (.input i) places

/-- A call on so many inputs. -/
def calls (n : Nat) (call : List Argument → MoveCall) : Part :=
  .command fun c => ∃ places, Argument.Places n places ∧ c = .moveCall (call places)

end Part

namespace BuildStep

def transferParts (recipient : Address) (objects : List Argument → Prop) : List Part :=
  [.value Address.codec recipient, .transfers objects]

/-- Sending each account what is meant for its number. -/
def payParts (recipients : List Address) (objects : Nat → List Argument → Prop) : List Part :=
  recipients.zipIdx.flatMap fun (recipient, i) =>
    Part.needed (Building.slot "split result" i) ++ transferParts recipient (objects i)

/-- The coin that a split makes of its amount of this number. -/
def coinOf (split : UInt16) (i : Nat) (sent : List Argument) : Prop :=
  sent = [.nestedResult split (.ofNat i)]

def coinOfSplit (i : Nat) (sent : List Argument) : Prop := ∃ split, coinOf split i sent

/-- The parts of an operation in their order. -/
def parts : BuildStep → List Part
  | .input arg => [.input arg]
  | .bytes content => [.input (.ofBytes content)]
  | .encoded form => [.encoded form]
  | .typed type value => [.made (CallArg.pure <$> PureArg.typed type value)]
  | .object arg => [.object arg]
  | .command c => [.command (· = c)]
  | .moveCall call => [.command (· = .moveCall call)]
  | .moveCallOn package moduleName function typeArguments inputs =>
    inputs.map .input ++
      [.calls inputs.length (⟨package, moduleName, function, typeArguments, ·⟩)]
  | .transferArg recipient arg => transferParts recipient (· = [arg])
  | .transferArgs recipient objects => transferParts recipient (· = objects)
  | .transferObjects recipient objects =>
    .value Address.codec recipient :: objects.map .owned ++
      [.transfers (Argument.Places objects.length)]
  | .transferSui recipient none => transferParts recipient (· = [.gasCoin])
  | .transferSui recipient (some amount) =>
    [.value Address.codec recipient, .value Codec.u64 amount, .splits .gasCoin [amount],
      .transfers fun sent => ∃ split, sent = [.result split]]
  | .paySui recipients amounts =>
    if recipients.length ≠ amounts.length then
      [.refuse (.invalid (.recipientCount recipients.length amounts.length))]
    else if recipients.isEmpty then []
    else amounts.map (.value Codec.u64) ++ .splits .gasCoin amounts ::
      payParts recipients coinOfSplit
  | .splitCoins coin amounts => amounts.map (.value Codec.u64) ++ [.splits coin amounts]
  | .mergeCoins target coins =>
    .owned target :: coins.map .owned ++ [.merges coins.length]
  | .smashCoins [] => [.refuse (.invalid .noCoins)]
  | .smashCoins (first :: rest) =>
    .owned first :: rest.map .owned ++ [.merges rest.length]
  | .publish modules dependencies => [.command (· = .publish modules dependencies)]
  | .publishImmutableTo recipient modules dependencies =>
    .command (· = .publish modules dependencies) ::
      transferParts recipient fun sent => ∃ cap, sent = [.result cap]
  | .upgrade package ticket dependencies modules =>
    [.command (· = .upgrade modules dependencies package ticket)]
  | .makeMoveVec item items =>
    if item.isNone && items.isEmpty then [.refuse (.invalid .untypedEmptyVector)]
    else [.command (· = .makeMoveVec item items)]
  | .authorizeUpgrade cap policy digest =>
    [.object cap, .value Codec.u8 policy, .value Codec.bytes digest,
      .calls 3 (⟨.framework, "package", "authorize_upgrade", [], ·⟩)]

/-- The arguments that an operation is given. -/
def arguments : BuildStep → List Argument
  | .command c => c.arguments
  | .moveCall call => call.arguments
  | .transferArg _ arg => [arg]
  | .transferArgs _ objects => objects
  | .splitCoins coin _ => [coin]
  | .upgrade _ ticket _ _ => [ticket]
  | .makeMoveVec _ items => items
  | _ => []

end BuildStep

namespace Building

open Builder

variable {α β : Type}


variable {taken : List Argument}

theorem addInput_meets (arg : CallArg) :
    (addInput arg).Meets [.input arg] taken fun place => [place] := by
  refine ⟨fun b => ?_, fun b refers _ => ?_, fun b place next _ run => ?_⟩
  · obtain ⟨i, held, -, there, same, run⟩ | ⟨fresh, room, next, content, run⟩ |
      ⟨full, index, cause, run⟩ := addInput_cases arg b
    · rw [run]
      exact .held (List.mem_of_getElem? there) same (.nothing b)
    · rw [run]
      exact .input fresh room content (.nothing next)
    · rw [run]
      refine ⟨[], .input arg, [], rfl, .nothing b, full, fun bounded => ?_⟩
      obtain ⟨fresh, rfl⟩ := cause bounded
      exact ⟨fresh, rfl⟩
  · unfold after
    obtain ⟨i, held, -, -, -, run⟩ | ⟨-, -, next, content, run⟩ | ⟨-, index, -, run⟩ :=
      addInput_cases arg b
    · rwa [run]
    · rw [run]
      intro k c there arg member
      simp only [content] at there ⊢
      exact (refers k c there arg member).mono (by simp) (Nat.le_refl k)
    · rwa [run]
  · obtain ⟨i, held, reach, there, -, added⟩ | ⟨-, room, later, content, added⟩ |
      ⟨-, index, -, added⟩ := addInput_cases arg b
    · rw [added] at run
      cases run
      have inside := (List.getElem?_eq_some_iff.mp there).1
      simpa [Reaches, Argument.Within, Nat.mod_eq_of_lt reach] using inside
    · rw [added] at run
      cases run
      simp [Reaches, Argument.Within, content, Nat.mod_eq_of_lt room]
    · rw [added] at run
      cases run

/-- The place of an input is given as one. -/
theorem eq_input_of_addInput {arg : CallArg} {place : Argument}
    (h : ∃ b next, addInput arg b = .ok place next) : ∃ i, place = .input i := by
  obtain ⟨b, next, run⟩ := h
  obtain ⟨i, held, -, -, -, added⟩ | ⟨-, -, later, -, added⟩ | ⟨-, index, -, added⟩ :=
    addInput_cases arg b <;> rw [added] at run <;> cases run
  · exact ⟨_, rfl⟩
  · exact ⟨_, rfl⟩

/-- A command that refers to what its action is given keeps all references in order. -/
theorem appendCommand_meets {form : Command → Prop} {c : Command} (formed : form c)
    (known : Supports taken c.arguments) :
    (appendCommand c).Meets [.command form] taken fun i => [.result i] := by
  refine ⟨fun b => ?_, fun b refers reach => ?_, fun b i next _ run => ?_⟩
  · obtain ⟨room, next, content, run⟩ | ⟨full, run⟩ := appendCommand_cases c b
    · rw [run]
      exact .command formed room content (.nothing next)
    · rw [run]
      exact ⟨[], .command form, [], rfl, .nothing b, full, rfl⟩
  · unfold after
    obtain ⟨-, next, content, run⟩ | ⟨-, run⟩ := appendCommand_cases c b
    · rw [run]
      intro k d there arg member
      simp only [content] at there ⊢
      rcases Nat.lt_trichotomy k b.finish.commands.length with before | rfl | behind
      · rw [List.getElem?_append_left before] at there
        exact refers k d there arg member
      · rw [List.getElem?_concat_length] at there
        cases there
        exact known b reach arg member
      · have short : (b.finish.commands ++ [c]).length ≤ k := by
          rw [List.length_append, List.length_singleton]
          omega
        rw [List.getElem?_eq_none short] at there
        cases there
    · rwa [run]
  · obtain ⟨room, later, content, added⟩ | ⟨-, added⟩ := appendCommand_cases c b
    · rw [added] at run
      cases run
      simp [Reaches, Argument.Within, content, Nat.mod_eq_of_lt room]
    · rw [added] at run
      cases run

theorem addCommand_meets {form : Command → Prop} {c : Command} (formed : form c)
    (known : Supports taken c.arguments) :
    (addCommand c).Meets [.command form] taken fun place => [place] :=
  (appendCommand_meets formed known).map _ fun _ => List.Subset.refl _

theorem addEncoded_meets (form : Fallible Bytes) :
    (addEncoded form).Meets [.encoded form] taken fun place => [place] := by
  cases form with
  | ok content => exact addInput_meets _
  | error e => exact .throw e

theorem addPure_meets (c : Codec α) (a : α) :
    (addPure c a).Meets [.value c a] taken fun place => [place] := addEncoded_meets _

theorem addTyped_meets (type : PureType) (v : PureValue) :
    (addTyped type v).Meets [.made (CallArg.pure <$> PureArg.typed type v)] taken
      fun place => [place] := by
  unfold addTyped
  cases PureArg.typed type v with
  | ok arg => exact addInput_meets _
  | error e => exact .throw e

theorem addOwned_meets (ref : ObjectRef) :
    (addOwned ref).Meets [.owned ref] taken fun place => [place] := addInput_meets _

theorem eq_input_of_addPure {c : Codec α} {a : α} {place : Argument}
    (h : ∃ b next, addPure c a b = .ok place next) : ∃ i, place = .input i := by
  unfold addPure at h
  cases form : c.encode a with
  | ok content =>
    rw [form] at h
    exact eq_input_of_addInput h
  | error e =>
    rw [form] at h
    obtain ⟨b, next, run⟩ := h
    cases run

theorem eq_ofNat_of_slot {what : String} {index : Nat} {place : UInt16}
    (h : slot what index = .ok place) : place = .ofNat index := by
  unfold slot at h
  split at h
  · exact (Except.ok.inj h).symm
  · cases h

theorem eq_ok_of_lift {result : Fallible α} {a : α}
    (h : ∃ b next, Building.lift result b = .ok a next) : result = .ok a := by
  obtain ⟨b, next, run⟩ := h
  cases result with
  | ok a => cases run; rfl
  | error e => cases run

theorem places_of_mapM {f : α → Building Argument} {as : List α} {places : List Argument}
    (each : ∀ {a place}, (∃ b next, f a b = .ok place next) → ∃ i, place = .input i)
    (h : ∃ b next, as.mapM f b = .ok places next) : Argument.Places as.length places := by
  obtain ⟨b, next, run⟩ := h
  induction as generalizing b places with
  | nil =>
    cases run
    exact .nil
  | cons a as ih =>
    rw [List.mapM_cons] at run
    obtain ⟨place, middle, first, rest⟩ := Stateful.bind_eq_ok run
    obtain ⟨others, last, more, final⟩ := Stateful.bind_eq_ok rest
    cases final
    exact .cons (each ⟨b, middle, first⟩) (ih middle more)

theorem transferArgs_meets {recipient : Address} {objects : List Argument}
    {form : List Argument → Prop} (formed : form objects) (known : Supports taken objects) :
    (transferArgs recipient objects).Meets (BuildStep.transferParts recipient form) taken
      fun _ => [] := by
  refine (addPure_meets Address.codec recipient).bind fun place given => ?_
  obtain ⟨i, rfl⟩ := eq_input_of_addPure given
  refine (addCommand_meets ⟨objects, i, formed, rfl⟩ (.append ?_ (.of_subset (by simp)))).discard
  exact fun b reach => known b fun arg member => reach arg (List.mem_append_right _ member)

theorem transferObjects_meets (recipient : Address) (objects : List ObjectRef) :
    (transferObjects recipient objects).Meets
      (BuildStep.transferObjects recipient objects).parts taken fun _ => [] := by
  refine (addPure_meets Address.codec recipient).bind fun place given => ?_
  obtain ⟨i, rfl⟩ := eq_input_of_addPure given
  refine (Meets.mapM addOwned_meets objects).bind fun places given => ?_
  have placed := places_of_mapM eq_input_of_addInput given
  refine (addCommand_meets ⟨places, i, placed, rfl⟩ (.of_subset ?_)).discard
  exact List.append_subset.mpr ⟨by simp, by simp⟩

theorem transferSui_meets (recipient : Address) (amount : Option UInt64) :
    (transferSui recipient amount).Meets (BuildStep.transferSui recipient amount).parts taken
      fun _ => [] := by
  cases amount with
  | none =>
    refine (addPure_meets Address.codec recipient).bind fun place given => ?_
    obtain ⟨i, rfl⟩ := eq_input_of_addPure given
    have known : Supports ([.input i] ++ taken)
        (Command.transferObjects [.gasCoin] (.input i)).arguments :=
      (Supports.gasCoin _).append (.of_subset (by simp))
    exact (addCommand_meets ⟨[.gasCoin], i, rfl, rfl⟩ known).discard
  | some amount =>
    refine (addPure_meets Address.codec recipient).bind fun place given => ?_
    obtain ⟨i, rfl⟩ := eq_input_of_addPure given
    refine (addPure_meets Codec.u64 amount).bind fun part given => ?_
    have placed := Argument.Places.nil.cons (eq_input_of_addPure given)
    have known : Supports ([part] ++ ([.input i] ++ taken))
        (Command.splitCoins .gasCoin [part]).arguments :=
      (Supports.gasCoin _).append (.of_subset (by simp))
    refine (addCommand_meets ⟨[part], placed, rfl⟩ known).bind fun coin given => ?_
    obtain ⟨b, middle, run⟩ := given
    obtain ⟨split, -, rfl⟩ := Stateful.map_eq_ok run
    refine (addCommand_meets ⟨_, i, ⟨split, rfl⟩, rfl⟩ (.of_subset ?_)).discard
    simp [Command.arguments]

/-- Sending the new coins of a split, one to each account. -/
theorem payEach_meets {split : UInt16} {form : Nat → List Argument → Prop}
    (formed : ∀ i, form i [.nestedResult split (.ofNat i)]) (known : .result split ∈ taken)
    (recipients : List Address) :
    (recipients.zipIdx.forM fun (recipient, i) => do
      transferArg recipient (.nestedResult split (← lift (slot "split result" i)))).Meets
      (BuildStep.payParts recipients form) taken fun _ => [] := by
  refine Meets.forM (fun (recipient, i) => ?_) _
  refine (Meets.lift (slot "split result" i)).bind fun part given => ?_
  obtain rfl := eq_ofNat_of_slot (eq_ok_of_lift given)
  exact transferArgs_meets (formed i) (.nestedResult known _)

theorem paySui_meets (recipients : List Address) (amounts : List UInt64) :
    (paySui recipients amounts).Meets (BuildStep.paySui recipients amounts).parts taken
      fun _ => [] := by
  rw [paySui, BuildStep.parts]
  by_cases counts : recipients.length ≠ amounts.length
  · rw [if_pos counts, if_pos counts]
    exact .throw _
  · rw [if_neg counts, if_neg counts]
    by_cases none : recipients.isEmpty
    · rw [if_pos none, if_pos none]
      exact .pure _ (.of_subset (List.nil_subset _))
    · rw [if_neg none, if_neg none]
      refine (Meets.mapM (addPure_meets Codec.u64) amounts).bind fun places given => ?_
      have known : Supports (id places ++ taken) (Command.splitCoins .gasCoin places).arguments :=
        (Supports.gasCoin _).append (.of_subset (by simp))
      have placed := places_of_mapM eq_input_of_addPure given
      refine (appendCommand_meets ⟨places, placed, rfl⟩ known).bind fun split _ => ?_
      have formed (i : Nat) : BuildStep.coinOfSplit i [.nestedResult split (.ofNat i)] :=
        ⟨split, rfl⟩
      exact payEach_meets formed List.mem_cons_self recipients

theorem splitCoins_meets {coin : Argument} (amounts : List UInt64)
    (known : Supports taken [coin]) : (splitCoins coin amounts).Meets
      (BuildStep.splitCoins coin amounts).parts taken fun place => [place] := by
  refine (Meets.mapM (addPure_meets Codec.u64) amounts).bind fun places given => ?_
  have first : Supports (id places ++ taken) [coin] :=
    fun b reach => known b fun arg member => reach arg (List.mem_append_right _ member)
  have placed := places_of_mapM eq_input_of_addPure given
  exact addCommand_meets ⟨places, placed, rfl⟩ (first.append (.of_subset (by simp)))

theorem mergeCoins_meets (target : ObjectRef) (coins : List ObjectRef) :
    (mergeCoins target coins).Meets (BuildStep.mergeCoins target coins).parts taken
      fun _ => [] := by
  refine (addOwned_meets target).bind fun place given => ?_
  obtain ⟨i, rfl⟩ := eq_input_of_addInput given
  refine (Meets.mapM addOwned_meets coins).bind fun places given => ?_
  have placed := places_of_mapM eq_input_of_addInput given
  refine (addCommand_meets ⟨i, places, placed, rfl⟩ (.of_subset ?_)).discard
  exact List.cons_subset.mpr ⟨by simp, by simp⟩

theorem smashCoins_meets (coins : List ObjectRef) :
    (smashCoins coins).Meets (BuildStep.smashCoins coins).parts taken fun place => [place] := by
  cases coins with
  | nil => exact .throw _
  | cons first rest =>
    refine (addOwned_meets first).bind fun place given => ?_
    obtain ⟨i, rfl⟩ := eq_input_of_addInput given
    refine (Meets.mapM addOwned_meets rest).bind fun places given => ?_
    have placed := places_of_mapM eq_input_of_addInput given
    rw [← List.append_nil [_]]
    refine (addCommand_meets ⟨i, places, placed, rfl⟩ (.of_subset ?_)).discard.bind fun _ _ => ?_
    · exact List.cons_subset.mpr ⟨by simp, by simp⟩
    · exact .pure _ (.of_subset (by simp))

theorem publishImmutableTo_meets (recipient : Address) (modules : List Bytes)
    (dependencies : List ObjectId) : (publishImmutableTo recipient modules dependencies).Meets
      (BuildStep.publishImmutableTo recipient modules dependencies).parts taken fun _ => [] := by
  have publishes : (publish modules dependencies).Meets
      [.command (· = .publish modules dependencies)] taken fun place => [place] :=
    addCommand_meets rfl (.of_subset (List.nil_subset _))
  refine publishes.bind fun cap given => ?_
  obtain ⟨b, next, run⟩ := given
  obtain ⟨i, -, rfl⟩ := Stateful.map_eq_ok run
  exact transferArgs_meets ⟨i, rfl⟩ (.of_subset (by simp))

theorem makeMoveVec_meets {items : List Argument} (item : Option TypeTag)
    (known : Supports taken items) : (makeMoveVec item items).Meets
      (BuildStep.makeMoveVec item items).parts taken fun place => [place] := by
  rw [makeMoveVec, BuildStep.parts]
  by_cases untyped : item.isNone && items.isEmpty
  · rw [if_pos untyped, if_pos untyped]
    exact .throw _
  · rw [if_neg untyped, if_neg untyped]
    exact addCommand_meets rfl known

theorem authorizeUpgrade_meets (cap : ObjectArg) (policy : UInt8) (digest : Bytes) :
    (authorizeUpgrade cap policy digest).Meets
      (BuildStep.authorizeUpgrade cap policy digest).parts taken fun place => [place] := by
  refine (addInput_meets (.object cap)).bind fun cap given => ?_
  have one := eq_input_of_addInput given
  refine (addPure_meets Codec.u8 policy).bind fun policy given => ?_
  have two := eq_input_of_addPure given
  refine (addPure_meets Codec.bytes digest).bind fun digest given => ?_
  have placed := ((Argument.Places.nil.cons (eq_input_of_addPure given)).cons two).cons one
  exact addCommand_meets ⟨_, placed, rfl⟩ (.of_subset (by simp [Command.arguments]))

end Building

namespace BuildStep

open Building Builder

theorem silently_meets {action : Building Unit} {ps : List Part} {taken : List Argument}
    (h : action.Meets ps taken fun _ => []) :
    (silently action).Meets ps taken Option.toList := by
  rw [← List.append_nil ps]
  exact h.bind fun _ _ => .pure none (.of_subset (List.nil_subset _))

theorem some_meets {action : Building Argument} {ps : List Part} {taken : List Argument}
    (h : action.Meets ps taken fun place => [place]) :
    (some <$> action).Meets ps taken Option.toList :=
  h.map some fun _ => List.Subset.refl _

/-- One case for each operation, each from the inputs and commands that it is made of. -/
theorem action_meets (step : BuildStep) :
    step.action.Meets step.parts step.arguments Option.toList := by
  have all (args : List Argument) : Supports args args := .of_subset (List.Subset.refl _)
  cases step with
  | input arg => exact some_meets (addInput_meets _)
  | bytes content => exact some_meets (addInput_meets _)
  | encoded form => exact some_meets (addEncoded_meets _)
  | typed type value => exact some_meets (addTyped_meets type value)
  | object arg => exact some_meets (addInput_meets _)
  | command c => exact some_meets (addCommand_meets rfl (all _))
  | moveCall call => exact some_meets (addCommand_meets rfl (all _))
  | moveCallOn package moduleName function typeArguments inputs =>
    refine some_meets ((Meets.mapM addInput_meets inputs).bind fun places given => ?_)
    have placed := places_of_mapM eq_input_of_addInput given
    exact addCommand_meets ⟨places, placed, rfl⟩ (.of_subset (List.subset_append_left _ _))
  | transferArg recipient arg => exact silently_meets (transferArgs_meets rfl (all _))
  | transferArgs recipient objects => exact silently_meets (transferArgs_meets rfl (all _))
  | transferObjects recipient objects => exact silently_meets (transferObjects_meets _ _)
  | transferSui recipient amount => exact silently_meets (transferSui_meets _ _)
  | paySui recipients amounts => exact silently_meets (paySui_meets _ _)
  | splitCoins coin amounts => exact some_meets (splitCoins_meets _ (all _))
  | mergeCoins target coins => exact silently_meets (mergeCoins_meets _ _)
  | smashCoins coins => exact some_meets (smashCoins_meets _)
  | publish modules dependencies => exact some_meets (addCommand_meets rfl (all _))
  | publishImmutableTo recipient modules dependencies =>
    exact silently_meets (publishImmutableTo_meets _ _ _)
  | upgrade package ticket dependencies modules =>
    exact some_meets (addCommand_meets rfl (all _))
  | makeMoveVec item items => exact some_meets (makeMoveVec_meets _ (all _))
  | authorizeUpgrade cap policy digest => exact some_meets (authorizeUpgrade_meets _ _ _)

end BuildStep

end MoveWire
