import MoveWire.Proofs.Transaction.Builder.Additions

/-!
Commands with their arguments looked up. The index of an input says little, since an input can have
been there before and stands at the place where it was added first; what a command means is told by
what its arguments stand for. A successful action only adds, so what an argument stands for is the
same in all inputs that continue those after the action.
-/

namespace MoveWire

/-- What an argument stands for: an input for what it holds, whatever type was declared for it, a
result for the command whose result it is. -/
inductive Operand where
  | gasCoin
  | input (held : CallArg)
  | absent (index : Nat)
  | result (command : Nat)
  | nestedResult (command item : Nat)
  deriving DecidableEq

namespace Operand

def ofInput (arg : CallArg) : Operand := .input arg.undeclared

def bytes (content : Bytes) : Operand := .input (.ofBytes content)

def amount (n : UInt64) : Operand := .bytes (Writer.u64 n)

def account (a : Address) : Operand := .bytes a.bytes

def owned (ref : ObjectRef) : Operand := .input (.object (.owned ref))

end Operand

def Argument.operand (inputs : List CallArg) : Argument → Operand
  | .gasCoin => .gasCoin
  | .input i =>
    match inputs[i.toNat]? with
    | some held => .ofInput held
    | none => .absent i.toNat
  | .result i => .result i.toNat
  | .nestedResult i j => .nestedResult i.toNat j.toNat

namespace Argument

variable (inputs : List CallArg) (i j : UInt16)

@[simp] theorem operand_gasCoin : gasCoin.operand inputs = .gasCoin := rfl

@[simp] theorem operand_result : (result i).operand inputs = .result i.toNat := rfl

@[simp] theorem operand_nestedResult :
    (nestedResult i j).operand inputs = .nestedResult i.toNat j.toNat := rfl

end Argument

/-- A command on what its arguments stand for. -/
inductive Instruction where
  | moveCall (package : ObjectId) (moduleName function : String) (typeArguments : List TypeTag)
      (arguments : List Operand)
  | transferObjects (objects : List Operand) (recipient : Operand)
  | splitCoins (coin : Operand) (amounts : List Operand)
  | mergeCoins (target : Operand) (sources : List Operand)
  | publish (modules : List Bytes) (dependencies : List ObjectId)
  | makeMoveVec (item : Option TypeTag) (items : List Operand)
  | upgrade (modules : List Bytes) (dependencies : List ObjectId) (package : ObjectId)
      (ticket : Operand)
  deriving DecidableEq

def Command.instruction (inputs : List CallArg) : Command → Instruction
  | .moveCall call => .moveCall call.package call.moduleName call.function call.typeArguments
      (call.arguments.map (·.operand inputs))
  | .transferObjects objects recipient =>
    .transferObjects (objects.map (·.operand inputs)) (recipient.operand inputs)
  | .splitCoins coin amounts =>
    .splitCoins (coin.operand inputs) (amounts.map (·.operand inputs))
  | .mergeCoins target sources =>
    .mergeCoins (target.operand inputs) (sources.map (·.operand inputs))
  | .publish modules dependencies => .publish modules dependencies
  | .makeMoveVec item items => .makeMoveVec item (items.map (·.operand inputs))
  | .upgrade modules dependencies package ticket =>
    .upgrade modules dependencies package (ticket.operand inputs)

/-- An input that is there stands for what it holds in all longer lists. -/
theorem Argument.operand_input {inputs longer : List CallArg} {i : Nat} {held arg : CallArg}
    (reach : i < 2 ^ 16) (there : inputs[i]? = some held) (same : held.Same arg)
    (continued : inputs <+: longer) :
    (Argument.input (.ofNat i)).operand longer = .ofInput arg := by
  obtain ⟨tail, rfl⟩ := continued
  have inside : i < inputs.length := (List.getElem?_eq_some_iff.mp there).1
  have kept : (inputs ++ tail)[i]? = some held := by
    rw [List.getElem?_append_left inside, there]
  rw [operand, UInt16.toNat_ofNat_of_lt' reach, kept]
  exact congrArg Operand.input (CallArg.same_iff.mp same)

namespace Building

variable {α β : Type}

/-- What is known of an action that succeeds. It only adds; and of the number of commands before it,
of all inputs that continue those after it, of its result and of the commands that it adds, as they
are on these inputs, the relation holds. -/
def Makes (m : Building α) (spec : Nat → List CallArg → α → List Instruction → Prop) : Prop :=
  ∀ b a next, m b = .ok a next →
    b.finish.inputs <+: next.finish.inputs ∧
    ∃ added, next.finish.commands = b.finish.commands ++ added ∧
      ∀ inputs, next.finish.inputs <+: inputs →
        spec b.finish.commands.length inputs a (added.map (Command.instruction inputs))

namespace Makes

variable {m : Building α} {spec weaker : Nat → List CallArg → α → List Instruction → Prop}

theorem mono (h : m.Makes spec)
    (le : ∀ count inputs a made, spec count inputs a made → weaker count inputs a made) :
    m.Makes weaker := by
  intro b a next run
  obtain ⟨continued, added, commands, holds⟩ := h b a next run
  refine ⟨continued, added, commands, ?_⟩
  intro inputs longer
  exact le _ _ _ _ (holds inputs longer)

theorem pure (a : α) :
    (pure a : Building α).Makes fun _ _ r made => r = a ∧ made = [] := by
  intro b r next run
  cases run
  refine ⟨List.prefix_rfl, [], (List.append_nil _).symm, ?_⟩
  intro inputs _
  exact ⟨rfl, rfl⟩

theorem throw (e : WireError) : (throw e : Building α).Makes spec := by
  intro b r next run
  cases run

theorem lift (result : Fallible α) :
    (Building.lift result).Makes fun _ _ r made => result = .ok r ∧ made = [] := by
  cases result with
  | ok a =>
    apply (Makes.pure a).mono
    rintro count inputs r made ⟨rfl, none⟩
    exact ⟨rfl, none⟩
  | error e => exact .throw e

/-- The commands of the second action stand behind those of the first. -/
theorem bind {k : α → Building β} {after : α → Nat → List CallArg → β → List Instruction → Prop}
    (first : m.Makes spec) (second : ∀ a, (k a).Makes (after a)) :
    (m >>= k).Makes fun count inputs r made => ∃ a front back, made = front ++ back ∧
      spec count inputs a front ∧ after a (count + front.length) inputs r back := by
  intro b r last run
  obtain ⟨a, middle, before, behind⟩ := Stateful.bind_eq_ok run
  obtain ⟨continued, front, commands, holds⟩ := first b a middle before
  obtain ⟨continued', back, commands', holds'⟩ := second a middle r last behind
  refine ⟨continued.trans continued', front ++ back, ?_, ?_⟩
  · rw [commands', commands, List.append_assoc]
  · intro inputs longer
    -- Inputs that continue those of the whole continue those of the first action.
    refine ⟨a, _, _, List.map_append, holds inputs (continued'.trans longer), ?_⟩
    have later := holds' inputs longer
    rw [commands, List.length_append] at later
    rwa [List.length_map]

theorem map (h : m.Makes spec) (f : α → β) :
    (f <$> m).Makes fun count inputs r made => ∃ a, r = f a ∧ spec count inputs a made := by
  rw [map_eq_pure_bind]
  apply (h.bind fun a => Makes.pure (f a)).mono
  rintro count inputs r made ⟨a, front, back, rfl, holds, rfl, rfl⟩
  refine ⟨a, rfl, ?_⟩
  rwa [List.append_nil]

/-- Another result, where nothing is said of it. -/
theorem map_any {spec : Nat → List CallArg → List Instruction → Prop}
    (h : m.Makes fun count inputs _ made => spec count inputs made) (f : α → β) :
    (f <$> m).Makes fun count inputs _ made => spec count inputs made := by
  apply (h.map f).mono
  rintro count inputs r made ⟨a, -, holds⟩
  exact holds

/-- Places for a list of things stand for these in their order. -/
theorem mapM {γ : Type} {f : γ → Building Argument} {g : γ → Operand}
    (each : ∀ c, (f c).Makes fun _ inputs place made =>
      place.operand inputs = g c ∧ made = []) (cs : List γ) :
    (cs.mapM f).Makes fun _ inputs places made =>
      places.map (·.operand inputs) = cs.map g ∧ made = [] := by
  induction cs with
  | nil =>
    apply (Makes.pure []).mono
    rintro count inputs places made ⟨rfl, none⟩
    exact ⟨rfl, none⟩
  | cons c cs ih =>
    rw [List.mapM_cons]
    apply ((each c).bind fun place => ih.bind fun places => .pure (place :: places)).mono
    rintro count inputs all made ⟨place, _, _, rfl, ⟨first, rfl⟩, places, _, _, rfl,
      ⟨others, rfl⟩, rfl, rfl⟩
    exact ⟨by rw [List.map_cons, List.map_cons, first, others], rfl⟩

/-- One instruction for each thing of a list, in their order. -/
theorem forM {γ : Type} {f : γ → Building PUnit} {g : List CallArg → γ → Instruction}
    (each : ∀ c, (f c).Makes fun _ inputs _ made => made = [g inputs c]) (cs : List γ) :
    (cs.forM f).Makes fun _ inputs _ made => made = cs.map (g inputs) := by
  induction cs with
  | nil =>
    apply (Makes.pure _).mono
    rintro count inputs _ made ⟨-, none⟩
    exact none
  | cons c cs ih =>
    rw [List.forM_eq_forM, List.forM_cons]
    apply ((each c).bind fun _ => ih).mono
    rintro count inputs _ made ⟨_, _, _, rfl, rfl, rfl⟩
    rfl

end Makes

/-- A place for an input stands for it, also where another one of the same content was there. -/
theorem addInput_makes (arg : CallArg) : (addInput arg).Makes fun _ inputs place made =>
    place.operand inputs = .ofInput arg ∧ made = [] := by
  intro b place next run
  obtain ⟨i, held, reach, there, same, added⟩ | ⟨-, room, later, content, added⟩ |
    ⟨-, index, -, added⟩ := addInput_cases arg b
  · rw [added] at run
    cases run
    refine ⟨List.prefix_rfl, [], (List.append_nil _).symm, ?_⟩
    intro inputs longer
    exact ⟨Argument.operand_input reach there same longer, rfl⟩
  · rw [added] at run
    cases run
    rw [content]
    refine ⟨List.prefix_append _ _, [], (List.append_nil _).symm, ?_⟩
    intro inputs longer
    have there : (b.finish.inputs ++ [arg])[b.finish.inputs.length]? = some arg :=
      List.getElem?_concat_length
    exact ⟨Argument.operand_input room there (CallArg.same_iff.mpr rfl) longer, rfl⟩
  · rw [added] at run
    cases run

theorem toNat_of_slot {what : String} {index : Nat} {place : UInt16}
    (h : slot what index = .ok place) : place.toNat = index := by
  by_cases reach : index < 2 ^ 16
  · rw [slot_of_lt what reach] at h
    cases h
    exact UInt16.toNat_ofNat_of_lt' reach
  · rw [slot_of_le what (Nat.not_lt.mp reach)] at h
    cases h

theorem addEncoded_makes (form : Fallible Bytes) :
    (addEncoded form).Makes fun _ inputs place made =>
      (∃ content, form = .ok content ∧ place.operand inputs = .bytes content) ∧ made = [] := by
  apply ((Makes.lift form).bind fun content => addInput_makes (.ofBytes content)).mono
  rintro count inputs place made ⟨content, _, _, rfl, ⟨formed, rfl⟩, stands, rfl⟩
  exact ⟨⟨content, formed, stands⟩, rfl⟩

/-- A value stands for its byte form. -/
theorem addPure_makes {c : Codec α} {a : α} {form : Bytes} (h : c.encode a = .ok form) :
    (addPure c a).Makes fun _ inputs place made =>
      place.operand inputs = .bytes form ∧ made = [] := by
  apply (addEncoded_makes (c.encode a)).mono
  rintro count inputs place made ⟨⟨content, formed, stands⟩, none⟩
  cases h.symm.trans formed
  exact ⟨stands, none⟩

theorem appendCommand_makes (c : Command) : (appendCommand c).Makes fun count inputs place made =>
    place.toNat = count ∧ made = [c.instruction inputs] := by
  intro b place next run
  obtain ⟨room, later, content, added⟩ | ⟨-, added⟩ := appendCommand_cases c b
  · rw [added] at run
    cases run
    rw [content]
    refine ⟨List.prefix_rfl, [c], rfl, ?_⟩
    intro inputs _
    exact ⟨UInt16.toNat_ofNat_of_lt' room, rfl⟩
  · rw [added] at run
    cases run

theorem addCommand_makes (c : Command) : (addCommand c).Makes fun count inputs place made =>
    place.operand inputs = .result count ∧ made = [c.instruction inputs] := by
  apply ((appendCommand_makes c).map Argument.result).mono
  rintro count inputs _ made ⟨place, rfl, rfl, one⟩
  exact ⟨rfl, one⟩

end Building

end MoveWire
