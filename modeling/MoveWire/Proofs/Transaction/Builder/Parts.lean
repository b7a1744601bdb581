import MoveWire.Proofs.Fallible
import MoveWire.Proofs.Transaction.Builder.Additions

/-!
Actions on a builder that ask for parts one after the other: a place for an input, a command of some
form, or a check that is not passed. An action gains all its parts, or it fails at the first that is
refused and keeps those before it. What is known of two actions is known of one behind the other.
-/

namespace MoveWire

/-- What an action asks for at once. -/
inductive Part where
  | input (arg : CallArg)
  | command (form : Command → Prop)
  | refuse (cause : WireError)

/-- A result that is needed to go on. -/
def Part.needed {α : Type} : Fallible α → List Part
  | .ok _ => []
  | .error e => [.refuse e]

/-- The argument refers to one of so many inputs or commands. -/
def Argument.Within (inputs commands : Nat) : Argument → Prop
  | .gasCoin => True
  | .input i => i.toNat < inputs
  | .result i => i.toNat < commands
  | .nestedResult i _ => i.toNat < commands

theorem Argument.Within.mono {inputs commands inputs' commands' : Nat} {arg : Argument}
    (h : arg.Within inputs commands) (hi : inputs ≤ inputs') (hc : commands ≤ commands') :
    arg.Within inputs' commands' := by
  cases arg with
  | gasCoin => trivial
  | input i => exact Nat.lt_of_lt_of_le h hi
  | result i => exact Nat.lt_of_lt_of_le h hc
  | nestedResult i j => exact Nat.lt_of_lt_of_le h hc

/-- Commands refer to inputs that are there and to commands before them. -/
def ProgrammableTransaction.Scoped (pt : ProgrammableTransaction) : Prop :=
  ∀ (k : Nat) (c : Command), pt.commands[k]? = some c →
    ∀ arg ∈ c.arguments, arg.Within pt.inputs.length k

namespace Builder

variable {a b c : Builder} {ps qs : List Part}

/-- The arguments can be used in the next command. -/
def Reaches (b : Builder) (args : List Argument) : Prop :=
  ∀ arg ∈ args, arg.Within b.finish.inputs.length b.finish.commands.length

/-- The second builder is the first with these parts added. -/
inductive Gains : Builder → List Part → Builder → Prop where
  | nothing (b : Builder) : Gains b [] b
  | held {b next : Builder} {arg held : CallArg} {ps : List Part}
      (there : held ∈ b.finish.inputs) (same : held.Same arg) (rest : Gains b ps next) :
      Gains b (.input arg :: ps) next
  | input {b middle next : Builder} {arg : CallArg} {ps : List Part}
      (fresh : ∀ held ∈ b.finish.inputs, ¬held.Same arg)
      (room : b.finish.inputs.length < 2 ^ 16)
      (added : middle.finish = { b.finish with inputs := b.finish.inputs ++ [arg] })
      (rest : Gains middle ps next) : Gains b (.input arg :: ps) next
  | command {b middle next : Builder} {form : Command → Prop} {c : Command} {ps : List Part}
      (formed : form c) (room : b.finish.commands.length < 2 ^ 16)
      (added : middle.finish = { b.finish with commands := b.finish.commands ++ [c] })
      (rest : Gains middle ps next) : Gains b (.command form :: ps) next

/-- The builder has no place for this part, or the part is a refusal itself. -/
def Refuses (b : Builder) (e : WireError) : Part → Prop
  | .input arg => 2 ^ 16 ≤ b.finish.inputs.length ∧ (b.finish.inputs.length ≤ 2 ^ 16 →
      (∀ held ∈ b.finish.inputs, ¬held.Same arg) ∧ e = .range (.slot "input" (2 ^ 16)))
  | .command _ => 2 ^ 16 ≤ b.finish.commands.length ∧
      e = .range (.slot "command" b.finish.commands.length)
  | .refuse cause => e = cause

/-- All parts are gained, or those in front of the first that is refused. -/
def Plays {α : Type} (b : Builder) (ps : List Part) : EStateM.Result WireError Builder α → Prop
  | .ok _ next => b.Gains ps next
  | .error e next =>
    ∃ done refused rest, ps = done ++ refused :: rest ∧ b.Gains done next ∧ next.Refuses e refused

/-- Both lists of the first builder are continued in the second, and they stay within the reach of
an index if they were. -/
structure Grown (b later : Builder) : Prop where
  inputs : b.finish.inputs <+: later.finish.inputs
  commands : b.finish.commands <+: later.finish.commands
  inputs_le : b.finish.inputs.length ≤ 2 ^ 16 → later.finish.inputs.length ≤ 2 ^ 16
  commands_le : b.finish.commands.length ≤ 2 ^ 16 → later.finish.commands.length ≤ 2 ^ 16

theorem Grown.refl (b : Builder) : b.Grown b := ⟨List.prefix_rfl, List.prefix_rfl, id, id⟩

theorem Grown.trans (first : a.Grown b) (second : b.Grown c) : a.Grown c where
  inputs := first.inputs.trans second.inputs
  commands := first.commands.trans second.commands
  inputs_le h := second.inputs_le (first.inputs_le h)
  commands_le h := second.commands_le (first.commands_le h)

theorem Gains.trans (first : a.Gains ps b) (second : b.Gains qs c) : a.Gains (ps ++ qs) c := by
  induction first with
  | nothing b => exact second
  | held there same _ ih => exact .held there same (ih second)
  | input fresh room added _ ih => exact .input fresh room added (ih second)
  | command formed room added _ ih => exact .command formed room added (ih second)

theorem Gains.grown (h : a.Gains ps b) : a.Grown b := by
  induction h with
  | nothing b => exact .refl b
  | held _ _ _ ih => exact ih
  | input _ room added _ ih =>
    refine Grown.trans ?_ ih
    constructor <;> simp only [added, List.length_append, List.length_singleton]
    · exact List.prefix_append _ _
    · exact List.prefix_rfl
    · omega
    · exact id
  | command _ room added _ ih =>
    refine Grown.trans ?_ ih
    constructor <;> simp only [added, List.length_append, List.length_singleton]
    · exact List.prefix_rfl
    · exact List.prefix_append _ _
    · exact id
    · omega

/-- A part takes one place at most. -/
theorem Gains.length_le (h : a.Gains ps b) :
    b.finish.inputs.length ≤ a.finish.inputs.length + ps.length ∧
    b.finish.commands.length ≤ a.finish.commands.length + ps.length := by
  induction h with
  | nothing b => exact ⟨Nat.le_refl _, Nat.le_refl _⟩
  | held _ _ _ ih =>
    rw [List.length_cons]
    omega
  | input _ _ added _ ih =>
    simp only [added, List.length_append, List.length_singleton] at ih
    rw [List.length_cons]
    omega
  | command _ _ added _ ih =>
    simp only [added, List.length_append, List.length_singleton] at ih
    rw [List.length_cons]
    omega

theorem Reaches.grown {args : List Argument} (h : a.Reaches args) (grown : a.Grown b) :
    b.Reaches args :=
  fun arg member => (h arg member).mono grown.inputs.length_le grown.commands.length_le

/-- Wherever the first arguments can be used, the second ones can. -/
def Supports (taken args : List Argument) : Prop :=
  ∀ b : Builder, b.Reaches taken → b.Reaches args

theorem Reaches.append {args others : List Argument} (h : b.Reaches args)
    (ho : b.Reaches others) : b.Reaches (args ++ others) :=
  fun arg member => (List.mem_append.mp member).elim (h arg) (ho arg)

theorem Supports.of_subset {taken args : List Argument} (h : args ⊆ taken) :
    Supports taken args :=
  fun _ reach arg member => reach arg (h member)

theorem Supports.append {taken args others : List Argument} (h : Supports taken args)
    (ho : Supports taken others) : Supports taken (args ++ others) :=
  fun b reach => (h b reach).append (ho b reach)

theorem Supports.gasCoin (taken : List Argument) : Supports taken [.gasCoin] := by
  intro b _ arg member
  rw [List.mem_singleton.mp member]
  trivial

/-- A part of a result can be used where the result can. -/
theorem Supports.nestedResult {taken : List Argument} {i : UInt16}
    (h : Argument.result i ∈ taken) (j : UInt16) : Supports taken [.nestedResult i j] := by
  intro b reach arg member
  rw [List.mem_singleton.mp member]
  have known : (Argument.result i).Within _ _ := reach _ h
  exact known

end Builder

namespace Building

open Builder

variable {α β : Type}

/-- What is known of an action: the parts that it asks for, and that it refers to what is there
whenever the arguments do that it is given, in the commands that it adds and in those that it
gives. -/
structure Meets (action : Building α) (ps : List Part) (taken : List Argument)
    (given : α → List Argument) : Prop where
  plays : ∀ b : Builder, b.Plays ps (action b)
  keeps : ∀ b : Builder, b.finish.Scoped → b.Reaches taken → (action.after b).finish.Scoped
  gives : ∀ b a next, b.Reaches taken → action b = .ok a next → next.Reaches (given a)

namespace Meets

variable {m : Building α} {ps qs : List Part} {taken : List Argument} {given : α → List Argument}

theorem grown (h : m.Meets ps taken given) (b : Builder) : b.Grown (m.after b) := by
  have played := h.plays b
  unfold after
  cases run : m b with
  | ok a next =>
    rw [run] at played
    exact Gains.grown played
  | error e next =>
    rw [run] at played
    obtain ⟨done, refused, rest, -, gained, -⟩ := played
    exact gained.grown

theorem pure (a : α) (h : Supports taken (given a)) :
    (pure a : Building α).Meets [] taken given where
  plays b := .nothing b
  keeps _ refers _ := refers
  gives b _ next reach run := by
    cases run
    exact h b reach

theorem throw (e : WireError) : (throw e : Building α).Meets [.refuse e] taken given where
  plays b := ⟨[], .refuse e, [], rfl, .nothing b, rfl⟩
  keeps _ refers _ := refers
  gives _ _ _ _ run := nomatch run

theorem lift (result : Fallible α) :
    (Building.lift result).Meets (Part.needed result) taken fun _ => [] := by
  cases result with
  | ok a => exact .pure a (.of_subset (List.nil_subset _))
  | error e => exact .throw e

/-- The second action is given what the first one gives besides what is there already. -/
theorem bind {k : α → Building β} {result : β → List Argument} (first : m.Meets ps taken given)
    (next : ∀ a, (∃ b middle, m b = .ok a middle) →
      (k a).Meets qs (given a ++ taken) result) : (m >>= k).Meets (ps ++ qs) taken result := by
  have reached (b : Builder) {a : α} {middle : Builder} (run : m b = .ok a middle) :
      b.Gains ps middle ∧ (b.Reaches taken → middle.Reaches (given a ++ taken)) := by
    have gained : b.Gains ps middle := by
      have played := first.plays b
      rwa [run] at played
    refine ⟨gained, fun reach => ?_⟩
    exact (first.gives b a middle reach run).append (reach.grown gained.grown)
  refine ⟨fun b => ?_, fun b refers reach => ?_, fun b r final reach given => ?_⟩
  · cases run : m b with
    | ok a middle =>
      have gained := (reached b run).1
      have played := (next a ⟨b, middle, run⟩).plays middle
      rw [Stateful.bind_ok run]
      cases rest : k a middle with
      | ok r final =>
        rw [rest] at played
        exact gained.trans played
      | error e final =>
        rw [rest] at played
        obtain ⟨done, refused, behind, rfl, more, no⟩ := played
        exact ⟨ps ++ done, refused, behind, by simp, gained.trans more, no⟩
    | error e middle =>
      have played := first.plays b
      rw [Stateful.bind_error run]
      rw [run] at played
      obtain ⟨done, refused, behind, rfl, gained, no⟩ := played
      exact ⟨done, refused, behind ++ qs, by simp, gained, no⟩
  · have kept := first.keeps b refers reach
    unfold after at kept ⊢
    cases run : m b with
    | ok a middle =>
      rw [run] at kept
      rw [Stateful.bind_ok run]
      exact (next a ⟨b, middle, run⟩).keeps middle kept ((reached b run).2 reach)
    | error e middle =>
      rw [run] at kept
      rwa [Stateful.bind_error run]
  · obtain ⟨a, middle, run, rest⟩ := Stateful.bind_eq_ok given
    exact (next a ⟨b, middle, run⟩).gives middle r final ((reached b run).2 reach) rest

theorem map {result : β → List Argument} (first : m.Meets ps taken given) (f : α → β)
    (h : ∀ a, result (f a) ⊆ given a) : (f <$> m).Meets ps taken result := by
  rw [map_eq_pure_bind, ← List.append_nil ps]
  refine first.bind fun a _ => .pure (f a) (.of_subset ?_)
  exact List.Subset.trans (h a) (List.subset_append_left _ _)

/-- What is needed to go on is not passed on. -/
theorem discard (first : m.Meets ps taken given) :
    (discard m).Meets ps taken fun _ => [] :=
  first.map _ fun _ => List.nil_subset _

/-- An action may be given more than it needs. -/
theorem mono {more : List Argument} (h : m.Meets ps taken given) (le : taken ⊆ more) :
    m.Meets ps more given where
  plays := h.plays
  keeps b refers reach := h.keeps b refers fun arg member => reach arg (le member)
  gives b a next reach := h.gives b a next fun arg member => reach arg (le member)

theorem mapM {f : α → Building Argument} {p : α → Part}
    (each : ∀ a, (f a).Meets [p a] taken fun place => [place]) (as : List α) :
    (as.mapM f).Meets (as.map p) taken id := by
  induction as with
  | nil => exact .pure [] (.of_subset (List.nil_subset _))
  | cons a as ih =>
    rw [List.mapM_cons]
    refine (each a).bind fun place _ => ?_
    have others := ih.mono (List.subset_append_right [place] taken)
    rw [← List.append_nil (List.map p as)]
    refine others.bind fun places _ => .pure _ (.of_subset fun arg member => ?_)
    simp only [id, List.mem_append, List.mem_cons] at member ⊢
    tauto

theorem forM {f : α → Building PUnit} {p : α → List Part}
    (each : ∀ a, (f a).Meets (p a) taken fun _ => []) (as : List α) :
    (as.forM f).Meets (as.flatMap p) taken fun _ => [] := by
  induction as with
  | nil => exact .pure _ (.of_subset (List.nil_subset _))
  | cons a as ih =>
    rw [List.forM_eq_forM, List.forM_cons]
    exact (each a).bind fun _ _ => ih

end Meets

end Building

end MoveWire
