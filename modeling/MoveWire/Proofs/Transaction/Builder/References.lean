import MoveWire.Proofs.Transaction.Builder

/-!
References in what a builder makes. If each operation is given arguments that refer to what is there
at that time, then in the finished transaction every command refers to inputs that are there and to
commands before it, whichever operations failed; what an operation gave stays usable; and a coin
that is sent out of a split is one that the split makes.
-/

namespace MoveWire

open Builder

theorem Part.value_ne_command {α : Type} {c : Codec α} {a : α} {form : Command → Prop} :
    Part.value c a ≠ .command form := by
  unfold value encoded
  cases c.encode a <;> exact fun eq => nomatch eq

/-- Whatever command is new comes from a part that asked for such a command. -/
theorem Builder.Gains.added {a b : Builder} {ps : List Part} {k : Nat} {c : Command}
    (h : a.Gains ps b) (new : a.finish.commands.length ≤ k)
    (there : b.finish.commands[k]? = some c) : ∃ form, .command form ∈ ps ∧ form c := by
  induction h with
  | nothing b =>
    rw [List.getElem?_eq_none new] at there
    cases there
  | held _ _ _ ih =>
    obtain ⟨form, member, formed⟩ := ih new there
    exact ⟨form, List.mem_cons_of_mem _ member, formed⟩
  | input _ _ added _ ih =>
    rw [added] at ih
    obtain ⟨form, member, formed⟩ := ih new there
    exact ⟨form, List.mem_cons_of_mem _ member, formed⟩
  | @command b middle next form d ps formed _ added rest ih =>
    rcases Nat.eq_or_lt_of_le new with rfl | behind
    · have first : middle.finish.commands[b.finish.commands.length]? = some d := by
        rw [added]
        exact List.getElem?_concat_length
      have kept := getElem?_of_prefix rest.grown.commands first
      rw [kept] at there
      cases there
      exact ⟨form, List.mem_cons_self, formed⟩
    · rw [added, List.length_append, List.length_singleton] at ih
      obtain ⟨other, member, formed⟩ := ih behind there
      exact ⟨other, List.mem_cons_of_mem _ member, formed⟩

namespace Building

variable {α β : Type} {m : Building α} {b : Builder}

theorem after_of_ok {a : α} {next : Builder} (run : m b = .ok a next) : m.after b = next := by
  rw [after, run]

theorem after_of_error {e : WireError} {next : Builder} (run : m b = .error e next) :
    m.after b = next := by
  rw [after, run]

theorem after_bind {a : α} {next : Builder} (run : m b = .ok a next) (k : α → Building β) :
    (m >>= k).after b = (k a).after next := by
  rw [after, after, Stateful.bind_ok run]

theorem after_bind_of_error {e : WireError} {next : Builder} (run : m b = .error e next)
    (k : α → Building β) : (m >>= k).after b = next := after_of_error (Stateful.bind_error run k)

theorem Meets.added {ps : List Part} {taken : List Argument} {given : α → List Argument} {k : Nat}
    {c : Command} (h : m.Meets ps taken given) (new : b.finish.commands.length ≤ k)
    (there : (m.after b).finish.commands[k]? = some c) : ∃ form, .command form ∈ ps ∧ form c := by
  have played := h.plays b
  unfold after at there
  cases run : m b with
  | ok a next =>
    rw [run] at played there
    exact Gains.added played new there
  | error e next =>
    rw [run] at played there
    obtain ⟨done, refused, rest, rfl, gained, -⟩ := played
    obtain ⟨form, member, formed⟩ := gained.added new there
    exact ⟨form, List.mem_append_left _ member, formed⟩

/-- Making inputs of numbers adds no command. -/
theorem commands_of_amounts (amounts : List UInt64) (b : Builder) :
    ((amounts.mapM (addPure Codec.u64)).after b).finish.commands = b.finish.commands := by
  have meets : (amounts.mapM (addPure Codec.u64)).Meets (amounts.map (.value Codec.u64)) [] id :=
    .mapM (addPure_meets Codec.u64) amounts
  obtain ⟨more, whole⟩ := (meets.grown b).commands
  cases more with
  | nil => rw [← whole, List.append_nil]
  | cons c more =>
    have there : ((amounts.mapM (addPure Codec.u64)).after b).finish.commands[
        b.finish.commands.length]? = some c := by simp [← whole]
    obtain ⟨form, member, -⟩ := meets.added (Nat.le_refl _) there
    obtain ⟨amount, -, made⟩ := List.mem_map.mp member
    exact absurd made Part.value_ne_command

/-- Paying adds no command, or it adds a split and goes on to send its coins. -/
theorem paySui_cases (recipients : List Address) (amounts : List UInt64) (b : Builder) :
    ((paySui recipients amounts).after b).finish.commands = b.finish.commands ∨
    ∃ places next, Argument.Places recipients.length places ∧ b.finish.commands.length < 2 ^ 16 ∧
      next.finish.commands = b.finish.commands ++ [.splitCoins .gasCoin places] ∧
      (paySui recipients amounts).after b = (recipients.zipIdx.forM fun (recipient, i) => do
        transferArg recipient (.nestedResult (.ofNat b.finish.commands.length)
          (← lift (slot "split result" i)))).after next := by
  unfold paySui
  by_cases counts : recipients.length ≠ amounts.length
  · rw [if_pos counts]
    exact .inl rfl
  · rw [if_neg counts]
    by_cases none : recipients.isEmpty
    · rw [if_pos none]
      exact .inl rfl
    · rw [if_neg none]
      have unchanged := commands_of_amounts amounts b
      cases made : amounts.mapM (addPure Codec.u64) b with
      | error e middle =>
        rw [after_of_error made] at unchanged
        rw [after_bind_of_error made]
        exact .inl unchanged
      | ok places middle =>
        rw [after_of_ok made] at unchanged
        rw [after_bind made]
        have placed := places_of_mapM eq_input_of_addPure ⟨b, middle, made⟩
        rw [← not_ne_iff.mp counts] at placed
        obtain ⟨room, next, content, added⟩ | ⟨-, refused⟩ :=
          appendCommand_cases (.splitCoins .gasCoin places) middle
        · rw [after_bind added, ← unchanged]
          exact .inr ⟨places, next, placed, room, by rw [content], rfl⟩
        · rw [after_bind_of_error refused]
          exact .inl unchanged

/-- All that is sent in one go is a coin of one split. -/
theorem nestedResult_of_payParts {split : UInt16} {recipients : List Address}
    {form : Command → Prop} {c : Command} {i j : UInt16}
    (member : .command form ∈ BuildStep.payParts recipients (BuildStep.coinOf split))
    (formed : form c) (used : .nestedResult i j ∈ c.arguments) :
    i = split ∧ j.toNat < recipients.length := by
  obtain ⟨⟨recipient, place⟩, there, part⟩ := List.mem_flatMap.mp member
  have inside : place < recipients.length := by
    simpa using (List.mem_zipIdx there).2.1
  rcases List.mem_append.mp part with needed | transfer
  · cases found : slot "split result" place <;> simp [found, Part.needed] at needed
  · rcases List.mem_cons.mp transfer with value | sending
    · exact absurd value.symm Part.value_ne_command
    · cases List.mem_singleton.mp sending
      obtain ⟨sent, account, rfl, rfl⟩ := formed
      simp only [Command.arguments, List.cons_append, List.nil_append, List.mem_cons,
        Argument.nestedResult.injEq, reduceCtorEq, List.not_mem_nil, or_false] at used
      obtain ⟨rfl, rfl⟩ := used
      exact ⟨rfl, Nat.lt_of_le_of_lt (Nat.mod_le _ _) inside⟩

/-- A coin of a split that is sent on is one that the split makes. -/
theorem nestedResult_of_paySui {recipients : List Address} {amounts : List UInt64} {b : Builder}
    {k : Nat} {c : Command} {i j : UInt16} (new : b.finish.commands.length ≤ k)
    (there : ((paySui recipients amounts).after b).finish.commands[k]? = some c)
    (used : .nestedResult i j ∈ c.arguments) :
    ∃ places, ((paySui recipients amounts).after b).finish.commands[i.toNat]? =
      some (.splitCoins .gasCoin places) ∧ j.toNat < places.length := by
  obtain unchanged | ⟨places, next, placed, room, content, rest⟩ :=
    paySui_cases recipients amounts b
  · rw [unchanged, List.getElem?_eq_none new] at there
    cases there
  · rw [rest] at there ⊢
    have formed (n : Nat) : BuildStep.coinOf (.ofNat b.finish.commands.length) n
        [.nestedResult (.ofNat b.finish.commands.length) (.ofNat n)] := rfl
    have meets := payEach_meets formed (List.mem_singleton_self _) recipients
    have split : next.finish.commands[b.finish.commands.length]? =
        some (.splitCoins .gasCoin places) := by
      rw [content, List.getElem?_concat_length]
    have kept := getElem?_of_prefix (meets.grown next).commands split
    rcases Nat.eq_or_lt_of_le new with rfl | behind
    · rw [kept] at there
      cases there
      rcases List.mem_cons.mp used with gas | place
      · cases gas
      · obtain ⟨n, input⟩ := placed.2 _ place
        cases input
    · have beyond : next.finish.commands.length ≤ k := by
        rw [content, List.length_append, List.length_singleton]
        exact behind
      obtain ⟨form, member, formed⟩ := meets.added beyond there
      obtain ⟨rfl, inside⟩ := nestedResult_of_payParts member formed used
      rw [UInt16.toNat_ofNat_of_lt' room]
      exact ⟨places, kept, by rwa [placed.1]⟩

end Building

namespace BuildStep

open Building

theorem after_action (b : Builder) (step : BuildStep) : step.action.after b = (apply b step).2 := by
  unfold after apply
  cases step.action b <;> rfl

theorem after_silently (m : Building Unit) (b : Builder) : (silently m).after b = m.after b := by
  unfold silently
  cases run : m b with
  | ok a next => rw [after_bind run, after_of_ok run]; rfl
  | error e next => rw [after_bind_of_error run, after_of_error run]

/-- Each operation is given arguments that refer to what is there when it starts. -/
def Supplied (b : Builder) : List BuildStep → Prop
  | [] => True
  | step :: rest => b.Reaches step.arguments ∧ Supplied (apply b step).2 rest

theorem apply_scoped {b : Builder} {step : BuildStep} (refers : b.finish.Scoped)
    (reach : b.Reaches step.arguments) : (apply b step).2.finish.Scoped := by
  rw [← after_action]
  exact (action_meets step).keeps b refers reach

theorem run_scoped {b : Builder} {steps : List BuildStep} (refers : b.finish.Scoped)
    (supplied : Supplied b steps) : (run b steps).finish.Scoped := by
  induction steps generalizing b with
  | nil => exact refers
  | cons step rest ih =>
    obtain ⟨reach, others⟩ := supplied
    exact ih (apply_scoped refers reach) others

theorem run_append (b : Builder) (before later : List BuildStep) :
    run b (before ++ later) = run (run b before) later := List.foldl_append

theorem supplied_append {b : Builder} {before later : List BuildStep} :
    Supplied b (before ++ later) ↔ Supplied b before ∧ Supplied (run b before) later := by
  induction before generalizing b with
  | nil => exact (and_iff_right trivial).symm
  | cons step rest ih =>
    rw [List.cons_append, Supplied, ih, Supplied, and_assoc]
    rfl

/-- What an operation gives can be used in the next one. -/
theorem reaches_of_apply {b : Builder} {step : BuildStep} {arg : Argument}
    (reach : b.Reaches step.arguments) (given : (apply b step).1 = .ok (some arg)) :
    (apply b step).2.Reaches [arg] := by
  unfold apply at given ⊢
  cases run : step.action b with
  | ok result next =>
    rw [run] at given
    cases given
    exact (action_meets step).gives b (some arg) next reach run
  | error e next =>
    rw [run] at given
    cases given

/-- What can be relied on after operations that were given arguments for what was there. The coins
are those in commands that a payment has added. -/
structure KeepsReferences (steps : List BuildStep) : Prop where
  commands_refer : (run .empty steps).finish.Scoped
  given_refer : ∀ before step between later arg,
    steps = before ++ step :: between ++ later →
    (apply (run .empty before) step).1 = .ok (some arg) →
    (run .empty (before ++ step :: between)).Reaches [arg]
  coins_made : ∀ before recipients amounts later k c i j,
    steps = before ++ .paySui recipients amounts :: later →
    (run .empty before).finish.commands.length ≤ k →
    (apply (run .empty before) (.paySui recipients amounts)).2.finish.commands[k]? = some c →
    .nestedResult i j ∈ c.arguments →
    ∃ places, (run .empty steps).finish.commands[i.toNat]? = some (.splitCoins .gasCoin places) ∧
      j.toNat < places.length

/-- Whichever operations fail, no reference dangles and none points ahead. -/
theorem run_keeps_references {steps : List BuildStep} (supplied : Supplied .empty steps) :
    KeepsReferences steps where
  commands_refer := run_scoped (fun k c there => nomatch there) supplied
  given_refer := by
    rintro before step between later arg rfl given
    obtain ⟨-, reach, -⟩ := supplied_append.mp (supplied_append.mp supplied).1
    rw [run_append]
    exact (reaches_of_apply reach given).grown (run_grown _ between)
  coins_made := by
    rintro before recipients amounts later k c i j rfl new there used
    rw [← after_action, action, after_silently] at there
    obtain ⟨places, split, inside⟩ := nestedResult_of_paySui new there used
    rw [← after_silently, ← action, after_action] at split
    rw [run_append]
    exact ⟨places, getElem?_of_prefix (run_grown _ later).commands split, inside⟩

/-- A package is published, an account is paid, and the right to upgrade is given away. -/
theorem published_and_paid_keeps_references :
    Supplied .empty
      [.publish [] [], .paySui [.framework] [5], .transferArg .framework (.result 0)] ∧
    KeepsReferences [.publish [] [], .paySui [.framework] [5],
      .transferArg .framework (.result 0)] := by
  have supplied : Supplied .empty
      [.publish [] [], .paySui [.framework] [5], .transferArg .framework (.result 0)] := by
    have none_needed (b : Builder) : b.Reaches [] := fun _ member => nomatch member
    refine ⟨none_needed _, none_needed _, ?_, trivial⟩
    obtain ⟨-, next, content, added⟩ | ⟨full, -⟩ := appendCommand_cases (.publish [] []) .empty
    · have published : (apply .empty (.publish [] [])).2 = next := by
        rw [apply_of_command? rfl, added]
      have there : next.Reaches [.result 0] := by
        simp [Reaches, Argument.Within, content]
      rw [published]
      exact there.grown (apply_grown _ _)
    · exact absurd full (by decide)
  exact ⟨supplied, run_keeps_references supplied⟩

end BuildStep

end MoveWire
