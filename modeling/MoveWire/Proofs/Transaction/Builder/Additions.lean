import MoveWire.Proofs.Transaction.Wire
import MoveWire.Transaction.Builder

/-!
Single additions to a builder. An input is looked up by what it holds and added only if it is not
there yet; a command is always added; both are refused where no index of 16 bits is left.
-/

namespace MoveWire

namespace InputTable

variable {t : InputTable} {arg : CallArg}

theorem place?_eq_some_iff {i : Nat} :
    t.place? arg = some i ↔ ∃ held, t.toList[i]? = some held ∧ held.Same arg := by
  rw [place?, t.places_iff, Option.map_eq_some_iff]
  simp only [toList, Array.getElem?_toList, CallArg.same_iff]

theorem place?_eq_none_iff : t.place? arg = none ↔ ∀ held ∈ t.toList, ¬held.Same arg := by
  rw [Option.eq_none_iff_forall_ne_some]
  constructor
  · intro absent held member same
    obtain ⟨i, found⟩ := List.mem_iff_getElem?.mp member
    exact absent i (place?_eq_some_iff.mpr ⟨held, found, same⟩)
  · intro absent i found
    obtain ⟨held, there, same⟩ := place?_eq_some_iff.mp found
    exact absent held (List.mem_of_getElem? there) same

@[simp] theorem toList_push (fresh : t.place? arg = none) :
    (t.push arg fresh).toList = t.toList ++ [arg] :=
  Array.toList_push

theorem distinct (t : InputTable) : t.toList.Pairwise fun a b => ¬a.Same b := by
  rw [List.pairwise_iff_getElem]
  intro i j hi hj before same
  have first : t.place? t.toList[j] = some i :=
    place?_eq_some_iff.mpr ⟨_, List.getElem?_eq_getElem hi, same⟩
  have second : t.place? t.toList[j] = some j :=
    place?_eq_some_iff.mpr ⟨_, List.getElem?_eq_getElem hj, CallArg.same_iff.mpr rfl⟩
  have := Option.some.inj (first.symm.trans second)
  omega

end InputTable

namespace Building

variable {α : Type}

/-- The builder that an action leaves, whether it succeeds or fails. -/
def after (action : Building α) (b : Builder) : Builder :=
  match action b with
  | .ok _ next => next
  | .error _ next => next

theorem slot_of_lt (what : String) {index : Nat} (h : index < 2 ^ 16) :
    slot what index = .ok (UInt16.ofNat index) := if_pos h

theorem slot_of_le (what : String) {index : Nat} (h : 2 ^ 16 ≤ index) :
    slot what index = .error (.range (.slot what index)) := if_neg (Nat.not_lt.mpr h)

theorem inputSlot_of_lt {index : Nat} (h : index < 2 ^ 16) :
    inputSlot index = .ok (.input (UInt16.ofNat index)) := by
  rw [inputSlot, slot_of_lt _ h]
  rfl

theorem inputSlot_of_le {index : Nat} (h : 2 ^ 16 ≤ index) :
    inputSlot index = .error (.range (.slot "input" index)) := by
  rw [inputSlot, slot_of_le _ h]
  rfl

/-- What asking a place for an input does: it finds the place of an equal input, or takes the place
behind all others, or fails where no index is left. -/
theorem addInput_cases (arg : CallArg) (b : Builder) :
    (∃ i held, i < 2 ^ 16 ∧ b.finish.inputs[i]? = some held ∧ held.Same arg ∧
      addInput arg b = .ok (.input (UInt16.ofNat i)) b) ∨
    ((∀ held ∈ b.finish.inputs, ¬held.Same arg) ∧ b.finish.inputs.length < 2 ^ 16 ∧
      ∃ next, next.finish = { b.finish with inputs := b.finish.inputs ++ [arg] } ∧
        addInput arg b = .ok (.input (UInt16.ofNat b.finish.inputs.length)) next) ∨
    (2 ^ 16 ≤ b.finish.inputs.length ∧
      ∃ index, (b.finish.inputs.length ≤ 2 ^ 16 →
          (∀ held ∈ b.finish.inputs, ¬held.Same arg) ∧ index = 2 ^ 16) ∧
        addInput arg b = .error (.range (.slot "input" index)) b) := by
  unfold addInput
  split
  · next i found =>
    obtain ⟨held, there, same⟩ := InputTable.place?_eq_some_iff.mp found
    have inside : i < b.finish.inputs.length := (List.getElem?_eq_some_iff.mp there).1
    by_cases reach : i < 2 ^ 16
    · rw [inputSlot_of_lt reach]
      exact .inl ⟨i, held, reach, there, same, rfl⟩
    · rw [inputSlot_of_le (Nat.not_lt.mp reach)]
      exact .inr (.inr ⟨by omega, i, fun short => by omega, rfl⟩)
  · next absent =>
    have fresh := InputTable.place?_eq_none_iff.mp absent
    rw [show b.inputs.size = b.finish.inputs.length from rfl]
    by_cases room : b.finish.inputs.length < 2 ^ 16
    · rw [inputSlot_of_lt room]
      exact .inr (.inl ⟨fresh, room, _, by simp [Builder.finish], rfl⟩)
    · rw [inputSlot_of_le (Nat.not_lt.mp room)]
      exact .inr (.inr ⟨by omega, _, fun short => ⟨fresh, by omega⟩, rfl⟩)

theorem appendCommand_cases (command : Command) (b : Builder) :
    (b.finish.commands.length < 2 ^ 16 ∧
      ∃ next, next.finish = { b.finish with commands := b.finish.commands ++ [command] } ∧
        appendCommand command b = .ok (UInt16.ofNat b.finish.commands.length) next) ∨
    (2 ^ 16 ≤ b.finish.commands.length ∧
      appendCommand command b = .error (.range (.slot "command" b.finish.commands.length)) b) := by
  unfold appendCommand
  rw [show b.commands.size = b.finish.commands.length from rfl]
  by_cases room : b.finish.commands.length < 2 ^ 16
  · rw [slot_of_lt _ room]
    exact .inl ⟨room, _, by simp [Builder.finish], rfl⟩
  · rw [slot_of_le _ (Nat.not_lt.mp room)]
    exact .inr ⟨Nat.not_lt.mp room, rfl⟩

end Building

end MoveWire
