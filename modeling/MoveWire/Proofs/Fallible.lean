import Mathlib.Data.List.Forall2
import MoveWire.Wire.Error

/-!
Results that may fail, one behind the other and item by item: all is well exactly when each part
is, and the first failure is the failure of the whole. Actions on a state go the same way: the
second starts in the state that the first leaves.
-/

namespace MoveWire.Fallible

variable {ε α β : Type}

theorem ok_bind (a : α) (k : α → Except ε β) : (Except.ok a >>= k) = k a := rfl

theorem bind_eq_ok {x : Except ε α} {k : α → Except ε β} {b : β} :
    (x >>= k) = .ok b ↔ ∃ a, x = .ok a ∧ k a = .ok b := by
  cases x <;> simp [bind, Except.bind]

theorem forM_eq_ok {f : α → Except ε Unit} {as : List α} :
    as.forM f = .ok () ↔ ∀ a ∈ as, f a = .ok () := by
  induction as with
  | nil => simp [pure, Except.pure]
  | cons a rest ih =>
    change (f a >>= fun _ => rest.forM f) = _ ↔ _
    rw [bind_eq_ok, List.forall_mem_cons, ← ih]
    constructor
    · rintro ⟨⟨⟩, first, others⟩
      exact ⟨first, others⟩
    · rintro ⟨first, others⟩
      exact ⟨(), first, others⟩

theorem mapM_eq_ok {f : α → Except ε β} {as : List α} {bs : List β} :
    as.mapM f = .ok bs ↔ List.Forall₂ (fun a b => f a = .ok b) as bs := by
  induction as generalizing bs with
  | nil => simp [pure, Except.pure, eq_comm]
  | cons a as ih =>
    simp only [List.mapM_cons, bind_eq_ok, ih, List.forall₂_cons_left_iff]
    constructor
    · rintro ⟨b, first, rest, others, given⟩
      exact ⟨b, rest, first, others, (Except.ok.inj given).symm⟩
    · rintro ⟨b, rest, first, others, rfl⟩
      exact ⟨b, first, rest, others, rfl⟩

theorem mapM_congr {f g : α → Except ε β} {as : List α} (h : ∀ a ∈ as, f a = g a) :
    as.mapM f = as.mapM g := by
  induction as with
  | nil => rfl
  | cons a as ih =>
    obtain ⟨first, others⟩ := List.forall_mem_cons.mp h
    rw [List.mapM_cons, List.mapM_cons, first, ih others]

/-- What is written item by item is read back item by item. -/
theorem mapM_map_eq_ok {f : β → Except ε α} {g : α → β} {as : List α}
    (h : ∀ a ∈ as, f (g a) = .ok a) : (as.map g).mapM f = .ok as := by
  rw [mapM_eq_ok, List.forall₂_map_left_iff, List.forall₂_same]
  exact h

theorem exists_mapM_eq_ok {f : α → Fallible β} {as : List α} :
    (∃ bs, as.mapM f = .ok bs) ↔ ∀ a ∈ as, ∃ b, f a = .ok b := by
  induction as with
  | nil => simp [pure, Except.pure]
  | cons a as ih =>
    simp only [List.forall_mem_cons, ← ih, List.mapM_cons, bind_eq_ok]
    constructor
    · rintro ⟨bs, b, first, rest, others, -⟩
      exact ⟨⟨b, first⟩, rest, others⟩
    · rintro ⟨⟨b, first⟩, rest, others⟩
      exact ⟨b :: rest, b, first, rest, others, rfl⟩

/-- Each item with its result. -/
theorem mapM_pair_eq_ok {f : α → Fallible β} {as : List α} {pairs : List (α × β)} :
    (as.mapM fun a => do return (a, ← f a)) = .ok pairs ↔
      as = pairs.map Prod.fst ∧ ∀ p ∈ pairs, f p.1 = .ok p.2 := by
  have item {a : α} {p : α × β} : (do return (a, ← f a)) = .ok p ↔ a = p.1 ∧ f p.1 = .ok p.2 := by
    rw [bind_eq_ok]
    constructor
    · rintro ⟨b, given, rest⟩
      cases rest
      exact ⟨rfl, given⟩
    · rintro ⟨rfl, given⟩
      exact ⟨p.2, given, rfl⟩
  simp only [mapM_eq_ok, item]
  induction as generalizing pairs with
  | nil => cases pairs <;> simp
  | cons a as ih => cases pairs <;> simp [ih]; tauto

theorem length_of_mapM {f : α → Fallible β} {as : List α} {bs : List β}
    (h : as.mapM f = .ok bs) : bs.length = as.length :=
  (mapM_eq_ok.mp h).length_eq.symm

theorem getElem?_of_mapM {f : α → Fallible β} {as : List α} {bs : List β}
    (h : as.mapM f = .ok bs) {i : Nat} {a : α} (there : as[i]? = some a) :
    ∃ b, bs[i]? = some b ∧ f a = .ok b := by
  have each := mapM_eq_ok.mp h
  obtain ⟨inside, rfl⟩ := List.getElem?_eq_some_iff.mp there
  have reach : i < bs.length := by
    rw [← each.length_eq]
    exact inside
  exact ⟨bs[i], List.getElem?_eq_getElem reach, each.get inside reach⟩

/-- Every failure that a result may have is of one kind. -/
def FailsOnly (p : ε → Prop) (x : Except ε α) : Prop := ∀ e, x = .error e → p e

variable {p : ε → Prop}

theorem FailsOnly.ok (a : α) : FailsOnly p (.ok a) := nofun

theorem FailsOnly.error {e : ε} (h : p e) : FailsOnly p (.error e : Except ε α) := by
  rintro _ ⟨⟩
  exact h

theorem FailsOnly.bind {x : Except ε α} {k : α → Except ε β} (first : FailsOnly p x)
    (next : ∀ a, x = .ok a → FailsOnly p (k a)) : FailsOnly p (x >>= k) := by
  cases x with
  | ok a => exact next a rfl
  | error e => exact .error (first e rfl)

/-- What a result gives is good, and its failure, if it is one, is of one kind. -/
structure EndsIn (good : α → Prop) (p : ε → Prop) (x : Except ε α) : Prop where
  gives : ∀ a, x = .ok a → good a
  fails : FailsOnly p x

section EndsIn

variable {good : α → Prop} {better : β → Prop}

theorem EndsIn.ok {a : α} (h : good a) : EndsIn good p (.ok a) := by
  refine ⟨?_, .ok a⟩
  rintro _ ⟨⟩
  exact h

theorem EndsIn.error {e : ε} (h : p e) : EndsIn good p (.error e) := ⟨nofun, .error h⟩

theorem EndsIn.bind {x : Except ε α} {k : α → Except ε β} (first : EndsIn good p x)
    (next : ∀ a, good a → EndsIn better p (k a)) : EndsIn better p (x >>= k) := by
  cases x with
  | ok a => exact next a (first.gives a rfl)
  | error e => exact .error (first.fails e rfl)

theorem EndsIn.map {x : Except ε α} (f : α → β) (first : EndsIn good p x)
    (h : ∀ a, good a → better (f a)) : EndsIn better p (f <$> x) := by
  rw [map_eq_pure_bind]
  exact first.bind fun a fine => .ok (h a fine)

theorem EndsIn.mapM {f : α → Except ε β} {as : List α} (each : ∀ a ∈ as, EndsIn better p (f a)) :
    EndsIn (fun bs => ∀ b ∈ bs, better b) p (as.mapM f) := by
  induction as with
  | nil => exact .ok nofun
  | cons a as ih =>
    obtain ⟨first, others⟩ := List.forall_mem_cons.mp each
    rw [List.mapM_cons]
    refine first.bind fun b fine => (ih others).bind fun bs rest => ?_
    exact .ok (List.forall_mem_cons.mpr ⟨fine, rest⟩)

end EndsIn

theorem FailsOnly.mapM {f : α → Except ε β} {as : List α} (h : ∀ a ∈ as, FailsOnly p (f a)) :
    FailsOnly p (as.mapM f) := by
  have each : ∀ a ∈ as, EndsIn (fun _ => True) p (f a) := fun a member =>
    ⟨fun _ _ => trivial, h a member⟩
  exact (EndsIn.mapM each).fails

end MoveWire.Fallible

namespace MoveWire.Stateful

variable {ε σ α β : Type}

theorem bind_ok {m : EStateM ε σ α} {s next : σ} {a : α} (h : m s = .ok a next)
    (k : α → EStateM ε σ β) : (m >>= k) s = k a next := by
  simp only [bind, EStateM.bind, h]

theorem bind_error {m : EStateM ε σ α} {s next : σ} {e : ε} (h : m s = .error e next)
    (k : α → EStateM ε σ β) : (m >>= k) s = .error e next := by
  simp only [bind, EStateM.bind, h]

theorem bind_eq_ok {m : EStateM ε σ α} {k : α → EStateM ε σ β} {s last : σ} {b : β}
    (h : (m >>= k) s = .ok b last) : ∃ a next, m s = .ok a next ∧ k a next = .ok b last := by
  cases run : m s with
  | ok a next => exact ⟨a, next, rfl, by rwa [bind_ok run] at h⟩
  | error e next => rw [bind_error run] at h; cases h

theorem map_eq_ok {m : EStateM ε σ α} {f : α → β} {s last : σ} {b : β}
    (h : (f <$> m) s = .ok b last) : ∃ a, m s = .ok a last ∧ f a = b := by
  rw [map_eq_pure_bind] at h
  obtain ⟨a, next, run, given⟩ := bind_eq_ok h
  cases given
  exact ⟨a, run, rfl⟩

theorem map_error {m : EStateM ε σ α} {s next : σ} {e : ε} (h : m s = .error e next)
    (f : α → β) : (f <$> m) s = .error e next := by
  rw [map_eq_pure_bind, bind_error h]

end MoveWire.Stateful
