import MoveWire.Proofs.Transaction.Wire
import MoveWire.Proofs.Wire.WholeBuffer

/-!
Which transactions have a byte form, and which forms can be read back. Writing looks at numbers
only; reading looks at the names in types too, and at how deep the types nest.
-/

namespace MoveWire

theorem TypeTag.readable_iff {tag : TypeTag} :
    tag.Readable ↔ (∀ name ∈ tag.names, Move.isIdentifier name) ∧ tag.depth ≤ 128 :=
  ⟨fun h => ⟨h.names, h.depth⟩, fun h => ⟨h.1, h.2⟩⟩

namespace TransactionData

/-- Something does not fit its field: the budget a word, or a length its count. -/
def TooLarge (d : TransactionData) : Prop :=
  2 ^ 64 ≤ d.gasData.budget.toNat ∨ ∃ n ∈ d.lengths, 2 ^ 32 ≤ n

instance (d : TransactionData) : Decidable d.TooLarge := inferInstanceAs (Decidable (_ ∨ _))

/-- All names in the types are identifiers, and no type nests deeper than 128 levels. -/
def WellTyped (d : TransactionData) : Prop :=
  ∀ tag ∈ d.typeTags, (∀ name ∈ tag.names, Move.isIdentifier name) ∧ tag.depth ≤ 128

instance (d : TransactionData) : Decidable d.WellTyped := inferInstanceAs (Decidable (∀ _ ∈ _, _))

theorem fits_iff {d : TransactionData} : domain.Fits d ↔ ¬d.TooLarge := by
  simp [domain, TooLarge]

theorem readable_iff {d : TransactionData} : domain.Readable d ↔ d.WellTyped := by
  simp only [domain, WellTyped, TypeTag.readable_iff]

/-- Writing fails exactly on what is too large. Any other transaction has a form, which is read
back as the same transaction if it is well typed, and is refused as invalid if it is not. -/
theorem round_trip_exact_domain (d : TransactionData) :
    ((∃ cause, codec.encode d = .error (.range cause)) ↔ d.TooLarge) ∧
      (¬d.TooLarge → ∃ form, codec.encode d = .ok form ∧
        ((∃ back, codec.decode form = .ok back ∧ back.Same d) ↔ d.WellTyped) ∧
        ((∃ cause, codec.decode form = .error (.invalid cause)) ↔ ¬d.WellTyped)) := by
  obtain ⟨has_form, fails⟩ := (codec_conforms.carries d).form_if
  rw [fits_iff] at has_form fails
  refine ⟨⟨?_, fun large => fails (not_not_intro large)⟩, fun fits => ?_⟩
  · rintro ⟨cause, failed⟩
    refine Classical.byContradiction fun fits => ?_
    obtain ⟨form, written⟩ := has_form fits
    cases failed.symm.trans written
  · obtain ⟨form, written⟩ := has_form fits
    refine ⟨form, written, ?_⟩
    by_cases typed : d.WellTyped
    · have read := codec_conforms.decode_of_readable written (readable_iff.mpr typed)
      refine ⟨iff_of_true ⟨_, read, d.undeclared_same⟩ typed, iff_of_false ?_ (not_not_intro typed)⟩
      rintro ⟨cause, refused⟩
      cases read.symm.trans refused
    · obtain ⟨cause, refused⟩ :=
        codec_conforms.decode_of_unreadable written (readable_iff.not.mpr typed)
      refine ⟨iff_of_false ?_ typed, iff_of_true ⟨cause, refused⟩ typed⟩
      rintro ⟨back, read, -⟩
      cases read.symm.trans refused

/-- A transaction that puts its one input, which is declared of a type, into a vector. -/
def ofItemType (item : TypeTag) (budget : U128) : TransactionData :=
  .v1 ⟨.programmable ⟨[.pure ⟨[7, 0], some .u16⟩], [.makeMoveVec (some item) [.input 0]]⟩,
    .framework, ⟨[], .stdlib, 1000, budget⟩, .epoch 9⟩

/-- The same of coins, inside of `n` vectors. -/
def ofNestedCoins (n : Nat) : TransactionData :=
  ofItemType (Nat.repeat .vector n (.struct .framework "coin" "Coin" [])) 5000

/-- The same of a struct whose name has a blank. -/
def ofMisnamed : TransactionData := ofItemType (.struct .framework "coin" "Gold Coin" [.u64]) 5000

/-- Coins inside of 127 vectors are read back, inside of one more they are refused, and so is a
misnamed struct; a budget of 65 bits has no form. -/
theorem round_trip_at_limits :
    (¬(ofNestedCoins 127).TooLarge ∧ ∃ form, codec.encode (ofNestedCoins 127) = .ok form ∧
      ∃ back, codec.decode form = .ok back ∧ back.Same (ofNestedCoins 127)) ∧
    (¬(ofNestedCoins 128).TooLarge ∧ ∃ form, codec.encode (ofNestedCoins 128) = .ok form ∧
      ∃ cause, codec.decode form = .error (.invalid cause)) ∧
    (¬ofMisnamed.TooLarge ∧ ∃ form, codec.encode ofMisnamed = .ok form ∧
      ∃ cause, codec.decode form = .error (.invalid cause)) ∧
    ∃ cause, codec.encode (ofItemType .u8 (.ofNat 128 (2 ^ 64))) = .error (.range cause) := by
  have deep : ¬(ofNestedCoins 127).TooLarge := by decide +kernel
  have deeper : ¬(ofNestedCoins 128).TooLarge := by decide +kernel
  have small : ¬ofMisnamed.TooLarge := by decide +kernel
  obtain ⟨form, written, back, -⟩ := (round_trip_exact_domain (ofNestedCoins 127)).2 deep
  obtain ⟨form', written', -, refused⟩ := (round_trip_exact_domain (ofNestedCoins 128)).2 deeper
  obtain ⟨form'', written'', -, refused'⟩ := (round_trip_exact_domain ofMisnamed).2 small
  exact ⟨⟨deep, form, written, back.mpr (by decide +kernel)⟩,
    ⟨deeper, form', written', refused.mpr (by decide +kernel)⟩,
    ⟨small, form'', written'', refused'.mpr (by decide +kernel)⟩,
    (round_trip_exact_domain (ofItemType .u8 (.ofNat 128 (2 ^ 64)))).1.mpr (by decide +kernel)⟩

end TransactionData

end MoveWire
