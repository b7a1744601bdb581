import MoveWire.Proofs.Move.TypeTag.Wire
import MoveWire.Proofs.Transaction.Content
import MoveWire.Proofs.Wire.Union

/-!
The laws of the byte form of transactions, part by part. A transaction has a form when its budget
and all its lengths fit their fields, and the form can be read back when all its types can.
-/

namespace MoveWire

/-- The domain of values that count lengths and hold types. -/
def Domain.counting {α : Type} (lengths : α → List Nat) (typeTags : α → List TypeTag)
    (normal : α → α) : Domain α where
  Fits a := ∀ n ∈ lengths a, n < 2 ^ 32
  Readable a := ∀ tag ∈ typeTags a, tag.Readable
  normal := normal

theorem Argument.variants_partition : Variant.Partition variants .all where
  few := by decide
  conforms := by
    have pair := Codec.u16_conforms.pair_all Codec.u16_conforms
    simp only [variants, List.forall_mem_cons]
    exact ⟨⟨.all, Variant.constant_conforms trivial trivial rfl⟩,
      ⟨.all, .all Codec.u16_conforms fun a p => by cases a <;> simp [eq_comm]⟩,
      ⟨.all, .all Codec.u16_conforms fun a p => by cases a <;> simp [eq_comm]⟩,
      ⟨.all, .all pair fun a p => by cases a <;> simp [Prod.ext_iff, eq_comm]⟩, by simp⟩
  covers a := by cases a <;> simp [variants, Variant.constant]
  apart := by simp [variants, Variant.constant]

theorem Argument.codec_conforms : codec.Conforms .all :=
  .union .one "Argument" variants_partition

theorem ObjectArg.variants_partition : Variant.Partition variants .all where
  few := by decide
  conforms := by
    simp only [variants, List.forall_mem_cons]
    exact ⟨⟨.all, .all ObjectRef.codec_conforms fun a p => by cases a <;> simp [eq_comm]⟩,
      ⟨.all, .all SharedObjectRef.codec_conforms fun a p => by cases a <;> simp [eq_comm]⟩,
      ⟨.all, .all ObjectRef.codec_conforms fun a p => by cases a <;> simp [eq_comm]⟩, by simp⟩
  covers a := by cases a <;> simp [variants]
  apart := by simp [variants]

theorem ObjectArg.codec_conforms : codec.Conforms .all :=
  .union .one "ObjectArg" variants_partition

theorem CallArg.variants_partition :
    Variant.Partition variants (.counting lengths (fun _ => []) undeclared) where
  few := by decide
  conforms := by
    simp only [variants, List.forall_mem_cons]
    refine ⟨⟨_, Codec.bytes_conforms, fun _ => rfl, fun {a p} h => ?_, fun {a p} h => ?_,
        fun {a p} h => ?_⟩,
      ⟨_, ObjectArg.codec_conforms, fun _ => rfl, fun {a p} h => ?_, fun {a p} h => ?_,
        fun {a p} h => ?_⟩, by simp⟩
    all_goals cases a <;> cases h
    all_goals simp [Domain.counting, lengths, undeclared]
  covers a := by cases a <;> simp [variants]
  apart := by simp [variants]

/-- A pure input comes back without a declared type. -/
theorem CallArg.codec_conforms : codec.Conforms (.counting lengths (fun _ => []) undeclared) :=
  .union .one "CallArg" variants_partition

theorem MoveCall.codec_conforms :
    MoveCall.codec.Conforms (.counting lengths typeArguments id) := by
  have fields := Address.codec_conforms.pair (Codec.string_conforms.pair
    (Codec.string_conforms.pair
      (TypeTag.codec_conforms.vector.pair Argument.codec_conforms.vector_all)))
  refine (fields.map fun _ => rfl).congr (fun c => ?_) (fun c => ?_) fun c => ?_
  · simp only [Domain.counting, lengths, List.forall_mem_cons, List.forall_mem_append,
      List.forall_mem_flatMap]
    simp [TypeTag.domainWithin, and_assoc]
  · simp [Domain.counting, TypeTag.domainWithin, TypeTag.Readable]
  · simp [Domain.counting, TypeTag.domainWithin]

theorem Command.variants_exact : ∀ v ∈ variants, v.Exact := by
  simp only [variants, List.forall_mem_cons]
  refine ⟨fun a p => ?_, fun a p => ?_, fun a p => ?_, fun a p => ?_, fun a p => ?_,
    fun a p => ?_, fun a p => ?_, by simp⟩
  all_goals cases a <;> simp [asMoveCall?, Prod.ext_iff, eq_comm]

theorem Command.variants_partition :
    Variant.Partition variants (.counting lengths typeTags id) where
  few := by decide
  conforms := by
    have list := Argument.codec_conforms.vector_all
    have code := Codec.u8_conforms.vector_all.vector
    have objects := Address.codec_conforms.vector_all
    have ticket := Address.codec_conforms.pair Argument.codec_conforms
    have exactly := variants_exact
    simp only [variants, List.forall_mem_cons] at exactly ⊢
    obtain ⟨call, transfer, split, merge, publish, collect, upgrade, -⟩ := exactly
    refine ⟨⟨_, .of_exact MoveCall.codec_conforms call ?_ ?_ fun _ => rfl⟩,
      ⟨_, .of_exact (list.pair Argument.codec_conforms) transfer ?_ ?_ fun _ => rfl⟩,
      ⟨_, .of_exact (Argument.codec_conforms.pair list) split ?_ ?_ fun _ => rfl⟩,
      ⟨_, .of_exact (Argument.codec_conforms.pair list) merge ?_ ?_ fun _ => rfl⟩,
      ⟨_, .of_exact (code.pair objects) publish ?_ ?_ ?_⟩,
      ⟨_, .of_exact (TypeTag.codec_conforms.option.pair list) collect ?_ ?_ ?_⟩,
      ⟨_, .of_exact (code.pair (objects.pair ticket)) upgrade ?_ ?_ ?_⟩, by simp⟩
    all_goals intro p
    all_goals simp only [Domain.counting, lengths, typeTags, List.forall_mem_cons,
      List.forall_mem_append, List.forall_mem_flatMap, List.forall_mem_map, Option.mem_toList]
    all_goals simp [TypeTag.domainWithin, TypeTag.Readable, and_assoc]
  covers a := by cases a <;> simp [variants, asMoveCall?]
  apart := by simp [variants, asMoveCall?]

theorem Command.codec_conforms : codec.Conforms (.counting lengths typeTags id) :=
  .union .one "Command" variants_partition

theorem ProgrammableTransaction.codec_conforms :
    ProgrammableTransaction.codec.Conforms (.counting lengths typeTags undeclared) := by
  have lists := CallArg.codec_conforms.vector.pair Command.codec_conforms.vector
  refine (lists.map fun _ => rfl).congr (fun pt => ?_) (fun pt => ?_) fun pt => ?_
  · simp only [Domain.counting, lengths, List.forall_mem_cons, List.forall_mem_append,
      List.forall_mem_flatMap]
    simp only [Domain.map, Domain.pair, Domain.vector]
    tauto
  · simp only [Domain.counting, typeTags, List.forall_mem_flatMap]
    simp
  · simp [Domain.counting, undeclared]

/-- A mark of the chain holds nothing that could be too large or unreadable. -/
theorem TransactionKind.mark_conforms {kind : TransactionKind} (lengths_nil : kind.lengths = [])
    (typeTags_nil : kind.typeTags = []) (same : kind.undeclared = kind) :
    (Variant.constant kind).Conforms .all (.counting lengths typeTags undeclared) :=
  Variant.constant_conforms (by simp [Domain.counting, lengths_nil])
    (by simp [Domain.counting, typeTags_nil]) same

theorem TransactionKind.variants_partition :
    Variant.Partition variants (.counting lengths typeTags undeclared) where
  few := by decide
  conforms := by
    simp only [variants, List.forall_mem_cons]
    refine ⟨⟨_, .of_exact ProgrammableTransaction.codec_conforms (fun a p => ?_) (fun _ => .rfl)
      (fun _ => .rfl) fun _ => rfl⟩, ⟨.all, mark_conforms rfl rfl rfl⟩,
      ⟨.all, mark_conforms rfl rfl rfl⟩, ⟨.all, mark_conforms rfl rfl rfl⟩, by simp⟩
    cases a <;> simp [eq_comm]
  covers a := by cases a <;> simp [variants, Variant.constant]
  apart := by simp [variants, Variant.constant]

theorem TransactionKind.codec_conforms : codec.Conforms (.counting lengths typeTags undeclared) :=
  .union .one "TransactionKind" variants_partition

theorem Expiration.variants_partition : Variant.Partition variants .all where
  few := by decide
  conforms := by
    simp only [variants, List.forall_mem_cons]
    exact ⟨⟨.all, Variant.constant_conforms trivial trivial rfl⟩,
      ⟨.all, .all Codec.u64_conforms fun a p => by cases a <;> simp [eq_comm]⟩, by simp⟩
  covers a := by cases a <;> simp [variants, Variant.constant]
  apart := by simp [variants, Variant.constant]

theorem Expiration.codec_conforms : codec.Conforms .all :=
  .union .one "TransactionExpiration" variants_partition

namespace GasData

/-- The fields of the form, of which the last holds the budget if that fits. -/
def narrow (g : GasData) : List ObjectRef × Address × UInt64 × UInt64 :=
  (g.payment, g.owner, g.price, UInt64.ofNat g.budget.toNat)

/-- The gas data of these fields. -/
def widen : List ObjectRef × Address × UInt64 × UInt64 → GasData
  | (payment, owner, price, budget) => ⟨payment, owner, price, BitVec.ofNat 128 budget.toNat⟩

theorem budget_widen (v : List ObjectRef × Address × UInt64 × UInt64) :
    (widen v).budget.toNat = v.2.2.2.toNat := by
  obtain ⟨payment, owner, price, budget⟩ := v
  have bound := budget.toNat_lt
  exact Nat.mod_eq_of_lt (by omega)

theorem narrow_widen (v : List ObjectRef × Address × UInt64 × UInt64) : (widen v).narrow = v := by
  rw [narrow, budget_widen, UInt64.ofNat_toNat]
  rfl

theorem widen_narrow {g : GasData} (fits : g.budget.toNat < 2 ^ 64) : widen g.narrow = g := by
  obtain ⟨payment, owner, price, budget⟩ := g
  have word : (UInt64.ofNat budget.toNat).toNat = budget.toNat := UInt64.toNat_ofNat_of_lt' fits
  simp [narrow, widen, word]

theorem write_eq {g : GasData} (fits : g.budget.toNat < 2 ^ 64) :
    codec.write g = fields.write g.narrow := by
  simp only [codec, budgetField, if_pos fits]
  rfl

theorem write_large {g : GasData} (large : ¬g.budget.toNat < 2 ^ 64) :
    codec.write g = .error (.range (.gasBudget g.budget.toNat)) := by
  simp only [codec, budgetField, if_neg large]
  rfl

theorem fields_conforms : fields.Conforms (.plain fun v => v.1.length < 2 ^ 32) := by
  have words := Codec.u64_conforms.pair_all Codec.u64_conforms
  have rest := Address.codec_conforms.pair_all words
  exact (ObjectRef.codec_conforms.vector_all.pair rest).congr (by simp) (by simp) (by simp)

/-- A budget that does not fit its field is found before a count of payments that does not. -/
theorem codec_conforms : codec.Conforms
    (.plain fun g => g.budget.toNat < 2 ^ 64 ∧ g.payment.length < 2 ^ 32) := by
  refine .plain (fun g => ?_) (fun {g form} written start => ?_) fun cursor g next run => ?_
  · by_cases fits : g.budget.toNat < 2 ^ 64
    · rw [write_eq fits]
      exact (fields_conforms.carries g.narrow).form_if.congr (and_iff_right fits).symm
    · rw [write_large fits]
      exact ⟨fun both => absurd both.1 fits, fun _ => ⟨_, rfl⟩⟩
  · by_cases fits : g.budget.toNat < 2 ^ 64
    · rw [write_eq fits] at written
      have read := (fields_conforms.takes written trivial start).map widen
      simp only [Domain.plain, id, widen_narrow fits] at read
      exact read
    · rw [write_large fits] at written
      cases written
  · obtain ⟨v, read, rfl⟩ := Stateful.map_eq_ok (f := widen) run
    have fits : (widen v).budget.toNat < 2 ^ 64 := budget_widen v ▸ v.2.2.2.toNat_lt
    rw [write_eq fits, narrow_widen]
    exact fields_conforms.canonical _ _ _ read

end GasData

/-- The domain of transactions: the budget fits its field, and the lengths fit their counts. -/
def TransactionData.domain : Domain TransactionData where
  Fits d := d.gasData.budget.toNat < 2 ^ 64 ∧ ∀ n ∈ d.lengths, n < 2 ^ 32
  Readable d := ∀ tag ∈ d.typeTags, tag.Readable
  normal := undeclared

theorem TransactionDataV1.codec_conforms : TransactionDataV1.codec.Conforms
    (TransactionData.domain.map TransactionData.latest .v1) := by
  have rest := Address.codec_conforms.pair (GasData.codec_conforms.pair Expiration.codec_conforms)
  have fields := TransactionKind.codec_conforms.pair rest
  refine (fields.map fun _ => rfl).congr (fun d => ?_) (fun d => ?_) fun d => ?_
  · simp only [TransactionData.domain, Domain.map, TransactionData.lengths, List.forall_mem_cons]
    simp only [Domain.pair, Domain.counting, Domain.plain, Domain.all]
    tauto
  · exact and_iff_left ⟨trivial, trivial, trivial⟩
  · rfl

theorem TransactionData.variants_partition : Variant.Partition variants domain where
  few := by decide
  conforms := by
    simp only [variants, List.forall_mem_cons]
    exact ⟨⟨_, .of_exact TransactionDataV1.codec_conforms (fun a p => by cases a; simp [eq_comm])
      (fun _ => .rfl) (fun _ => .rfl) fun _ => rfl⟩, by simp⟩
  covers a := by simp [variants]
  apart := by simp [variants]

theorem TransactionData.codec_conforms : codec.Conforms domain :=
  .union .one "TransactionData" variants_partition

end MoveWire
