import MoveWire.Hash.Blake2b
import MoveWire.Transaction.Command

/-!
Transactions: what is done, who sends it, who pays for it, and until when it may run. The budget is
held wider than its field, and one that does not fit has no byte form.
-/

namespace MoveWire

/-- A programmable transaction, or a mark of the chain itself that holds nothing. -/
inductive TransactionKind where
  | programmable (pt : ProgrammableTransaction)
  | changeEpoch
  | genesis
  | consensusCommitPrologue
  deriving DecidableEq

structure GasData where
  payment : List ObjectRef
  owner : Address
  price : UInt64
  budget : U128
  deriving DecidableEq

inductive Expiration where
  | none
  | epoch (last : UInt64)
  deriving DecidableEq

/-- The data of a transaction in its only version. -/
structure TransactionDataV1 where
  kind : TransactionKind
  sender : Address
  gasData : GasData
  expiration : Expiration
  deriving DecidableEq

/-- The data of a transaction under the mark of its version. -/
inductive TransactionData where
  | v1 (data : TransactionDataV1)
  deriving DecidableEq

namespace TransactionKind

def variants : List (Variant TransactionKind) := [
  ⟨ProgrammableTransaction, ProgrammableTransaction.codec, .programmable,
    fun | .programmable pt => some pt | _ => none⟩,
  .constant .changeEpoch,
  .constant .genesis,
  .constant .consensusCommitPrologue]

def codec : Codec TransactionKind := .union .one "TransactionKind" variants

def asProgrammable? : TransactionKind → Option ProgrammableTransaction
  | .programmable pt => some pt
  | _ => none

def isSystem (kind : TransactionKind) : Bool := kind.asProgrammable?.isNone

/-- The same kind without declared types of pure inputs. -/
def undeclared : TransactionKind → TransactionKind
  | .programmable pt => .programmable pt.undeclared
  | kind => kind

def toJson : TransactionKind → Json
  | .programmable pt => .record [("ProgrammableTransaction", pt.toJson)]
  | .changeEpoch => .string "ChangeEpoch"
  | .genesis => .string "Genesis"
  | .consensusCommitPrologue => .string "ConsensusCommitPrologue"

end TransactionKind

namespace GasData

/-- The budget as a field of 64 bits. -/
def budgetField (budget : U128) : Fallible UInt64 :=
  if budget.toNat < 2 ^ 64 then .ok (UInt64.ofNat budget.toNat)
  else .error (.range (.gasBudget budget.toNat))

def fields : Codec (List ObjectRef × Address × UInt64 × UInt64) :=
  ObjectRef.codec.vector.pair (Address.codec.pair (Codec.u64.pair Codec.u64))

/-- The budget is looked at before everything else. -/
def codec : Codec GasData where
  write g := do
    let budget ← budgetField g.budget
    fields.write (g.payment, g.owner, g.price, budget)
  read := (fun (payment, owner, price, budget) =>
    ⟨payment, owner, price, BitVec.ofNat 128 budget.toNat⟩) <$> fields.read

def toJson (g : GasData) : Json := .record [
  ("payment", .array (g.payment.map ObjectRef.toJson)),
  ("owner", g.owner.toJson),
  ("price", .ofNat g.price.toNat),
  ("budget", .ofNat g.budget.toNat)]

end GasData

namespace Expiration

def variants : List (Variant Expiration) := [
  .constant .none,
  ⟨UInt64, Codec.u64, .epoch, fun | .epoch last => some last | .none => Option.none⟩]

def codec : Codec Expiration := .union .one "TransactionExpiration" variants

def toJson : Expiration → Json
  | .none => .string "None"
  | .epoch last => .record [("Epoch", .ofNat last.toNat)]

end Expiration

namespace TransactionDataV1

def codec : Codec TransactionDataV1 :=
  (TransactionKind.codec.pair (Address.codec.pair
    (GasData.codec.pair Expiration.codec))).map
    (fun (kind, sender, gasData, expiration) => ⟨kind, sender, gasData, expiration⟩)
    fun d => (d.kind, d.sender, d.gasData, d.expiration)

def toJson (d : TransactionDataV1) : Json := .record [
  ("kind", d.kind.toJson),
  ("sender", d.sender.toJson),
  ("gas_data", d.gasData.toJson),
  ("expiration", d.expiration.toJson)]

end TransactionDataV1

/-- The digest of a byte form of transaction data, under a mark of its own. -/
def TransactionDigest.ofDataBytes (bytes : Bytes) : TransactionDigest :=
  ⟨Hash.Blake2b.hash (Text.Utf8.encode "TransactionData::" ++ bytes)⟩

namespace TransactionData

/-- The data whatever its version. -/
def latest : TransactionData → TransactionDataV1
  | .v1 data => data

def kind (d : TransactionData) : TransactionKind := d.latest.kind

def sender (d : TransactionData) : Address := d.latest.sender

def gasData (d : TransactionData) : GasData := d.latest.gasData

def expiration (d : TransactionData) : Expiration := d.latest.expiration

/-- A programmable transaction that its sender pays for, without an end. -/
def ofProgrammable (sender : Address) (payment : List ObjectRef) (pt : ProgrammableTransaction)
    (budget price : UInt64) : TransactionData :=
  .v1 ⟨.programmable pt, sender, ⟨payment, sender, price, BitVec.ofNat 128 budget.toNat⟩, .none⟩

def withExpiration (d : TransactionData) (expiration : Expiration) : TransactionData :=
  .v1 { d.latest with expiration }

def withKind (d : TransactionData) (kind : TransactionKind) : TransactionData :=
  .v1 { d.latest with kind }

/-- The same data without declared types of pure inputs. -/
def undeclared (d : TransactionData) : TransactionData := d.withKind d.kind.undeclared

def variants : List (Variant TransactionData) := [
  ⟨TransactionDataV1, TransactionDataV1.codec, .v1, fun | .v1 data => some data⟩]

def codec : Codec TransactionData := .union .one "TransactionData" variants

def digest (d : TransactionData) : Fallible TransactionDigest :=
  TransactionDigest.ofDataBytes <$> codec.encode d

def toJson (d : TransactionData) : Json := .record [("V1", d.latest.toJson)]

end TransactionData

end MoveWire
