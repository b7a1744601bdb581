import MoveWire.Proofs.Effects
import MoveWire.Proofs.Signing.Wire
import MoveWire.Proofs.Transaction.RoundTrip
import MoveWire.Proofs.Wire.WholeBuffer

/-!
What the decoders of transactions, of effects and of signed transactions accept: nothing but the
form of what they give, and no cut of it and nothing behind it.
-/

namespace MoveWire

/-- The bytes are the form of the value, and nothing else is decoded as the same value. -/
structure Codec.OnlyForm {α : Type} (c : Codec α) (Same : α → α → Prop) (bytes : Bytes) (a : α) :
    Prop where
  encoded : c.encode a = .ok bytes
  only : ∀ other b, c.decode other = .ok b → Same a b → other = bytes

theorem Codec.Conforms.onlyForm_of_decode {α : Type} {c : Codec α} {d : Domain α}
    {Same : α → α → Prop} (h : c.Conforms d) (same : ∀ {a b}, Same a b → d.normal a = d.normal b)
    {bytes : Bytes} {a : α} (read : c.decode bytes = .ok a) : c.OnlyForm Same bytes a where
  encoded := h.encode_of_decode read
  only other b read' equal := by
    have written := (h.encode_eq_iff (h.encode_of_decode read)).mpr (same equal)
    exact Except.ok.inj ((h.encode_of_decode read').symm.trans written)

/-- The form of a transaction that puts its input into a vector of coins in vectors. -/
def TransactionData.coinsForm : Bytes :=
  [0, 0, 1, 0, 2, 7, 0, 1, 5, 1, 6, 6, 7] ++ Address.framework.bytes ++
    [4, 99, 111, 105, 110, 4, 67, 111, 105, 110, 0, 1, 1, 0, 0] ++ Address.framework.bytes ++
    [0] ++ Address.stdlib.bytes ++ Writer.u64 1000 ++ Writer.u64 5000 ++ [1] ++ Writer.u64 9

/-- A failure that cost nothing and changed one object. -/
def Effects.ofFailure : Effects :=
  .v1 ⟨.failure, 0, ⟨0, 0, 0, 0⟩, [], [⟨.framework, 4, ⟨⟨List.replicate 32 5, rfl⟩⟩⟩], [],
    ⟨⟨List.replicate 32 6, rfl⟩⟩⟩

def Effects.failureForm : Bytes :=
  [0, 0, 0, 0, 1, 0, 0, 0] ++ List.replicate 40 0 ++ [0, 1] ++ Address.framework.bytes ++
    Writer.u64 4 ++ 32 :: List.replicate 32 5 ++ [0] ++ 32 :: List.replicate 32 6

/-- The transaction with the coins under its intent, with one signature. -/
def SignedTransaction.ofCoins : SignedTransaction :=
  .ofSignatures (TransactionData.ofNestedCoins 2).undeclared [⟨.zero 64, .zero 32⟩]

def SignedTransaction.coinsForm : Bytes :=
  [0, 0, 0] ++ TransactionData.coinsForm ++ [1, 97] ++ List.replicate 97 0

/-- Decoded bytes are the only form of what they are decoded as, up to declared types, and it is
these bytes that the digest of a transaction is made of. -/
theorem decoded_bytes_are_only_form (bytes : Bytes) :
    (∀ d, TransactionData.codec.decode bytes = .ok d →
      TransactionData.codec.OnlyForm TransactionData.Same bytes d ∧
        d.digest = .ok ⟨Hash.Blake2b.hash (Text.Utf8.encode "TransactionData::" ++ bytes)⟩) ∧
    (∀ e, Effects.codec.decode bytes = .ok e → Effects.codec.OnlyForm Eq bytes e) ∧
    ∀ t, SignedTransaction.codec.decode bytes = .ok t →
      SignedTransaction.codec.OnlyForm SignedTransaction.Same bytes t := by
  refine ⟨fun d read => ⟨?_, ?_⟩, fun e read => ?_, fun t read => ?_⟩
  · exact TransactionData.codec_conforms.onlyForm_of_decode TransactionData.same_iff.mp read
  · rw [TransactionData.digest, TransactionData.codec_conforms.encode_of_decode read]
    rfl
  · exact Effects.codec_conforms.onlyForm_of_decode id read
  · exact SignedTransaction.codec_conforms.onlyForm_of_decode SignedTransaction.same_iff.mp read

theorem coins_form_is_only_form :
    (TransactionData.codec.decode TransactionData.coinsForm =
        .ok (TransactionData.ofNestedCoins 2).undeclared ∧
      TransactionData.codec.OnlyForm TransactionData.Same TransactionData.coinsForm
        (TransactionData.ofNestedCoins 2).undeclared) ∧
    (Effects.codec.decode Effects.failureForm = .ok .ofFailure ∧
      Effects.codec.OnlyForm Eq Effects.failureForm .ofFailure) ∧
    SignedTransaction.codec.decode SignedTransaction.coinsForm = .ok .ofCoins ∧
      SignedTransaction.codec.OnlyForm SignedTransaction.Same SignedTransaction.coinsForm
        .ofCoins := by
  have data : TransactionData.codec.decode TransactionData.coinsForm =
      .ok (TransactionData.ofNestedCoins 2).undeclared := by decide +kernel
  have effects : Effects.codec.decode Effects.failureForm = .ok .ofFailure := by decide +kernel
  have signed : SignedTransaction.codec.decode SignedTransaction.coinsForm = .ok .ofCoins := by
    decide +kernel
  exact ⟨⟨data, ((decoded_bytes_are_only_form _).1 _ data).1⟩,
    ⟨effects, (decoded_bytes_are_only_form _).2.1 _ effects⟩,
    signed, (decoded_bytes_are_only_form _).2.2 _ signed⟩

/-- Of accepted bytes every cut ends too soon, and whatever stands behind them is left over. -/
theorem decoded_bytes_are_framed (bytes : Bytes) :
    (∀ d, TransactionData.codec.decode bytes = .ok d → TransactionData.codec.Frames bytes) ∧
    (∀ e, Effects.codec.decode bytes = .ok e → Effects.codec.Frames bytes) ∧
    ∀ t, SignedTransaction.codec.decode bytes = .ok t → SignedTransaction.codec.Frames bytes :=
  ⟨fun _ read => TransactionData.codec_conforms.frames_of_decode read,
    fun _ read => Effects.codec_conforms.frames_of_decode read,
    fun _ read => SignedTransaction.codec_conforms.frames_of_decode read⟩

example : TransactionData.codec.decode (TransactionData.coinsForm.take 44) =
    .error (.unexpectedEof 13 32 31) := by decide +kernel

theorem coins_form_is_framed : TransactionData.codec.Frames TransactionData.coinsForm ∧
    Effects.codec.Frames Effects.failureForm ∧
    SignedTransaction.codec.Frames SignedTransaction.coinsForm :=
  ⟨(decoded_bytes_are_framed _).1 (TransactionData.ofNestedCoins 2).undeclared (by decide +kernel),
    (decoded_bytes_are_framed _).2.1 .ofFailure (by decide +kernel),
    (decoded_bytes_are_framed _).2.2 .ofCoins (by decide +kernel)⟩

end MoveWire
