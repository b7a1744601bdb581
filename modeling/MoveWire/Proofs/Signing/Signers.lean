import MoveWire.Proofs.Signing.Verification

/-!
Transactions signed with any number of keys. A signature keeps the address of its key through its
text and its form, and the check hashes the same bytes as the signing; main statement: signatures
of one transaction pass together exactly when one of them is the sender's, and one that is not of
the transaction is found at every place.
-/

namespace MoveWire

/-- The scheme takes the key's own signature of the message. -/
structure KeyPair.Accepted (suite : Suite) (key : KeyPair) (message : Bytes) : Prop where
  publicKey : suite.isPublicKey (key.publicKey suite) = true
  signature : suite.verify (key.publicKey suite) message (suite.sign key.secret message) = true

instance (suite : Suite) (key : KeyPair) (message : Bytes) :
    Decidable (key.Accepted suite message) :=
  decidable_of_iff (suite.isPublicKey (key.publicKey suite) = true ∧
      suite.verify (key.publicKey suite) message (suite.sign key.secret message) = true)
    ⟨fun h => ⟨h.1, h.2⟩, fun h => ⟨h.publicKey, h.signature⟩⟩

namespace Signature

variable {suite : Suite} {key : KeyPair}

/-- The signature tells the address of the key, and is the same after its text and its form. -/
structure Keeps (suite : Suite) (key : KeyPair) (s : Signature) : Prop where
  signer : s.signer suite = key.address suite
  text : parse s.text = .ok s
  written : codec.encode s = .ok (97 :: s.bytes)
  read : codec.decode (97 :: s.bytes) = .ok s

theorem encode_eq (s : Signature) : codec.encode s = .ok (97 :: s.bytes) := by
  change Writer.bytes s.bytes = _
  rw [Writer.bytes, length_bytes]
  rfl

theorem keeps_signRaw (suite : Suite) (key : KeyPair) (message : Bytes) :
    (key.signRaw suite message).Keeps suite key where
  signer := rfl
  text := parse_text _
  written := encode_eq _
  read := codec_conforms.decode_of_readable (encode_eq _) trivial

theorem verifyRaw_signRaw {message : Bytes} (h : key.Accepted suite message) :
    (key.signRaw suite message).verifyRaw suite message = .ok () := by
  simp [verifyRaw, KeyPair.signRaw, h.publicKey, h.signature]

end Signature

namespace SignedTransaction

variable {suite : Suite} {data : TransactionData} {form : Bytes}

theorem signTransaction_eq (suite : Suite) (key : KeyPair)
    (h : TransactionData.codec.encode data = .ok form) :
    key.signTransaction suite data =
      .ok (key.signRaw suite (suite.hash (0 :: 0 :: 0 :: form)).bytes) :=
  Signable.sign_of_signedBytes suite key (s := .transaction data) (encode_transaction h)

/-- All keys sign, and each signs the same hash. -/
theorem mapM_signTransaction (suite : Suite) (keys : List KeyPair)
    (h : TransactionData.codec.encode data = .ok form) :
    keys.mapM (fun key => key.signTransaction suite data) =
      .ok (keys.map fun key => key.signRaw suite (suite.hash (0 :: 0 :: 0 :: form)).bytes) := by
  rw [Fallible.mapM_eq_ok, List.forall₂_map_right_iff, List.forall₂_same]
  intro key _
  exact signTransaction_eq suite key h

/-- Signatures that are all of the transaction pass exactly when the sender's is among them. -/
theorem verify_ofSignatures {signatures : List Signature}
    (h : TransactionData.codec.encode data = .ok form)
    (each : ∀ s ∈ signatures, s.verifyRaw suite (suite.hash (0 :: 0 :: 0 :: form)).bytes = .ok ()) :
    (ofSignatures data signatures).verify suite = .ok () ↔
      ∃ s ∈ signatures, s.signer suite = data.sender := by
  have signed : (ofSignatures data signatures).SignedAs suite .transaction :=
    ⟨0 :: 0 :: 0 :: form, encode_transaction h, each⟩
  exact verify_eq_ok_iff.trans (and_iff_left signed)

/-- A signature that is none of the transaction is found, wherever it stands. -/
theorem verify_of_member {signatures : List Signature} {bad : Signature}
    (h : TransactionData.codec.encode data = .ok form)
    (refused : bad.verifyRaw suite (suite.hash (0 :: 0 :: 0 :: form)).bytes ≠ .ok ())
    (member : bad ∈ signatures) :
    ∃ e, (ofSignatures data signatures).verify suite = .error e := by
  cases checked : (ofSignatures data signatures).verify suite with
  | error e => exact ⟨e, rfl⟩
  | ok =>
    obtain ⟨-, other, written, each⟩ := verify_eq_ok_iff.mp checked
    have same := (encode_transaction h).symm.trans written
    cases same
    exact absurd (each bad member) refused

/-- Where the scheme takes what the keys sign, their signatures of a transaction pass together
exactly when one of the keys is the sender's, and each keeps the address of its key through its text
and its form. A list of signatures in which one is replaced by one that is not of the transaction
never passes. -/
theorem accepted_iff_sender_signed (suite : Suite) (keys : List KeyPair) (data : TransactionData)
    (form : Bytes) (written : TransactionData.codec.encode data = .ok form)
    (accepted : ∀ key ∈ keys, key.Accepted suite (suite.hash (0 :: 0 :: 0 :: form)).bytes) :
    (IntentMessage.codec TransactionData.codec).encode ⟨.transaction, data⟩ =
      .ok (0 :: 0 :: 0 :: form) ∧
    (∃ signatures, keys.mapM (fun key => key.signTransaction suite data) = .ok signatures ∧
      ((ofSignatures data signatures).verify suite = .ok () ↔
        ∃ key ∈ keys, key.address suite = data.sender) ∧
      List.Forall₂ (Signature.Keeps suite) keys signatures) ∧
    ∀ (signatures : List Signature) (i : Nat) (bad : Signature), i < signatures.length →
      bad.verifyRaw suite (suite.hash (0 :: 0 :: 0 :: form)).bytes ≠ .ok () →
      ∃ e, (ofSignatures data (signatures.set i bad)).verify suite = .error e := by
  refine ⟨encode_transaction written, ⟨_, mapM_signTransaction suite keys written, ?_, ?_⟩, ?_⟩
  · rw [verify_ofSignatures written]
    · simp only [List.mem_map, exists_exists_and_eq_and]
      rfl
    · intro s member
      obtain ⟨key, listed, rfl⟩ := List.mem_map.mp member
      exact Signature.verifyRaw_signRaw (accepted key listed)
  · rw [List.forall₂_map_right_iff, List.forall₂_same]
    intro key _
    exact Signature.keeps_signRaw suite key _
  · intro signatures i bad inside refused
    exact verify_of_member written refused (List.mem_set inside bad)

def pairOfOwner : KeyPair := ⟨⟨List.replicate 32 1, List.length_replicate⟩⟩

/-- The owner and another sign together; a signature for another purpose in place of the other's is
found. -/
theorem two_sign_for_owner :
    let keys := [⟨.zero 32⟩, pairOfOwner]
    ∃ signatures, keys.mapM (fun key => key.signTransaction .standard idle) = .ok signatures ∧
      (ofSignatures idle signatures).verify .standard = .ok () ∧
      List.Forall₂ (Signature.Keeps .standard) keys signatures ∧
      ∃ e, (ofSignatures idle (signatures.set 0 foreignSignature)).verify .standard = .error e := by
  intro keys
  have written : TransactionData.codec.encode idle = .ok idleForm := by decide +kernel
  have accepted : ∀ key ∈ keys,
      key.Accepted .standard (Suite.standard.hash (0 :: 0 :: 0 :: idleForm)).bytes := by
    decide +kernel
  have refused : foreignSignature.verifyRaw .standard
      (Suite.standard.hash (0 :: 0 :: 0 :: idleForm)).bytes ≠ .ok () := by decide +kernel
  have sender : pairOfOwner.address .standard = idle.sender := by decide +kernel
  obtain ⟨-, ⟨signatures, made, passes, kept⟩, replaced⟩ :=
    accepted_iff_sender_signed .standard keys idle idleForm written accepted
  have inside : 0 < signatures.length := by
    rw [← kept.length_eq]
    exact Nat.two_pos
  exact ⟨signatures, made, passes.mpr ⟨pairOfOwner, by simp [keys], sender⟩, kept,
    replaced signatures 0 foreignSignature inside refused⟩

end SignedTransaction

end MoveWire
