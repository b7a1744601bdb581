import MoveWire.Proofs.Decoding
import MoveWire.Proofs.Fallible
import MoveWire.Proofs.Signing.Purpose
import MoveWire.Proofs.Wire.Text

/-!
What a check of a transaction with signatures is over: the intent that it carries. Where that is
the intent of transactions, as in all that is made from transaction data, the signatures are of
the message that the handed in texts stand for. Nothing else in the check looks at the intent, so
a signature made for another purpose passes with it.
-/

namespace MoveWire

theorem Signed.toSigned_eq_ok {α : Type} {x : Fallible α} {a : α} :
    x.toSigned = .ok a ↔ x = .ok a := by
  cases x <;> simp [Fallible.toSigned]

namespace Signature

variable {suite : Suite}

theorem verifyIntent_eq_ok {α : Type} {c : Codec α} {s : Signature} {m : IntentMessage α}
    {author : Address} : s.verifyIntent suite c m author = .ok () ↔ s.signer suite = author ∧
      ∃ form, (IntentMessage.codec c).encode m = .ok form ∧
        s.verifyRaw suite (suite.hash form).bytes = .ok () := by
  unfold verifyIntent
  by_cases signed : s.signer suite = author
  · rw [if_neg (not_not.mpr signed), Fallible.bind_eq_ok]
    simp only [Signed.toSigned_eq_ok, signed, true_and]
  · rw [if_pos signed]
    simp [signed]

theorem parse_text (s : Signature) : parse s.text = .ok s := by
  rw [parse, text, Bytes.ofBase64_toBase64]
  exact ofBytes_bytes s

end Signature

namespace SignedTransaction

variable {suite : Suite} {t : SignedTransaction}

/-- Every signature is one of the transaction under this intent. -/
def SignedAs (suite : Suite) (intent : Intent) (t : SignedTransaction) : Prop :=
  ∃ form, (IntentMessage.codec TransactionData.codec).encode ⟨intent, t.data⟩ = .ok form ∧
    ∀ s ∈ t.signatures, s.verifyRaw suite (suite.hash form).bytes = .ok ()

/-- The check asks for a signature by the sender, and for signatures under the carried intent. -/
theorem verify_eq_ok_iff : t.verify suite = .ok () ↔
    (∃ s ∈ t.signatures, s.signer suite = t.data.sender) ∧ t.SignedAs suite t.message.intent := by
  unfold verify
  by_cases author : ∃ s ∈ t.signatures, s.signer suite = t.data.sender
  · have nonempty : t.signatures.isEmpty = false := by
      obtain ⟨s, member, -⟩ := author
      rw [List.isEmpty_eq_false_iff]
      exact List.ne_nil_of_mem member
    have sender : (t.signatures.any fun s => s.signer suite == t.data.sender) = true := by
      simpa using author
    simp only [nonempty, sender, Bool.not_true, Bool.false_eq_true, if_false, author, true_and]
    rw [Fallible.bind_eq_ok]
    simp only [Signed.toSigned_eq_ok, Fallible.forM_eq_ok]
    rfl
  · have sender : (t.signatures.any fun s => s.signer suite == t.data.sender) = false := by
      simpa using author
    refine iff_of_false (fun accepted => ?_) fun h => author h.1
    by_cases empty : t.signatures.isEmpty = true
    · rw [if_pos empty] at accepted
      cases accepted
    · rw [if_neg empty] at accepted
      simp only [sender, Bool.not_false, if_true] at accepted
      cases accepted

theorem verify_single {s : Signature} (single : t.signatures = [s]) : t.verify suite = .ok () ↔
    s.verifyIntent suite TransactionData.codec t.message t.data.sender = .ok () := by
  rw [verify_eq_ok_iff, Signature.verifyIntent_eq_ok, SignedAs, single]
  simp only [List.mem_singleton, exists_eq_left, forall_eq]
  rfl

theorem eq_ofSignatures_iff :
    t = ofSignatures t.data t.signatures ↔ t.message.intent = .transaction := by
  constructor
  · intro made
    rw [made]
    rfl
  · intro carried
    obtain ⟨⟨intent, data⟩, signatures⟩ := t
    obtain rfl : intent = .transaction := carried
    rfl

/-- The intent of transactions is three zeros in front. -/
theorem encode_transaction {data : TransactionData} {form : Bytes}
    (h : TransactionData.codec.encode data = .ok form) :
    (IntentMessage.codec TransactionData.codec).encode ⟨.transaction, data⟩ =
      .ok (0 :: 0 :: 0 :: form) :=
  Fallible.append_eq_ok.mpr ⟨[0, 0, 0], form, rfl, h, rfl⟩

theorem encode_front {form : Bytes} (h : codec.encode t = .ok form) :
    ∃ front, Intent.codec.write t.message.intent = .ok front ∧ front <+: form := by
  obtain ⟨message, back, written, -, rfl⟩ := Fallible.append_eq_ok.mp h
  obtain ⟨front, rest, first, rfl⟩ := IntentMessage.encode_front written
  exact ⟨front, first, (List.prefix_append front rest).trans (List.prefix_append _ back)⟩

theorem intent_eq_transaction_iff {form : Bytes} (h : codec.encode t = .ok form) :
    t.message.intent = .transaction ↔ [0, 0, 0] <+: form := by
  obtain ⟨front, written, ⟨rest, rfl⟩⟩ := encode_front h
  have zeros : Intent.codec.write .transaction = .ok [0, 0, 0] := rfl
  constructor
  · intro carried
    rw [carried, zeros] at written
    cases written
    exact List.prefix_append _ _
  · rintro ⟨other, same⟩
    exact ((Intent.codec_conforms.carries _).separate zeros written same).1.symm

theorem executionTexts_eq_ok {texts : String × List String} (h : t.executionTexts = .ok texts) :
    ∃ form, TransactionData.codec.encode t.data = .ok form ∧
      texts = (Bytes.toBase64 form, t.signatures.map Signature.text) := by
  obtain ⟨text, shown, rest⟩ := Fallible.bind_eq_ok.mp h
  rw [Codec.toBase64, map_eq_pure_bind] at shown
  obtain ⟨form, written, same⟩ := Fallible.bind_eq_ok.mp shown
  cases same
  exact ⟨form, written, (Except.ok.inj rest).symm⟩

/-- The check is over the intent that is carried, whichever it is. Under the intent of transactions,
which all have that are made from their data or read from a form with three zeros in front, it
accepts only signatures of the transaction, over the bytes that the handed in texts stand for.
Under any other intent what is hashed are other bytes than these. -/
theorem verify_is_for_carried_intent (suite : Suite) (t : SignedTransaction) :
    (t.verify suite = .ok () ↔ (∃ s ∈ t.signatures, s.signer suite = t.data.sender) ∧
      t.SignedAs suite t.message.intent) ∧
    (∀ s, t.signatures = [s] → (t.verify suite = .ok () ↔
      s.verifyIntent suite TransactionData.codec t.message t.data.sender = .ok ())) ∧
    (t = ofSignatures t.data t.signatures ↔ t.message.intent = .transaction) ∧
    (t.message.intent = .transaction →
      (t.verify suite = .ok () → t.SignedAs suite .transaction) ∧
      ∀ s, t.signatures = [s] →
        (t.verify suite = .ok () ↔ s.verifyTransaction suite t.data = .ok ())) ∧
    (t.message.intent ≠ .transaction → ∀ form,
      (IntentMessage.codec TransactionData.codec).encode t.message = .ok form →
      (IntentMessage.codec TransactionData.codec).encode ⟨.transaction, t.data⟩ ≠ .ok form) ∧
    (∀ bytes, codec.decode bytes = .ok t →
      (t.message.intent = .transaction ↔ [0, 0, 0] <+: bytes)) ∧
    ∀ texts context, t.executionTexts = .ok texts →
      ∃ form, Bytes.ofBase64 texts.1 context = .ok form ∧
        (IntentMessage.codec TransactionData.codec).encode ⟨.transaction, t.data⟩ =
          .ok (0 :: 0 :: 0 :: form) ∧
        texts.2.mapM Signature.parse = .ok t.signatures := by
  refine ⟨verify_eq_ok_iff, fun s single => verify_single single, eq_ofSignatures_iff, ?_, ?_, ?_,
    ?_⟩
  · intro carried
    constructor
    · intro accepted
      rw [← carried]
      exact (verify_eq_ok_iff.mp accepted).2
    · intro s single
      have message : t.message = ⟨.transaction, t.data⟩ := by
        rw [← carried]
        rfl
      rw [verify_single single, message]
      rfl
  · intro foreign form written other
    exact foreign (IntentMessage.intent_eq_of_encode written other)
  · intro bytes read
    exact intent_eq_transaction_iff (codec_conforms.encode_of_decode read)
  · intro texts context given
    obtain ⟨form, written, rfl⟩ := executionTexts_eq_ok given
    exact ⟨form, Bytes.ofBase64_toBase64 form context, encode_transaction written,
      Fallible.mapM_map_eq_ok fun s _ => s.parse_text⟩

def owner : Address := ⟨⟨[
  41, 223, 191, 104, 138, 188, 231, 171, 67, 187, 142, 112, 202, 225, 88, 174, 150, 17, 150,
  231, 33, 68, 15, 81, 84, 130, 248, 186, 22, 132, 57, 15], rfl⟩⟩

def ownerKey : FixedBytes 32 := ⟨[
  138, 136, 227, 221, 116, 9, 241, 149, 253, 82, 219, 45, 60, 186, 93, 114, 202, 103, 9, 191,
  29, 148, 18, 27, 243, 116, 136, 1, 180, 15, 111, 92], rfl⟩

/-- A transaction without commands, whose gas its sender pays for. -/
def idle : TransactionData :=
  .v1 ⟨.programmable ⟨[], []⟩, owner, ⟨[], owner, 1000, 5000⟩, .none⟩

/-- The owner's signature of the transaction. -/
def idleSignature : Signature := ⟨⟨[
  89, 215, 50, 81, 206, 171, 246, 210, 181, 140, 77, 129, 175, 57, 145, 29, 186, 98, 32, 65,
  125, 51, 90, 243, 208, 25, 142, 72, 168, 111, 109, 199, 209, 202, 39, 133, 115, 100, 125, 148,
  91, 3, 119, 77, 171, 98, 152, 119, 48, 119, 80, 31, 101, 140, 85, 80, 182, 170, 144, 56, 243,
  174, 15, 8], rfl⟩, ownerKey⟩

/-- The owner's signature of the same transaction under the intent of personal messages. -/
def foreignSignature : Signature := ⟨⟨[
  108, 161, 18, 248, 238, 53, 50, 44, 214, 73, 236, 172, 63, 171, 230, 21, 29, 236, 86, 173,
  201, 81, 187, 91, 108, 246, 215, 163, 20, 119, 123, 7, 11, 255, 100, 178, 195, 29, 14, 170,
  211, 252, 9, 54, 21, 37, 201, 226, 63, 107, 174, 233, 90, 250, 11, 169, 81, 93, 86, 32, 201,
  14, 178, 14], rfl⟩, ownerKey⟩

def idleForm : Bytes := [0, 0, 0, 0] ++ owner.bytes ++ [0] ++ owner.bytes ++
  Writer.u64 1000 ++ Writer.u64 5000 ++ [0]

/-- The owner's signature passes, also on its own, and the texts that are handed in stand for what
it is over. That has another form than the same transaction under the intent of messages. -/
theorem verify_of_idle :
    let t := ofSignatures idle [idleSignature]
    let message := IntentMessage.codec TransactionData.codec
    (t.verify .standard = .ok () ∧ t.SignedAs .standard .transaction ∧
      idleSignature.verifyTransaction .standard idle = .ok () ∧
      idleSignature.verifyIntent .standard TransactionData.codec t.message owner = .ok ()) ∧
    [0, 0, 0] <+: [0, 0, 0] ++ idleForm ++ [1, 97] ++ idleSignature.bytes ∧
    (∃ form, Bytes.ofBase64 (Bytes.toBase64 idleForm) "BCS payload" = .ok form ∧
      message.encode ⟨.transaction, idle⟩ = .ok (0 :: 0 :: 0 :: form)) ∧
    message.encode ⟨.transaction, idle⟩ ≠ .ok ([3, 0, 0] ++ idleForm) := by
  intro t message
  have accepted : t.verify .standard = .ok () := by decide +kernel
  have read : codec.decode ([0, 0, 0] ++ idleForm ++ [1, 97] ++ idleSignature.bytes) = .ok t := by
    decide +kernel
  have shown : t.executionTexts = .ok (Bytes.toBase64 idleForm, [idleSignature.text]) := by
    decide +kernel
  have written : message.encode ⟨.personalMessage, idle⟩ = .ok ([3, 0, 0] ++ idleForm) := by
    decide +kernel
  obtain ⟨-, single, -, own, -, zeros, texts⟩ := verify_is_for_carried_intent .standard t
  obtain ⟨-, -, -, -, foreign, -⟩ :=
    verify_is_for_carried_intent .standard ⟨⟨.personalMessage, idle⟩, []⟩
  obtain ⟨signed, alone⟩ := own rfl
  obtain ⟨form, given, rebuilt, -⟩ := texts _ "BCS payload" shown
  exact ⟨⟨accepted, signed accepted, (alone idleSignature rfl).mp accepted,
    (single idleSignature rfl).mp accepted⟩, (zeros _ read).mp rfl, ⟨form, given, rebuilt⟩,
    foreign (by decide) _ written⟩

/-- The signature under the other intent passes, in a form that the reader takes, though it is no
signature of the transaction. -/
theorem verify_takes_foreign_signature :
    let t : SignedTransaction := ⟨⟨.personalMessage, idle⟩, [foreignSignature]⟩
    codec.decode ([3, 0, 0] ++ idleForm ++ [1, 97] ++ foreignSignature.bytes) = .ok t ∧
      t.verify .standard = .ok () ∧ ¬t.SignedAs .standard .transaction ∧
      foreignSignature.verifyTransaction .standard t.data = .error (.verification .mismatch) := by
  intro t
  have read : codec.decode ([3, 0, 0] ++ idleForm ++ [1, 97] ++ foreignSignature.bytes) = .ok t := by
    decide +kernel
  have accepted : t.verify .standard = .ok () := by decide +kernel
  have refused : foreignSignature.verifyTransaction .standard t.data =
      .error (.verification .mismatch) := by decide +kernel
  have signer : foreignSignature.signer .standard = t.data.sender := by decide +kernel
  refine ⟨read, accepted, ?_, refused⟩
  rintro ⟨form, written, signed⟩
  have valid : foreignSignature.verifyTransaction .standard t.data = .ok () :=
    Signature.verifyIntent_eq_ok.mpr ⟨signer, form, written, signed _ List.mem_cons_self⟩
  rw [refused] at valid
  cases valid

end SignedTransaction

end MoveWire
