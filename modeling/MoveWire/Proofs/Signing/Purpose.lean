import MoveWire.Proofs.Signing.Wire
import MoveWire.Proofs.Transaction.RoundTrip

/-!
What signed bytes tell: the purpose of a signature and the payload that it is for. This holds for
all that has a byte form, also for transactions whose forms can not be read back.
-/

namespace MoveWire

/-- What an account signs: a transaction, or a message of its own. -/
inductive Signable where
  | transaction (data : TransactionData)
  | personal (message : Bytes)

namespace Signable

def intent : Signable → Intent
  | .transaction _ => .transaction
  | .personal _ => .personalMessage

/-- The bytes that are hashed and then signed. -/
def signedBytes : Signable → Fallible Bytes
  | .transaction data => (IntentMessage.codec TransactionData.codec).encode ⟨.transaction, data⟩
  | .personal message =>
    (IntentMessage.codec PersonalMessage.codec).encode ⟨.personalMessage, ⟨message⟩⟩

def sign (suite : Suite) (key : KeyPair) : Signable → Signed Signature
  | .transaction data => key.signTransaction suite data
  | .personal message => key.signPersonal suite message

/-- One purpose and one payload. -/
def Same : Signable → Signable → Prop
  | .transaction a, .transaction b => a.Same b
  | .personal a, .personal b => a = b
  | _, _ => False

/-- Only the hash of the signed bytes goes into a signature. -/
theorem sign_of_signedBytes (suite : Suite) (key : KeyPair) {s : Signable} {form : Bytes}
    (h : s.signedBytes = .ok form) :
    s.sign suite key = .ok (key.signRaw suite (suite.hash form).bytes) := by
  cases s with
  | transaction data =>
    simp only [signedBytes] at h
    simp only [sign, KeyPair.signTransaction, KeyPair.signIntent, h]
    rfl
  | personal message =>
    simp only [signedBytes] at h
    simp only [sign, KeyPair.signPersonal, KeyPair.signIntent, h]
    rfl

end Signable

namespace IntentMessage

variable {α β : Type}

/-- Every form starts with that of the intent. -/
theorem encode_front {c : Codec α} {m : IntentMessage α} {form : Bytes}
    (h : (codec c).encode m = .ok form) :
    ∃ front back, Intent.codec.write m.intent = .ok front ∧ form = front ++ back := by
  obtain ⟨front, back, written, -, rfl⟩ := Fallible.append_eq_ok.mp h
  exact ⟨front, back, written, rfl⟩

/-- No form is one of two payloads under different intents, whatever types they have. -/
theorem intent_eq_of_encode {c : Codec α} {e : Codec β} {m : IntentMessage α} {n : IntentMessage β}
    {form : Bytes} (hm : (codec c).encode m = .ok form) (hn : (codec e).encode n = .ok form) :
    m.intent = n.intent := by
  obtain ⟨front, back, written, rfl⟩ := encode_front hm
  obtain ⟨front', back', written', same⟩ := encode_front hn
  exact ((Intent.codec_conforms.carries m.intent).separate written written' same).1

end IntentMessage

theorem TransactionData.encode_eq_ok_iff {a b : TransactionData} {form : Bytes}
    (h : codec.encode a = .ok form) : codec.encode b = .ok form ↔ a.Same b := by
  rw [codec_conforms.encode_eq_iff h, same_iff]
  rfl

namespace Signable

theorem intent_eq {a b : Signable} {form : Bytes} (ha : a.signedBytes = .ok form)
    (hb : b.signedBytes = .ok form) : a.intent = b.intent := by
  cases a with
  | transaction data =>
    cases b with
    | transaction other => rfl
    | personal message => exact IntentMessage.intent_eq_of_encode ha hb
  | personal message =>
    cases b with
    | transaction data => exact IntentMessage.intent_eq_of_encode ha hb
    | personal other => rfl

theorem signedBytes_eq_ok_iff {a b : Signable} {form : Bytes} (h : a.signedBytes = .ok form) :
    b.signedBytes = .ok form ↔ a.Same b := by
  have differ : Intent.transaction ≠ Intent.personalMessage := by decide
  cases a with
  | transaction data =>
    cases b with
    | transaction other =>
      have conforms := IntentMessage.codec_conforms TransactionData.codec_conforms
      refine (conforms.encode_eq_iff (b := ⟨.transaction, other⟩) h).trans ?_
      simp [IntentMessage.domain, TransactionData.domain, Same, TransactionData.same_iff]
    | personal message => exact iff_of_false (fun other => absurd (intent_eq h other) differ) id
  | personal message =>
    cases b with
    | transaction data =>
      exact iff_of_false (fun other => absurd (intent_eq h other).symm differ) id
    | personal other =>
      have conforms := IntentMessage.codec_conforms PersonalMessage.codec_conforms
      refine (conforms.encode_eq_iff (b := ⟨.personalMessage, ⟨other⟩⟩) h).trans ?_
      simp [IntentMessage.domain, Same]

/-- Two transactions have one form exactly when they are the same. Both kinds of signatures hash
the signed bytes, and these are equal exactly when both the purpose and the payload are. -/
theorem signed_bytes_determine_payload :
    (∀ (a b : TransactionData) (form : Bytes), TransactionData.codec.encode a = .ok form →
      (TransactionData.codec.encode b = .ok form ↔ a.Same b)) ∧
    (∀ (suite : Suite) (key : KeyPair) (s : Signable) (form : Bytes), s.signedBytes = .ok form →
      s.sign suite key = .ok (key.signRaw suite (suite.hash form).bytes)) ∧
    ∀ (s t : Signable) (form : Bytes), s.signedBytes = .ok form →
      (t.signedBytes = .ok form ↔ s.Same t) :=
  ⟨fun _ _ _ h => TransactionData.encode_eq_ok_iff h,
    fun suite key _ _ h => sign_of_signedBytes suite key h,
    fun _ _ _ h => signedBytes_eq_ok_iff h⟩

/-- Also a transaction that no reader takes shares its form with itself without declared types, and
its form as a personal message is signed by other bytes than the transaction. -/
theorem signed_bytes_of_misnamed :
    ∃ form whole, TransactionData.codec.encode .ofMisnamed = .ok form ∧
      TransactionData.codec.encode (TransactionData.undeclared .ofMisnamed) = .ok form ∧
      (transaction .ofMisnamed).signedBytes = .ok whole ∧
      (transaction .ofMisnamed).sign .standard ⟨.zero 32⟩ =
        .ok (KeyPair.signRaw .standard ⟨.zero 32⟩ (Suite.standard.hash whole).bytes) ∧
      (personal form).signedBytes ≠ .ok whole := by
  have fits := TransactionData.fits_iff.mpr
    (show ¬TransactionData.TooLarge .ofMisnamed by decide +kernel)
  obtain ⟨form, written⟩ := (TransactionData.codec_conforms.carries .ofMisnamed).form_if.1 fits
  have conforms := IntentMessage.codec_conforms TransactionData.codec_conforms
  obtain ⟨whole, signed⟩ := (conforms.carries ⟨.transaction, .ofMisnamed⟩).form_if.1 fits
  have same : TransactionData.ofMisnamed.Same TransactionData.ofMisnamed.undeclared :=
    TransactionData.same_iff.mpr (by decide)
  have all := signed_bytes_determine_payload
  exact ⟨form, whole, written, (all.1 _ _ form written).mpr same, signed,
    all.2.1 .standard ⟨.zero 32⟩ (.transaction .ofMisnamed) whole signed,
    fun other => (all.2.2 (.transaction .ofMisnamed) (.personal form) whole signed).mp other⟩

end Signable

end MoveWire
