import MoveWire.Proofs.Transaction.Wire
import MoveWire.Signing.SignedTransaction

/-!
The laws of the byte forms of intents, of payloads under their intents, and of transactions with
the signatures over them.
-/

namespace MoveWire

theorem IntentScope.codec_conforms : IntentScope.codec.Conforms .all :=
  .enumeration .one "IntentScope" all (by decide) (fun s => by cases s <;> simp [all]) (by decide)

theorem IntentVersion.codec_conforms : IntentVersion.codec.Conforms .all :=
  .enumeration .one "IntentVersion" [v0] (by decide) (fun v => by cases v; simp) (by decide)

theorem AppId.codec_conforms : AppId.codec.Conforms .all :=
  .enumeration .one "AppId" [sui, narwhal, consensus] (by decide)
    (fun a => by cases a <;> simp) (by decide)

theorem Intent.codec_conforms : Intent.codec.Conforms .all :=
  (IntentScope.codec_conforms.pair_all
    (IntentVersion.codec_conforms.pair_all AppId.codec_conforms)).map_all (fun _ => rfl)
    fun _ => rfl

namespace IntentMessage

variable {α : Type}

/-- An intent message is as its payload is. -/
def domain (d : Domain α) : Domain (IntentMessage α) where
  Fits m := d.Fits m.value
  Readable m := d.Readable m.value
  normal m := ⟨m.intent, d.normal m.value⟩

theorem codec_conforms {c : Codec α} {d : Domain α} (h : c.Conforms d) :
    (codec c).Conforms (domain d) :=
  ((Intent.codec_conforms.pair h).map fun _ => rfl).congr (by simp [domain]) (by simp [domain])
    (by simp [domain])

end IntentMessage

theorem PersonalMessage.codec_conforms :
    PersonalMessage.codec.Conforms (.plain fun m => m.message.length < 2 ^ 32) :=
  (Codec.bytes_conforms.map fun _ => rfl).congr (fun _ => .rfl) (fun _ => .rfl) fun _ => rfl

namespace Signature

theorem length_bytes (s : Signature) : s.bytes.length = 97 := by
  simp [bytes, s.signature.length_eq, s.publicKey.length_eq]

theorem ofBytes_bytes (s : Signature) : ofBytes s.bytes = .ok s := by
  obtain ⟨⟨signature, sized⟩, ⟨key, sized'⟩⟩ := s
  have front : (signature ++ key).take 64 = signature := by
    rw [← sized, List.take_left]
  have back : (signature ++ key).drop 64 = key := by
    rw [← sized, List.drop_left]
  unfold ofBytes
  rw [dif_pos (length_bytes _)]
  simp [bytes, front, back]

theorem bytes_of_ofBytes {taken : Bytes} {s : Signature} (h : ofBytes taken = .ok s) :
    s.bytes = taken := by
  unfold ofBytes at h
  split at h
  · next full =>
    simp only at h
    split at h
    · next flagged =>
      cases h
      cases taken with
      | nil => cases full
      | cons flag rest =>
        obtain rfl : flag = Suite.flag := flagged
        exact congrArg (Suite.flag :: ·) (List.take_append_drop 64 rest)
    · cases h
  · cases h

/-- The count in front of a signature can only be 97. -/
theorem codec_conforms : codec.Conforms .all := by
  refine .plain (fun s => ?_) (fun {s form} h start => ?_) fun cursor s next run => ?_
  · have short : s.bytes.length < 2 ^ 32 := by
      rw [length_bytes]
      decide
    exact (Codec.bytes_conforms.carries s.bytes).form_if.congr (iff_of_true short trivial)
  · have read := Codec.bytes_conforms.takes (a := s.bytes) h trivial start
    refine read.bind_pure ?_
    simp [ofBytes_bytes]
  · obtain ⟨taken, after, body, check⟩ := Stateful.bind_eq_ok run
    cases given : ofBytes taken with
    | ok v =>
      rw [given] at check
      cases check
      obtain rfl := bytes_of_ofBytes given
      exact Codec.bytes_conforms.canonical _ _ _ body
    | error e =>
      rw [given] at check
      cases check

end Signature

namespace SignedTransaction

/-- The same transaction under the same intent and with the same signatures. -/
structure Same (a b : SignedTransaction) : Prop where
  intent : a.message.intent = b.message.intent
  data : a.data.Same b.data
  signatures : a.signatures = b.signatures

def undeclared (t : SignedTransaction) : SignedTransaction :=
  ⟨⟨t.message.intent, t.data.undeclared⟩, t.signatures⟩

theorem same_iff {a b : SignedTransaction} : a.Same b ↔ a.undeclared = b.undeclared := by
  simp only [undeclared, mk.injEq, IntentMessage.mk.injEq, ← TransactionData.same_iff]
  exact ⟨fun h => ⟨⟨h.intent, h.data⟩, h.signatures⟩, fun h => ⟨h.1.1, h.1.2, h.2⟩⟩

def domain : Domain SignedTransaction where
  Fits t := TransactionData.domain.Fits t.data ∧ t.signatures.length < 2 ^ 32
  Readable t := TransactionData.domain.Readable t.data
  normal := undeclared

theorem codec_conforms : codec.Conforms domain := by
  have message := IntentMessage.codec_conforms TransactionData.codec_conforms
  refine ((message.pair Signature.codec_conforms.vector_all).map fun _ => rfl).congr
    (fun _ => .rfl) (fun t => ?_) fun t => rfl
  exact and_iff_left trivial

end SignedTransaction

end MoveWire
