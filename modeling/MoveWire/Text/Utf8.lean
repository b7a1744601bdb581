/-!
UTF-8 text as a list of bytes. `encode` and `decode` are inverse to each other; `decode` names the
first place at which bytes stop being UTF-8, and whether they could still be completed there.
-/

namespace MoveWire.Text.Utf8

/-- Where bytes stop being UTF-8: a sequence that no byte can complete, or one cut off by the
end. -/
inductive Fault where
  | broken (index length : Nat)
  | incomplete (index : Nat)
  deriving DecidableEq, Repr

def Fault.message : Fault → String
  | .broken index length =>
    s!"invalid utf-8 sequence of {length} bytes from index {index}"
  | .incomplete index => s!"incomplete utf-8 byte sequence from index {index}"

def isContinuation (b : UInt8) : Bool := 0x80 ≤ b && b ≤ 0xBF

/-- The second byte of a longer sequence also rules out overlong forms, surrogates and all
numbers above the last code point. -/
def isSecond (lead b : UInt8) : Bool :=
  if lead = 0xE0 then 0xA0 ≤ b && b ≤ 0xBF
  else if lead = 0xED then 0x80 ≤ b && b ≤ 0x9F
  else if lead = 0xF0 then 0x90 ≤ b && b ≤ 0xBF
  else if lead = 0xF4 then 0x80 ≤ b && b ≤ 0x8F
  else isContinuation b

/-- How many bytes a sequence with this first byte takes, if it can be a first byte. -/
def sequenceLength? (lead : UInt8) : Option Nat :=
  if lead < 0x80 then some 1
  else if 0xC2 ≤ lead && lead ≤ 0xDF then some 2
  else if 0xE0 ≤ lead && lead ≤ 0xEF then some 3
  else if 0xF0 ≤ lead && lead ≤ 0xF4 then some 4
  else none

/-- Checks the sequence at the head of the bytes: `none` if it is complete. -/
def headFault (index : Nat) : List UInt8 → Option Fault
  | [] => none
  | lead :: rest =>
    match sequenceLength? lead with
    | none => some (.broken index 1)
    | some length => go lead 1 (length - 1) rest
where
  go (lead : UInt8) (seen : Nat) : Nat → List UInt8 → Option Fault
    | 0, _ => none
    | _ + 1, [] => some (.incomplete index)
    | missing + 1, b :: rest =>
      if if seen = 1 then isSecond lead b else isContinuation b then
        go lead (seen + 1) missing rest
      else some (.broken index seen)

/-- The first fault at or after the head; `pending` bytes belong to a sequence already checked. -/
def firstFault (index pending : Nat) : List UInt8 → Option Fault
  | [] => none
  | b :: rest =>
    match pending with
    | pending + 1 => firstFault (index + 1) pending rest
    | 0 =>
      match headFault index (b :: rest) with
      | some fault => some fault
      | none => firstFault (index + 1) ((sequenceLength? b).getD 1 - 1) rest

def encode (s : String) : List UInt8 := s.toByteArray.data.toList

def decode (bytes : List UInt8) : Except Fault String :=
  match String.fromUTF8? ⟨bytes.toArray⟩ with
  | some s => .ok s
  | none => .error ((firstFault 0 0 bytes).getD (.incomplete bytes.length))

theorem decode_encode (s : String) : decode (encode s) = .ok s := by
  have back : String.fromUTF8? ⟨(encode s).toArray⟩ = some s := by
    have valid : ByteArray.IsValidUTF8 ⟨(encode s).toArray⟩ := by
      simpa [encode] using s.isValidUTF8
    rw [String.fromUTF8?, dif_pos valid]
    simp [encode, String.fromUTF8]
  simp [decode, back]

theorem eq_encode_of_decode {bytes : List UInt8} {s : String} (h : decode bytes = .ok s) :
    bytes = encode s := by
  unfold decode at h
  split at h
  · next t ht =>
    cases h
    simp only [String.fromUTF8?] at ht
    split at ht
    · cases ht
      simp [encode, String.fromUTF8]
    · cases ht
  · cases h

end MoveWire.Text.Utf8
