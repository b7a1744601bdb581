import MoveWire.Number.Power

/-!
Byte strings, byte strings of one length, and numbers as little-endian digits of base 256.
-/

namespace MoveWire

abbrev Bytes := List UInt8

namespace Bytes

/-- The lowest `width` digits of a number, lowest first. -/
def ofNat : (width : Nat) → Nat → Bytes
  | 0, _ => []
  | width + 1, n => UInt8.ofNat n :: ofNat width (n / 256)

def toNat : Bytes → Nat
  | [] => 0
  | b :: rest => b.toNat + 256 * toNat rest

@[simp] theorem length_ofNat (width n : Nat) : (ofNat width n).length = width := by
  induction width generalizing n with
  | zero => rfl
  | succ width ih => simp [ofNat, ih]

theorem toNat_ofNat (width n : Nat) : toNat (ofNat width n) = n % 256 ^ width := by
  induction width generalizing n with
  | zero => simp [ofNat, toNat, Nat.mod_one]
  | succ width ih =>
    simp only [ofNat, toNat, ih, UInt8.toNat_ofNat']
    rw [show 256 ^ (width + 1) = 256 * 256 ^ width by rw [Nat.pow_succ, Nat.mul_comm], Nat.mod_mul]

theorem toNat_lt (bytes : Bytes) : toNat bytes < 256 ^ bytes.length := by
  induction bytes with
  | nil => simp [toNat]
  | cons b rest ih =>
    have := b.toNat_lt
    simp only [toNat, List.length_cons, Nat.pow_succ]
    omega

theorem ofNat_toNat (bytes : Bytes) : ofNat bytes.length (toNat bytes) = bytes := by
  induction bytes with
  | nil => rfl
  | cons b rest ih =>
    have := b.toNat_lt
    have high : (b.toNat + 256 * toNat rest) / 256 = toNat rest := by omega
    simp [ofNat, toNat, high, ih, UInt8.ofNat_add, UInt8.ofNat_mul]

end Bytes

/-- A byte string of a length that its type fixes. -/
structure FixedBytes (n : Nat) where
  bytes : Bytes
  length_eq : bytes.length = n
  deriving DecidableEq

namespace FixedBytes

def zero (n : Nat) : FixedBytes n := ⟨List.replicate n 0, List.length_replicate⟩

def ofBytes? (n : Nat) (bytes : Bytes) : Option (FixedBytes n) :=
  if h : bytes.length = n then some ⟨bytes, h⟩ else none

instance (n : Nat) : Ord (FixedBytes n) := ⟨fun a b => compare a.bytes b.bytes⟩

@[simp] theorem ofBytes?_bytes {n : Nat} (b : FixedBytes n) : ofBytes? n b.bytes = some b := by
  simp [ofBytes?, b.length_eq]

theorem bytes_of_ofBytes? {n : Nat} {bytes : Bytes} {b : FixedBytes n}
    (h : ofBytes? n bytes = some b) : b.bytes = bytes := by
  unfold ofBytes? at h
  split at h <;> cases h
  rfl

end FixedBytes

end MoveWire
