import MoveWire.Wire.Bytes

/-!
What hash functions on 64-bit words share: words to and from bytes, rotation, and messages cut into
blocks of one size.
-/

namespace MoveWire.Hash

def rotateRight (w : UInt64) (n : UInt64) : UInt64 := w >>> n ||| w <<< (64 - n)

/-- The words that bytes spell in groups of eight, the lowest byte first. -/
def littleWords : Bytes → List UInt64
  | a :: b :: c :: d :: e :: f :: g :: h :: rest =>
    UInt64.ofNat (Bytes.toNat [a, b, c, d, e, f, g, h]) :: littleWords rest
  | _ => []

/-- The words that bytes spell in groups of eight, the highest byte first. -/
def bigWords : Bytes → List UInt64
  | a :: b :: c :: d :: e :: f :: g :: h :: rest =>
    UInt64.ofNat (Bytes.toNat [h, g, f, e, d, c, b, a]) :: bigWords rest
  | _ => []

def littleBytes (words : List UInt64) : Bytes := words.flatMap fun w => Bytes.ofNat 8 w.toNat

def bigBytes (words : List UInt64) : Bytes :=
  words.flatMap fun w => (Bytes.ofNat 8 w.toNat).reverse

/-- Bytes followed by zeros up to a length. -/
def padRight (length : Nat) (bytes : Bytes) : Bytes :=
  bytes ++ List.replicate (length - bytes.length) 0

@[simp] theorem length_littleBytes (words : List UInt64) :
    (littleBytes words).length = 8 * words.length := by
  induction words with
  | nil => rfl
  | cons w rest ih =>
    simp only [littleBytes, List.flatMap_cons, List.length_append, Bytes.length_ofNat,
      List.length_cons] at ih ⊢
    omega

@[simp] theorem length_bigBytes (words : List UInt64) :
    (bigBytes words).length = 8 * words.length := by
  induction words with
  | nil => rfl
  | cons w rest ih =>
    simp only [bigBytes, List.flatMap_cons, List.length_append, List.length_reverse,
      Bytes.length_ofNat, List.length_cons] at ih ⊢
    omega

end MoveWire.Hash
