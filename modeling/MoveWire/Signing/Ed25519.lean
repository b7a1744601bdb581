import MoveWire.Hash.Sha512

/-!
Ed25519 signatures on the twisted Edwards curve over the field of `2 ^ 255 - 19` elements. Signing
is deterministic. Verification multiplies by the cofactor, takes points in any encoding that
stands for one, and refuses a scalar that is not below the group order.
-/

namespace MoveWire.Signing.Ed25519

/-- The order of the field. -/
def prime : Nat := 2 ^ 255 - 19

/-- The order of the group that the base point spans. -/
def order : Nat := 2 ^ 252 + 27742317777372353535851937790883648493

namespace BaseField

def add (a b : Nat) : Nat := (a + b) % prime

def sub (a b : Nat) : Nat := (a + prime - b) % prime

def mul (a b : Nat) : Nat := a * b % prime

/-- Powers by squaring; `bits` bounds the length of the exponent. -/
def pow (a : Nat) (n : Nat) : (bits : Nat) → Nat
  | 0 => 1
  | bits + 1 =>
    if n = 0 then 1
    else
      let half := pow (mul a a) (n / 2) bits
      if n % 2 = 1 then mul a half else half

def inverse (a : Nat) : Nat := pow a (prime - 2) 256

/-- A square root of minus one. -/
def rootOfMinusOne : Nat := pow 2 ((prime - 1) / 4) 256

/-- The even square root of a quotient, if it has one. -/
def sqrtRatio? (u v : Nat) : Option Nat :=
  let v3 := mul (mul v v) v
  let v7 := mul (mul v3 v3) v
  let r := mul (mul u v3) (pow (mul u v7) ((prime - 5) / 8) 256)
  let square := mul v (mul r r)
  let even (r : Nat) : Nat := if r % 2 = 1 then sub 0 r else r
  if square = u then some (even r)
  else if square = sub 0 u then some (even (mul r rootOfMinusOne))
  else none

/-- The constant of the curve `-x² + y² = 1 + d x² y²`. -/
def d : Nat := mul (sub 0 121665) (inverse 121666)

end BaseField

/-- A point in extended coordinates: `x = X / Z`, `y = Y / Z` and `x y = T / Z`. -/
structure Point where
  x : Nat
  y : Nat
  z : Nat
  t : Nat

namespace Point

open BaseField

def identity : Point := ⟨0, 1, 1, 0⟩

def ofAffine (x y : Nat) : Point := ⟨x, y, 1, mul x y⟩

def neg (p : Point) : Point := ⟨sub 0 p.x, p.y, p.z, sub 0 p.t⟩

def add (p q : Point) : Point :=
  let a := mul (sub p.y p.x) (sub q.y q.x)
  let b := mul (BaseField.add p.y p.x) (BaseField.add q.y q.x)
  let c := mul (mul p.t (mul 2 BaseField.d)) q.t
  let e := mul (mul 2 p.z) q.z
  let f := sub b a
  let g := sub e c
  let h := BaseField.add e c
  let k := BaseField.add b a
  ⟨mul f g, mul h k, mul g h, mul f k⟩

def double (p : Point) : Point := add p p

/-- The multiple of a point by the lowest `bits` bits of a number. -/
def scale (n : Nat) (p : Point) : (bits : Nat) → Point
  | 0 => identity
  | bits + 1 =>
    let rest := double (scale (n / 2) p bits)
    if n % 2 = 1 then add rest p else rest

def isIdentity (p : Point) : Bool := p.x == 0 && p.y == p.z

/-- The number of `y`, and the parity of `x` in the top bit. -/
def encode (p : Point) : FixedBytes 32 :=
  let inverse := inverse p.z
  let x := mul p.x inverse
  let y := mul p.y inverse
  ⟨Bytes.ofNat 32 (y + x % 2 * 2 ^ 255), by simp⟩

/-- The point that 32 bytes stand for; a number for `y` above the prime counts as its residue. -/
def decode? (bytes : Bytes) : Option Point :=
  let n := Bytes.toNat bytes
  let y := n % 2 ^ 255 % prime
  let y2 := mul y y
  (sqrtRatio? (sub y2 1) (BaseField.add (mul BaseField.d y2) 1)).map fun x =>
    ofAffine (if n / 2 ^ 255 % 2 = 1 then sub 0 x else x) y

def base : Point :=
  (decode? (Bytes.ofNat 32 (mul 4 (inverse 5)))).getD identity

end Point

/-- The scalar and the prefix for nonces that a secret stands for. -/
def expand (secret : Bytes) : Nat × Bytes :=
  let digest := Hash.Sha512.hash secret
  let n := Bytes.toNat (digest.take 32)
  (n % 2 ^ 254 / 8 * 8 + 2 ^ 254, digest.drop 32)

def publicKey (secret : Bytes) : FixedBytes 32 :=
  ((Point.base.scale (expand secret).1) 256).encode

/-- The number that a hash of the parts has below the group order. -/
def challenge (parts : List Bytes) : Nat :=
  Bytes.toNat (Hash.Sha512.hash parts.flatten) % order

def sign (secret message : Bytes) : FixedBytes 64 :=
  let (scalar, nonceKey) := expand secret
  let key := (publicKey secret).bytes
  let nonce := challenge [nonceKey, message]
  let commitment := (Point.base.scale nonce 256).encode
  let k := challenge [commitment.bytes, key, message]
  ⟨commitment.bytes ++ Bytes.ofNat 32 ((nonce + k * scalar) % order), by
    simp [commitment.length_eq]⟩

def isPublicKey (key : Bytes) : Bool := (Point.decode? key).isSome

def verify (key message signature : Bytes) : Bool :=
  let commitment := signature.take 32
  let scalar := Bytes.toNat (signature.drop 32)
  match Point.decode? key, Point.decode? commitment with
  | some a, some r =>
    let k := challenge [commitment, key, message]
    let left := Point.base.scale scalar 256
    let right := r.add (a.scale k 256)
    scalar < order && (left.add right.neg).double.double.double.isIdentity
  | _, _ => false

end MoveWire.Signing.Ed25519
