/-!
Base58: bytes as one big-endian number written with 58 letters and digits. Zero bytes in front,
which the number does not show, are written one by one as the letter for zero.
-/

namespace MoveWire.Text.Base58

def alphabet : List Char :=
  "123456789ABCDEFGHJKLMNPQRSTUVWXYZabcdefghijkmnopqrstuvwxyz".toList

def zero : Char := '1'

def letter (n : Nat) : Char := alphabet.getD n zero

def value? (c : Char) : Option Nat := alphabet.idxOf? c

/-- Big-endian digits of a number in a base above one, none for zero. -/
def digits (base : Nat) (n : Nat) : List Nat :=
  go n n []
where
  /-- The number itself bounds how many digits it has. -/
  go : Nat → Nat → List Nat → List Nat
    | 0, _, acc => acc
    | fuel + 1, n, acc => if n = 0 then acc else go fuel (n / base) (n % base :: acc)

def ofDigits (base : Nat) (ds : List Nat) : Nat := ds.foldl (fun n d => n * base + d) 0

def encode (bytes : List UInt8) : String :=
  let zeros := bytes.takeWhile (· == 0)
  let number := ofDigits 256 (bytes.map UInt8.toNat)
  String.ofList (zeros.map (fun _ => zero) ++ (digits 58 number).map letter)

def decode? (text : String) : Option (List UInt8) := do
  let values ← text.toList.mapM value?
  let zeros := values.takeWhile (· == 0)
  let number := ofDigits 58 values
  return zeros.map (fun _ => 0) ++ (digits 256 number).map UInt8.ofNat

end MoveWire.Text.Base58
