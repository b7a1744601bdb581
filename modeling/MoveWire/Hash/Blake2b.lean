import MoveWire.Hash.Words

/-!
The hash function BLAKE2b with a digest of 32 bytes and no key.
-/

namespace MoveWire.Hash.Blake2b

def initial : List UInt64 := [
  0x6a09e667f3bcc908, 0xbb67ae8584caa73b, 0x3c6ef372fe94f82b, 0xa54ff53a5f1d36f1,
  0x510e527fade682d1, 0x9b05688c2b3e6c1f, 0x1f83d9abfb41bd6b, 0x5be0cd19137e2179]

/-- The order in which each round takes the words of a block. -/
def schedule : List (List Nat) := [
  [0, 1, 2, 3, 4, 5, 6, 7, 8, 9, 10, 11, 12, 13, 14, 15],
  [14, 10, 4, 8, 9, 15, 13, 6, 1, 12, 0, 2, 11, 7, 5, 3],
  [11, 8, 12, 0, 5, 2, 15, 13, 10, 14, 3, 6, 7, 1, 9, 4],
  [7, 9, 3, 1, 13, 12, 11, 14, 2, 6, 5, 10, 4, 0, 15, 8],
  [9, 0, 5, 7, 2, 4, 10, 15, 14, 1, 11, 12, 6, 8, 3, 13],
  [2, 12, 6, 10, 0, 11, 8, 3, 4, 13, 7, 5, 15, 14, 1, 9],
  [12, 5, 1, 15, 14, 13, 4, 10, 0, 7, 6, 3, 9, 2, 8, 11],
  [13, 11, 7, 14, 12, 1, 3, 9, 5, 0, 15, 4, 8, 6, 2, 10],
  [6, 15, 14, 9, 11, 3, 0, 8, 12, 2, 13, 7, 1, 4, 10, 5],
  [10, 2, 8, 4, 7, 6, 1, 5, 15, 11, 9, 14, 3, 12, 13, 0],
  [0, 1, 2, 3, 4, 5, 6, 7, 8, 9, 10, 11, 12, 13, 14, 15],
  [14, 10, 4, 8, 9, 15, 13, 6, 1, 12, 0, 2, 11, 7, 5, 3]]

/-- Mixes two words of a block into four words of the state. -/
def mix (v : Array UInt64) (a b c d : Nat) (x y : UInt64) : Array UInt64 :=
  let va := v.getD a 0 + v.getD b 0 + x
  let vd := rotateRight (v.getD d 0 ^^^ va) 32
  let vc := v.getD c 0 + vd
  let vb := rotateRight (v.getD b 0 ^^^ vc) 24
  let va := va + vb + y
  let vd := rotateRight (vd ^^^ va) 16
  let vc := vc + vd
  let vb := rotateRight (vb ^^^ vc) 63
  (((v.setIfInBounds a va).setIfInBounds b vb).setIfInBounds c vc).setIfInBounds d vd

/-- The words of the state that are mixed together, columns first and diagonals after them. -/
def lanes : List (Nat × Nat × Nat × Nat) := [
  (0, 4, 8, 12), (1, 5, 9, 13), (2, 6, 10, 14), (3, 7, 11, 15),
  (0, 5, 10, 15), (1, 6, 11, 12), (2, 7, 8, 13), (3, 4, 9, 14)]

def mixLanes (m v : Array UInt64) : List (Nat × Nat × Nat × Nat) → List Nat → Array UInt64
  | (a, b, c, d) :: lanes, i :: j :: order =>
    mixLanes m (mix v a b c d (m.getD i 0) (m.getD j 0)) lanes order
  | _, _ => v

/-- Takes a block into the state; `count` bytes of the message end with it. -/
def compress (h : List UInt64) (block : Bytes) (count : Nat) (last : Bool) : List UInt64 :=
  let m := (littleWords block).toArray
  let v := (h ++ initial).toArray
  let v := v.setIfInBounds 12 (v.getD 12 0 ^^^ UInt64.ofNat count)
  let v := if last then v.setIfInBounds 14 (v.getD 14 0 ^^^ 0xffffffffffffffff) else v
  let v := schedule.foldl (fun v order => mixLanes m v lanes order) v
  h.zipWith (· ^^^ ·) (v.toList.zipWith (· ^^^ ·) (v.toList.drop 8))

/-- Takes in the rest of a message, of which `count` bytes have been taken in; `blocks` bounds how
many blocks are left. -/
def absorb (h : List UInt64) (count : Nat) (message : Bytes) : (blocks : Nat) → List UInt64
  | 0 => h
  | blocks + 1 =>
    let block := message.take 128
    let rest := message.drop 128
    let count := count + block.length
    if rest.isEmpty then compress h (padRight 128 block) count true
    else absorb (compress h block count false) count rest blocks

/-- The state before the first block: the first word carries the digest's length. -/
def start : List UInt64 :=
  match initial with
  | w :: rest => (w ^^^ 0x01010020) :: rest
  | [] => []

def hash (message : Bytes) : FixedBytes 32 :=
  let digest := littleBytes ((absorb start 0 message (message.length / 128 + 1)).take 4)
  ⟨(padRight 32 digest).take 32, by simp [padRight]; omega⟩

end MoveWire.Hash.Blake2b
