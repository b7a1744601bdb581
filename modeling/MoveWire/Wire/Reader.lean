import MoveWire.Wire.Bytes
import MoveWire.Wire.Error

/-!
Reading from the front of a byte string. A reader moves a cursor forward and never back; when it
fails, the cursor stays where the last byte was taken, so that a later read can go on from there.
-/

namespace MoveWire

/-- The bytes not read yet, and how many have been read before them. -/
structure Cursor where
  offset : Nat
  rest : Bytes
  deriving DecidableEq, Repr

abbrev Reader := EStateM WireError Cursor

abbrev U128 := BitVec 128

abbrev U256 := BitVec 256

def Cursor.start (bytes : Bytes) : Cursor := ⟨0, bytes⟩

namespace Reader

def offset : Reader Nat := fun cursor => .ok cursor.offset cursor

def remaining : Reader Nat := fun cursor => .ok cursor.rest.length cursor

def atEnd : Reader Bool := fun cursor => .ok cursor.rest.isEmpty cursor

/-- Refuses what is left unread. -/
def finish : Reader Unit := fun cursor =>
  if cursor.rest.isEmpty then .ok () cursor
  else .error (.trailingBytes cursor.rest.length) cursor

/-- The next `n` bytes; a failed read takes none. -/
def raw (n : Nat) : Reader Bytes := fun cursor =>
  let taken := cursor.rest.take n
  if taken.length = n then .ok taken ⟨cursor.offset + n, cursor.rest.drop n⟩
  else .error (.unexpectedEof cursor.offset n cursor.rest.length) cursor

def fixed (n : Nat) : Reader (FixedBytes n) := fun cursor =>
  let taken := cursor.rest.take n
  if h : taken.length = n then .ok ⟨taken, h⟩ ⟨cursor.offset + n, cursor.rest.drop n⟩
  else .error (.unexpectedEof cursor.offset n cursor.rest.length) cursor

/-- A number of `width` little-endian bytes. -/
def number (width : Nat) : Reader Nat := Bytes.toNat <$> raw width

def u8 : Reader UInt8 := fun cursor =>
  match cursor.rest with
  | [] => .error (.unexpectedEof cursor.offset 1 0) cursor
  | b :: rest => .ok b ⟨cursor.offset + 1, rest⟩

def u16 : Reader UInt16 := UInt16.ofNat <$> number 2

def u32 : Reader UInt32 := UInt32.ofNat <$> number 4

def u64 : Reader UInt64 := UInt64.ofNat <$> number 8

def u128 : Reader U128 := BitVec.ofNat 128 <$> number 16

def u256 : Reader U256 := BitVec.ofNat 256 <$> number 32

def bool : Reader Bool := do
  let start ← offset
  let b ← u8
  if b = 0 then pure false
  else if b = 1 then pure true
  else throw (.invalid (.boolByte start b))

/-- Seven payload bits a byte, lowest first, in at most `left` bytes; the top bit says that more
follow. The last byte may be zero only if it is the first, and the whole has to fit 32 bits. -/
def uleb128From (start value shift : Nat) : (left : Nat) → Reader UInt32
  | 0 => throw (.overflow start)
  | left + 1 => do
    let b ← u8
    let value := value + b.toNat % 128 * 2 ^ shift
    if b < 128 then
      if 0 < shift ∧ b = 0 then throw (.invalid (.longUleb128 start))
      else if value < 2 ^ 32 then pure (UInt32.ofNat value)
      else throw (.overflow start)
    else uleb128From start value (shift + 7) left

def uleb128 : Reader UInt32 := do
  let start ← offset
  uleb128From start 0 0 5

/-- How many bytes or items follow. -/
def length : Reader Nat := UInt32.toNat <$> uleb128

def bytes : Reader Bytes := do
  let n ← length
  raw n

def string : Reader String := do
  let start ← offset
  let read ← bytes
  match Text.Utf8.decode read with
  | .ok s => pure s
  | .error fault => throw (.invalid (.notUtf8 start fault))

/-- Reads `n` items one after the other, in front of which the items of `acc` have been read. -/
def items {α : Type} (item : Reader α) (acc : List α) : (n : Nat) → Reader (List α)
  | 0 => pure acc.reverse
  | n + 1 => do
    let a ← item
    items item (a :: acc) n

def vector {α : Type} (item : Reader α) : Reader (List α) := do
  let n ← length
  items item [] n

def option {α : Type} (item : Reader α) : Reader (Option α) := do
  let start ← offset
  let b ← u8
  if b = 0 then pure none
  else if b = 1 then some <$> item
  else throw (.invalid (.optionTag start b))

end Reader

/-- How many bytes the number of a variant takes. -/
inductive TagWidth where
  | one
  | four
  deriving DecidableEq, Repr

def Reader.tag : TagWidth → Reader Nat
  | .one => UInt8.toNat <$> Reader.u8
  | .four => UInt32.toNat <$> Reader.u32

/-- Reads a value that takes up the whole byte string. -/
def Reader.readAll {α : Type} (reader : Reader α) (bytes : Bytes) : Fallible α :=
  match (do let a ← reader; Reader.finish; pure a : Reader α) (Cursor.start bytes) with
  | .ok a _ => .ok a
  | .error e _ => .error e

end MoveWire
