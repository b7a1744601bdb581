import MoveWire.Json.Value
import MoveWire.Wire.Sink
import MoveWire.Wire.Text

/-!
Scripts of single reads and writes. A script goes on after a step that fails: from where a failed
read took its last byte, and behind the bytes that a failed write left in the buffer.
-/

namespace MoveWire

/-- What a read gives. -/
inductive Item where
  | nothing
  | flag (value : Bool)
  | count (value : Nat)
  | u8 (value : UInt8)
  | u16 (value : UInt16)
  | u32 (value : UInt32)
  | u64 (value : UInt64)
  | u128 (value : U128)
  | u256 (value : U256)
  | bytes (value : Bytes)
  | text (value : String)
  | numbers (value : List UInt16)
  | flags (value : List Bool)
  | texts (value : List String)
  | optional (value : Option UInt8)
  | variant (tag : Nat) (payload : Bytes)
  deriving DecidableEq, Repr

/-- What a read gave; numbers of more than 64 bits and bytes are text. -/
def Item.toJson : Item → Json
  | .nothing => .null
  | .flag v => .bool v
  | .count n => .ofNat n
  | .u8 v => .ofNat v.toNat
  | .u16 v => .ofNat v.toNat
  | .u32 v => .ofNat v.toNat
  | .u64 v => .ofNat v.toNat
  | .u128 v => .string (toString v.toNat)
  | .u256 v => .string (toString v.toNat)
  | .bytes v => .string (Bytes.toHex v)
  | .text v => .string v
  | .numbers v => .array (v.map fun n => .ofNat n.toNat)
  | .flags v => .array (v.map .bool)
  | .texts v => .array (v.map .string)
  | .optional v => .option (fun n => .ofNat n.toNat) v
  | .variant n payload => .array [.ofNat n, .string (Bytes.toHex payload)]

inductive ReadStep where
  | bool
  | u8
  | u16
  | u32
  | u64
  | u128
  | u256
  | uleb128
  | length
  | bytes
  | string
  | raw (n : Nat)
  | fixed (n : Nat)
  | tag (width : TagWidth)
  | numbers
  | flags
  | texts
  | optional
  | union (width : TagWidth) (size : Nat)
  | finish
  | remaining
  | atEnd
  deriving DecidableEq, Repr

def ReadStep.reader : ReadStep → Reader Item
  | .bool => .flag <$> Reader.bool
  | .u8 => .u8 <$> Reader.u8
  | .u16 => .u16 <$> Reader.u16
  | .u32 => .u32 <$> Reader.u32
  | .u64 => .u64 <$> Reader.u64
  | .u128 => .u128 <$> Reader.u128
  | .u256 => .u256 <$> Reader.u256
  | .uleb128 => .u32 <$> Reader.uleb128
  | .length => .count <$> Reader.length
  | .bytes => .bytes <$> Reader.bytes
  | .string => .text <$> Reader.string
  | .raw n => .bytes <$> Reader.raw n
  | .fixed n => (fun b => .bytes b.bytes) <$> Reader.fixed n
  | .tag width => .count <$> Reader.tag width
  | .numbers => .numbers <$> Reader.vector Reader.u16
  | .flags => .flags <$> Reader.vector Reader.bool
  | .texts => .texts <$> Reader.vector Reader.string
  | .optional => .optional <$> Reader.option Reader.u8
  | .union width size => do
    let n ← Reader.tag width
    .variant n <$> Reader.raw size
  | .finish => (fun _ => .nothing) <$> Reader.finish
  | .remaining => .count <$> Reader.remaining
  | .atEnd => .flag <$> Reader.atEnd

/-- Runs reads one after the other; each result stands with the cursor after it. -/
def ReadStep.run (cursor : Cursor) : List ReadStep → List (Fallible Item × Cursor)
  | [] => []
  | step :: rest =>
    match step.reader cursor with
    | .ok item next => (.ok item, next) :: run next rest
    | .error e next => (.error e, next) :: run next rest

/-- What a write does to a buffer: the bytes that it puts, and the error that it fails with behind
them, if it fails. -/
structure Output where
  bytes : Bytes
  fault : Option WireError
  deriving DecidableEq, Repr

namespace Output

def ready (bytes : Bytes) : Output := ⟨bytes, none⟩

/-- What a write does to an empty buffer. -/
def ofSink (write : Sink Unit) : Output :=
  match write [] with
  | .ok () bytes => ⟨bytes, none⟩
  | .error e bytes => ⟨bytes, some e⟩

def sink (out : Output) : Sink Unit := do
  Sink.put out.bytes
  match out.fault with
  | none => pure ()
  | some e => throw e

end Output

inductive WriteStep where
  | bool (value : Bool)
  | u8 (value : UInt8)
  | u16 (value : UInt16)
  | u32 (value : UInt32)
  | u64 (value : UInt64)
  | u128 (value : U128)
  | u256 (value : U256)
  | fixed (value : Bytes)
  | uleb128 (value : UInt32)
  | length (value : Nat)
  | bytes (value : Bytes)
  | string (value : String)
  | tag (width : TagWidth) (value : UInt32)
  | numbers (value : List UInt16)
  | optional (value : Option UInt8)
  | variant (width : TagWidth) (value : UInt32) (payload : Output)
  deriving DecidableEq, Repr

/-- A variant whose payload is ready. -/
def WriteStep.union (width : TagWidth) (value : UInt32) (payload : Bytes) : WriteStep :=
  .variant width value (.ready payload)

def WriteStep.writer : WriteStep → Sink Unit
  | .bool v => .put (Writer.bool v)
  | .u8 v => .put [v]
  | .u16 v => .put (Writer.u16 v)
  | .u32 v => .put (Writer.u32 v)
  | .u64 v => .put (Writer.u64 v)
  | .u128 v => .put (Writer.u128 v)
  | .u256 v => .put (Writer.u256 v)
  | .fixed v => .put v
  | .uleb128 v => .put (Writer.uleb128 v)
  | .length v => .length v
  | .bytes v => .bytes v
  | .string v => .string v
  | .tag width v => .tag width v
  | .numbers v => .vector (fun n => .put (Writer.u16 n)) v
  | .optional v => .option (fun b => .put [b]) v
  | .variant width v payload => .union width v payload.sink

/-- Runs writes one after the other behind the bytes written before; each result is the length of
all that is written after it. -/
def WriteStep.run (written : Bytes) : List WriteStep → List (Fallible Nat) × Bytes
  | [] => ([], written)
  | step :: rest =>
    match step.writer written with
    | .ok () next =>
      let (results, final) := run next rest
      (.ok next.length :: results, final)
    | .error e next =>
      let (results, final) := run next rest
      (.error e :: results, final)

end MoveWire
