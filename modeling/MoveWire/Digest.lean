import MoveWire.Json.Value
import MoveWire.Text.Base58
import MoveWire.Wire.Text

/-!
Digests: 32 bytes that stand for a content, one type for each kind of content. A digest is written
with its length in front, unlike an address, and its text is Base58.
-/

namespace MoveWire

inductive DigestKind where
  | object
  | transaction
  | effects
  deriving DecidableEq, Repr

structure Digest (kind : DigestKind) where
  raw : FixedBytes 32
  deriving DecidableEq

abbrev ObjectDigest := Digest .object

abbrev TransactionDigest := Digest .transaction

abbrev EffectsDigest := Digest .effects

def DigestKind.label : DigestKind → String
  | .object => "object digest"
  | .transaction => "transaction digest"
  | .effects => "effects digest"

def DigestKind.typeName : DigestKind → String
  | .object => "ObjectDigest"
  | .transaction => "TransactionDigest"
  | .effects => "TransactionEffectsDigest"

namespace Digest

variable {kind : DigestKind}

def bytes (d : Digest kind) : Bytes := d.raw.bytes

def zero : Digest kind := ⟨.zero 32⟩

def text (d : Digest kind) : String := Text.Base58.encode d.bytes

def debugText (d : Digest kind) : String := kind.typeName ++ "(" ++ d.text ++ ")"

def parse (text : String) : Fallible (Digest kind) :=
  match Text.Base58.decode? text with
  | none => .error (.text (.base58 kind.label text))
  | some bytes =>
    match FixedBytes.ofBytes? 32 bytes with
    | some raw => .ok ⟨raw⟩
    | none => .error (.invalid (.digestLength kind.label bytes.length))

def codec : Codec (Digest kind) where
  write d := Writer.bytes d.bytes
  read := do
    let start ← Reader.offset
    let bytes ← Reader.bytes
    match FixedBytes.ofBytes? 32 bytes with
    | some raw => pure ⟨raw⟩
    | none => throw (.invalid (.digestLengthAt kind.label start bytes.length))

def toJson (d : Digest kind) : Json := .string d.text

end Digest

end MoveWire
