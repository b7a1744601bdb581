import MoveWire.Json.Value
import MoveWire.Text.Casing
import MoveWire.Wire.Text

/-!
Addresses of accounts, objects and packages: 32 bytes, written as hexadecimal digits of a
big-endian number. The full text has all 64 digits; a literal has a mark and may leave zeros out.
-/

namespace MoveWire

structure Address where
  raw : FixedBytes 32
  deriving DecidableEq

abbrev ObjectId := Address

namespace Address

instance : Ord Address := ⟨fun a b => compare a.raw b.raw⟩

def bytes (a : Address) : Bytes := a.raw.bytes

instance : Hashable Address := ⟨fun a => hash a.bytes⟩

def zero : Address := ⟨.zero 32⟩

/-- The address whose number is `n`, without the digits that it has no room for. -/
def ofNat (n : Nat) : Address := ⟨⟨(Bytes.ofNat 32 n).reverse, by simp⟩⟩

def ofU16 (n : UInt16) : Address := ofNat n.toNat

/-- The address of the packages that come with the language. -/
def stdlib : Address := ofNat 1

/-- The address of the packages that come with the chain. -/
def framework : Address := ofNat 2

def ofBytes (bytes : Bytes) : Fallible Address :=
  match FixedBytes.ofBytes? 32 bytes with
  | some raw => .ok ⟨raw⟩
  | none => .error (.invalid (.addressLength bytes.length))

/-- Reads the full text, with or without the mark. -/
def parse (text : String) : Fallible Address :=
  let digits := Bytes.ofChars (dropHexMark (Text.trim text.toList))
  if digits.length ≠ 64 then .error (.invalid (.addressDigits text digits.length))
  else
    match Text.Hex.decode digits with
    | .error fault => .error (.invalid (.addressHex text fault))
    | .ok bytes => ofBytes bytes

/-- Fills a text up to 64 characters with zeros in front. -/
def padDigits (cs : List Char) : List Char := List.replicate (64 - cs.length) '0' ++ cs

/-- Reads a literal: the mark and one to 64 digits. -/
def parseLiteral (literal : String) : Fallible Address :=
  match Text.stripStart? ['0', 'x'] literal.toList with
  | none => .error (.invalid (.literalStart literal))
  | some digits =>
    let size := (Bytes.ofChars digits).length
    if size = 0 || 64 < size then .error (.invalid (.literalDigits literal))
    else
      match parse (String.ofList (padDigits digits)) with
      | .ok address => .ok address
      | .error _ => .error (.invalid (.literalHex literal))

def bareText (a : Address) : String := Bytes.toHex a.bytes

def text (a : Address) : String := "0x" ++ a.bareText

/-- Digits without zeros in front, but at least one. -/
def shortDigits (digits : List Char) : List Char :=
  match digits.dropWhile (· == '0') with
  | [] => ['0']
  | rest => rest

def shortText (a : Address) : String :=
  "0x" ++ String.ofList (shortDigits (Text.Hex.encodeChars a.bytes))

def debugText (a : Address) : String := "SuiAddress(" ++ a.shortText ++ ")"

/-- The text of an address, lowercase, with the mark and filled up with zeros; no digit is
checked. -/
def normalizedDigits (text : String) : List Char :=
  padDigits (Text.Casing.lowercase
    (String.ofList (dropHexMark (Text.trim text.toList)))).toList

def normalize (text : String) : String := "0x" ++ String.ofList (normalizedDigits text)

def normalizeShort (text : String) : String :=
  "0x" ++ String.ofList (shortDigits (normalizedDigits text))

def codec : Codec Address := (Codec.fixed 32).map Address.mk Address.raw

def toJson (a : Address) : Json := .string a.text

end Address

end MoveWire
