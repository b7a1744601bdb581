import MoveWire.Text.Blank
import MoveWire.Wire.Codec

/-!
Byte strings as text. Hexadecimal text may carry a mark in front, Base64 text may not; a text of
unknown notation is hexadecimal exactly when it has the mark. Blanks around a text do not count.
-/

namespace MoveWire

/-- The text after a hexadecimal mark, or all of it if it has none. -/
def dropHexMark (cs : List Char) : List Char :=
  match cs with
  | '0' :: 'x' :: rest => rest
  | '0' :: 'X' :: rest => rest
  | _ => cs

def hasHexMark : List Char → Bool
  | '0' :: 'x' :: _ => true
  | '0' :: 'X' :: _ => true
  | _ => false

namespace Bytes

def ofChars (cs : List Char) : Bytes := Text.Utf8.encode (String.ofList cs)

def toHex (bytes : Bytes) : String := Text.Hex.encode bytes

def toMarkedHex (bytes : Bytes) : String := "0x" ++ toHex bytes

def toBase64 (bytes : Bytes) : String := Text.Base64.encode bytes

/-- Reads hexadecimal text; `context` names it in a refusal. -/
def ofHex (text context : String) : Fallible Bytes :=
  match Text.Hex.decode (ofChars (dropHexMark (Text.trim text.toList))) with
  | .ok bytes => .ok bytes
  | .error fault => .error (.text (.hex context text fault))

/-- Reads Base64 text; `context` names it in a refusal. -/
def ofBase64 (text context : String) : Fallible Bytes :=
  match Text.Base64.decode (ofChars (Text.trim text.toList)) with
  | .ok bytes => .ok bytes
  | .error fault => .error (.text (.base64 context fault))

/-- Reads hexadecimal text with a mark, or else Base64 text. -/
def ofText (text context : String) : Fallible Bytes :=
  let trimmed := Text.trimString text
  if hasHexMark trimmed.toList then ofHex trimmed context else ofBase64 trimmed context

end Bytes

namespace Codec

variable {α : Type}

/-- How a whole encoded value is named in a refusal. -/
def payloadName : String := "BCS payload"

def toHex (c : Codec α) (a : α) : Fallible String := Bytes.toHex <$> c.encode a

def toBase64 (c : Codec α) (a : α) : Fallible String := Bytes.toBase64 <$> c.encode a

def ofHex (c : Codec α) (text : String) : Fallible α := do
  c.decode (← Bytes.ofHex text payloadName)

def ofBase64 (c : Codec α) (text : String) : Fallible α := do
  c.decode (← Bytes.ofBase64 text payloadName)

end Codec

end MoveWire
