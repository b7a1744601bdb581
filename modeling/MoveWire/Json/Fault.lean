import MoveWire.Json.Mark

/-!
Why a text is not the JSON that was asked for, and where: the line and the column, in bytes, at
which reading stopped.
-/

namespace MoveWire.Json

inductive Reason where
  | endInList
  | endInObject
  | endInString
  | endInValue
  | expectedColon
  | expectedListEnd
  | expectedObjectEnd
  | expectedIdent
  | expectedValue
  | invalidEscape
  | invalidNumber
  | numberRange
  | invalidCodePoint
  | controlCharacter
  | keyNotString
  | loneSurrogate
  | endOfHexEscape
  | trailingComma
  | trailingCharacters
  | recursionLimit
  | mismatch (found expected : String)
  deriving DecidableEq, Repr

def Reason.message : Reason → String
  | .endInList => "EOF while parsing a list"
  | .endInObject => "EOF while parsing an object"
  | .endInString => "EOF while parsing a string"
  | .endInValue => "EOF while parsing a value"
  | .expectedColon => "expected `:`"
  | .expectedListEnd => "expected `,` or `]`"
  | .expectedObjectEnd => "expected `,` or `\x7d`"
  | .expectedIdent => "expected ident"
  | .expectedValue => "expected value"
  | .invalidEscape => "invalid escape"
  | .invalidNumber => "invalid number"
  | .numberRange => "number out of range"
  | .invalidCodePoint => "invalid unicode code point"
  | .controlCharacter =>
    "control character (\\u0000-\\u001F) found while parsing a string"
  | .keyNotString => "key must be a string"
  | .loneSurrogate => "lone leading surrogate in hex escape"
  | .endOfHexEscape => "unexpected end of hex escape"
  | .trailingComma => "trailing comma"
  | .trailingCharacters => "trailing characters"
  | .recursionLimit => "recursion limit exceeded"
  | .mismatch found expected => s!"invalid type: {found}, expected {expected}"

/-- A refusal and the bytes that were unread when it was made. -/
structure Fault where
  reason : Reason
  unread : List UInt8
  deriving DecidableEq

/-- The line, counted from one, and the column at which a text of these bytes was left off. -/
def Fault.place (whole : List UInt8) (fault : Fault) : Nat × Nat :=
  let read := whole.take (whole.length - fault.unread.length)
  (read.count Mark.lineFeed + 1, (read.reverse.takeWhile (· ≠ Mark.lineFeed)).length)

def Fault.message (whole : List UInt8) (fault : Fault) : String :=
  let (line, column) := fault.place whole
  s!"{fault.reason.message} at line {line} column {column}"

end MoveWire.Json
