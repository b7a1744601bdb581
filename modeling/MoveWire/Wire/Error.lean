import MoveWire.Text.Base64
import MoveWire.Text.Hex
import MoveWire.Text.Utf8

/-!
Everything that can go wrong between values, bytes and text. An error holds its cause as data;
`kind` is its short name and `message` its one wording.
-/

namespace MoveWire

/-- Nesting of `vector`, `option` and type arguments that types in text and in bytes may reach. -/
def maxTypeDepth : Nat := 128

/-- Bytes or values that break a rule of their form. -/
inductive InvalidCause where
  | boolByte (offset : Nat) (got : UInt8)
  | optionTag (offset : Nat) (got : UInt8)
  | longUleb128 (offset : Nat)
  | notUtf8 (offset : Nat) (fault : Text.Utf8.Fault)
  | addressDigits (text : String) (found : Nat)
  | addressHex (text : String) (fault : Text.Hex.Fault)
  | addressLength (found : Nat)
  | literalStart (literal : String)
  | literalDigits (literal : String)
  | literalHex (literal : String)
  | digestLength (label : String) (found : Nat)
  | digestLengthAt (label : String) (offset found : Nat)
  | notInteger (text : String)
  | jsonMismatch (json type : String)
  | valueMismatch (kind type : String)
  | wrongValueFor (name : String)
  | expectsPure (type : String)
  | decodesOther (name expected : String)
  | typeTagDepth (offset : Nat)
  | identifier (name : String) (offset : Nat)
  | recipientCount (recipients amounts : Nat)
  | noCoins
  | untypedEmptyVector
  | typeParameterRange (token : String) (given : Nat)
  | missingInput (site : String) (index : Nat)
  | conflictingUses (index : Nat) (first second site : String)
  | pureForObject (site : String) (index : Nat) (parameter : String)
  | argumentCount (site : String) (expected given : Nat)
  | inputValue (index : Nat) (type reason : String)
  | signature (reason : String)
  deriving DecidableEq, Repr

/-- Values that do not fit the width they are written in. -/
inductive RangeCause where
  | length (n : Nat)
  | discriminant (tag : Nat)
  | negative (value : Int) (bits : Nat)
  | tooWide (value : Int) (bytes bits width : Nat)
  | jsonInteger (value : Int) (type : String)
  | gasBudget (budget : Nat)
  | slot (what : String) (index : Nat)
  deriving DecidableEq, Repr

/-- Type texts that break the grammar. -/
inductive ParseCause where
  | depth
  | empty
  | unterminatedVector (type : String)
  | noElementType (type : String)
  | unknownType (type : String)
  | structShape (type : String)
  | structAddress (address type : String)
  | structName (name type : String)
  | unterminatedArguments (type : String)
  | noArguments (type : String)
  | emptyArgument (type : String)
  | unbalancedClose (text : String)
  | unbalancedOpen (text : String)
  | typeParameter (token : String)
  deriving DecidableEq, Repr

/-- Text that does not spell bytes. -/
inductive TextCause where
  | base64 (context : String) (fault : Text.Base64.Fault)
  | hex (context text : String) (fault : Text.Hex.Fault)
  | base58 (label text : String)
  deriving DecidableEq, Repr

inductive WireError where
  | unexpectedEof (offset needed remaining : Nat)
  | invalid (cause : InvalidCause)
  | range (cause : RangeCause)
  | overflow (offset : Nat)
  | unknownVariant (typeName : String) (tag : Nat)
  | unknownType (name : String)
  | parse (cause : ParseCause)
  | trailingBytes (remaining : Nat)
  | text (cause : TextCause)
  | duplicateRegistration (name : String)
  deriving DecidableEq, Repr

def InvalidCause.message : InvalidCause → String
  | .boolByte offset got => s!"bool at offset {offset} must be 0 or 1, got {got.toNat}"
  | .optionTag offset got => s!"option tag at offset {offset} must be 0 or 1, got {got.toNat}"
  | .longUleb128 offset => s!"non-canonical ULEB128 at offset {offset}"
  | .notUtf8 offset fault => s!"string at offset {offset} is not UTF-8: {fault.message}"
  | .addressDigits text found => s!"address '{text}' must have 64 hex characters, found {found}"
  | .addressHex text fault => s!"address '{text}' is not hex: {fault.message}"
  | .addressLength found => s!"address must be 32 bytes, got {found}"
  | .literalStart literal => s!"address literal '{literal}' must start with 0x"
  | .literalDigits literal => s!"address literal '{literal}' must have 1 to 64 hex digits"
  | .literalHex literal => s!"address literal '{literal}' is not hex"
  | .digestLength label found => s!"{label} must be 32 bytes, got {found}"
  | .digestLengthAt label offset found =>
    s!"{label} at offset {offset} must be 32 bytes, got {found}"
  | .notInteger text => s!"'{text}' is not an integer"
  | .jsonMismatch json type => s!"JSON {json} is not a valid {type}"
  | .valueMismatch kind type => s!"value {kind} does not have type {type}"
  | .wrongValueFor name => s!"value passed for '{name}' has the wrong type"
  | .expectsPure type => s!"'{type}' expects a PureValue"
  | .decodesOther name expected => s!"'{name}' does not decode to {expected}"
  | .typeTagDepth offset =>
    s!"type tag at offset {offset} nests deeper than {maxTypeDepth} levels"
  | .identifier name offset => s!"'{name}' at offset {offset} is not a valid Move identifier"
  | .recipientCount recipients amounts =>
    s!"pay_sui got {recipients} recipients but {amounts} amounts"
  | .noCoins => "smash_coins needs at least one coin"
  | .untypedEmptyVector => "make_move_vec needs an element type when there are no elements"
  | .typeParameterRange token given =>
    s!"type parameter {token} out of range, call has {given} type arguments"
  | .missingInput site index => s!"{site} references missing input {index}"
  | .conflictingUses index first second site =>
    s!"input {index} is used as both {first} and {second} ({site})"
  | .pureForObject site index parameter =>
    s!"{site}: pure input {index} passed for object parameter {parameter}"
  | .argumentCount site expected given => s!"{site} takes {expected} arguments, {given} given"
  | .inputValue index type reason => s!"input {index} does not decode as {type}: {reason}"
  | .signature reason => reason

def RangeCause.message : RangeCause → String
  | .length n => s!"length {n} exceeds the 32-bit ULEB128 limit"
  | .discriminant tag => s!"discriminant {tag} exceeds one byte"
  | .negative value bits => s!"negative value {value} cannot be encoded as u{bits}"
  | .tooWide value bytes bits width =>
    s!"value {value} has {bytes} significant bytes, u{bits} holds {width}"
  | .jsonInteger value type => s!"{value} does not fit {type}"
  | .gasBudget budget => s!"gas budget {budget} does not fit u64"
  | .slot what index => s!"{what} index {index} exceeds u16"

def ParseCause.message : ParseCause → String
  | .depth => s!"type nests deeper than {maxTypeDepth} levels"
  | .empty => "empty type string"
  | .unterminatedVector type => s!"unterminated vector type '{type}'"
  | .noElementType type => s!"vector type '{type}' has no element type"
  | .unknownType type => s!"unknown type '{type}'"
  | .structShape type => s!"struct type '{type}' must look like address::module::Name"
  | .structAddress address type => s!"invalid address '{address}' in '{type}'"
  | .structName name type => s!"invalid identifier '{name}' in '{type}'"
  | .unterminatedArguments type => s!"unterminated type arguments in '{type}'"
  | .noArguments type => s!"empty type argument list in '{type}'"
  | .emptyArgument type => s!"empty type argument in '{type}'"
  | .unbalancedClose text => s!"unbalanced '>' in '{text}'"
  | .unbalancedOpen text => s!"unbalanced '<' in '{text}'"
  | .typeParameter token => s!"bad type parameter '{token}'"

/-- The wording for text that is no Base58, which does not say where it breaks. -/
def invalidValueText : String := "Invalid value was given to the function"

def TextCause.message : TextCause → String
  | .base64 context fault => s!"{context} is not valid base64: {fault.message}"
  | .hex context text fault => s!"{context} is not valid hex '{text}': {fault.message}"
  | .base58 label text => s!"{label} '{text}' is not valid base58: {invalidValueText}"

def WireError.kind : WireError → String
  | .unexpectedEof .. => "UnexpectedEof"
  | .invalid _ => "InvalidEncoding"
  | .range _ => "RangeError"
  | .overflow _ => "Overflow"
  | .unknownVariant .. => "UnknownVariant"
  | .unknownType _ => "UnknownType"
  | .parse _ => "ParseError"
  | .trailingBytes _ => "TrailingBytes"
  | .text _ => "Encoding"
  | .duplicateRegistration _ => "DuplicateRegistration"

def WireError.message : WireError → String
  | .unexpectedEof offset needed remaining =>
    s!"unexpected end of input at offset {offset}: needed {needed} byte(s), {remaining} remaining"
  | .invalid cause => s!"invalid encoding: {cause.message}"
  | .range cause => s!"value out of range: {cause.message}"
  | .overflow offset => s!"ULEB128 value at offset {offset} exceeds 32 bits"
  | .unknownVariant typeName tag => s!"unknown variant {tag} for {typeName}"
  | .unknownType name => s!"unknown type: {name}"
  | .parse cause => s!"parse error: {cause.message}"
  | .trailingBytes remaining => s!"{remaining} trailing byte(s) after decoded value"
  | .text cause => s!"text decoding failed: {cause.message}"
  | .duplicateRegistration name =>
    s!"type name '{name}' is already registered with a different codec"

/-- A result of reading or writing that may fail with a wire error. -/
abbrev Fallible := Except WireError

end MoveWire
