import MoveWire.Cli.Arguments
import MoveWire.Cli.Failure
import MoveWire.Cli.LogFilter
import MoveWire.Json.Parser
import MoveWire.Json.TextLists
import MoveWire.Move.TypeTag.Parser
import MoveWire.Signing.SignedTransaction
import MoveWire.Transaction.Resolution

/-!
The command line program as a function: from the words of a command line, and what the run may
read, to what it writes. Bytes come as Base64 or as marked hexadecimal text, or from the standard
input where a hyphen stands for them.
-/

namespace MoveWire.Cli

/-- All that a run may read. A text that cannot be read is the reason why. -/
structure Sources where
  env : Environment
  stdin : Except String String
  file : String → Except String String
  entropy : FixedBytes 32

structure Outcome where
  code : Nat
  stdout : String
  stderr : String
  deriving DecidableEq, Repr

namespace Task

def name : Task → String
  | .decodeTx .. => "decode-tx"
  | .digest _ => "digest"
  | .encodePure .. => "encode-pure"
  | .decodePure .. => "decode-pure"
  | .typeTag .. => "type-tag"
  | .keygen => "keygen"
  | .address _ => "address"
  | .sign .. => "sign"

/-- Words that may stand for the standard input. -/
def inputs : Task → List String
  | .decodeTx bytes _ => [bytes]
  | .digest bytes => [bytes]
  | .encodePure _ value => [value]
  | .decodePure _ bytes => [bytes]
  | .typeTag text _ => [text]
  | .sign text .. => [text]
  | _ => []

def readsStdin (task : Task) : Bool := task.inputs.contains "-"

def file? : Task → Option String
  | .decodeTx _ signatures => signatures
  | _ => none

end Task

variable (sources : Sources)

/-- The text of a word, or of the standard input, without blanks around it. -/
def readInput (word : String) : Run String :=
  if word == "-" then
    match sources.stdin with
    | .ok text => .ok (Text.trimString text)
    | .error reason => (Run.fail (.outside reason)).within "failed to read stdin"
  else .ok (Text.trimString word)

def readBytes (word what : String) : Run Bytes := do
  Run.ofWire (Bytes.ofText (← readInput sources word) what)

def readTransaction (word : String) : Run TransactionData := do
  let bytes ← readBytes sources word "transaction bytes"
  (Run.ofWire (TransactionData.codec.decode bytes)).within "failed to decode TransactionData"

/-- A function and its parameters out of an entry of a signature file. -/
def signatureEntry (target : String) (parameters : List String) :
    Run (FunctionName × List String) := do
  let some (package, rest) := TypeTag.splitPath? target.toList
    | Run.fail (.functionName target)
  let some (moduleName, function) := TypeTag.splitPath? rest | Run.fail (.functionName target)
  let package ← (Run.ofWire (Address.parseLiteral (String.ofList package))).within
    s!"invalid package address in '{target}'"
  return (⟨package, String.ofList moduleName, String.ofList function⟩, parameters)

def readSignatures (path : String) : Run Signatures := do
  let text ← match sources.file path with
    | .ok text => .ok text
    | .error reason => (Run.fail (.outside reason)).within s!"failed to read {path}"
  let entries ← match Json.parseTextLists text with
    | .ok entries => .ok entries
    | .error fault =>
      (Run.fail (.outside (fault.message (Text.Utf8.encode text)))).within
        s!"{path} is not a signature map"
  return Signatures.ofList (← entries.mapM fun (target, parameters) =>
    signatureEntry target parameters)

/-- A JSON text, or any other text as a string. -/
def jsonOrText (text : String) : Json :=
  match Json.parse text with
  | .ok json => json
  | .error _ => .string text

/-- Reads a secret of 64 hexadecimal digits, or an entry of a key store. -/
def parseKey (text : String) : Run KeyPair :=
  let text := Text.trimString text
  let digits := (Text.stripStart? ['0', 'x'] text.toList).getD text.toList
  if digits.length = 64 && digits.all Text.Hex.isDigit then
    Run.ofSigned (KeyPair.parseHex (String.ofList digits))
  else
    (Run.ofSigned (KeyPair.parseEntry text)).within
      "key is neither 64 hex digits nor a Base64 keystore entry"

def resolveKey (config : Config) (key : Option String) : Run KeyPair :=
  match key <|> config.key with
  | some text => parseKey text
  | none => Run.fail .noKey

def line (text : String) : String := text ++ "\n"

def jsonText (fields : List (String × Json)) : String := (Json.record fields).pretty

def bytesText (format : OutputFormat) (bytes : Bytes) : String :=
  match format with
  | .hex => Bytes.toMarkedHex bytes
  | .base64 => Bytes.toBase64 bytes
  | .json => jsonText [
      ("hex", .string (Bytes.toMarkedHex bytes)),
      ("base64", .string (Bytes.toBase64 bytes)),
      ("length", .ofNat bytes.length)]

def decodeTx (config : Config) (word : String) (signatures : Option String) : Run String := do
  let data ← readTransaction sources word
  let data ← match signatures with
    | none => pure data
    | some path => do
      let table ← readSignatures sources path
      (Run.ofWire (data.resolve (Signatures.source table))).within
        "failed to resolve pure inputs"
  match config.output with
  | .json => do
    let digest ← Run.ofWire data.digest
    return jsonText [
      ("digest", digest.toJson), ("sender", data.sender.toJson), ("transaction", data.toJson)]
  | format => do return bytesText format (← Run.ofWire (TransactionData.codec.encode data))

def showDigest (config : Config) (word : String) : Run String := do
  let digest ← Run.ofWire (← readTransaction sources word).digest
  return if config.output = .json then jsonText [("digest", digest.toJson)] else digest.text

def encodePure (config : Config) (type word : String) : Run String := do
  let text ← readInput sources word
  let bytes ← (Run.ofWire (PureType.encodeJson type (jsonOrText text))).within
    s!"cannot encode {text} as {type}"
  return bytesText config.output bytes

def decodePure (type word : String) : Run String := do
  let bytes ← readBytes sources word "pure bytes"
  let json ← (Run.ofWire (PureType.decodeJson type bytes)).within
    s!"cannot decode bytes as {type}"
  return json.compact

def readTypeTag (word : String) (fromBytes : Bool) : Run TypeTag := do
  if fromBytes then
    let bytes ← readBytes sources word "type tag bytes"
    (Run.ofWire (TypeTag.codec.decode bytes)).within "failed to decode TypeTag"
  else
    let text ← readInput sources word
    (Run.ofWire (TypeTag.parse text)).within s!"failed to parse '{text}'"

def showTypeTag (config : Config) (word : String) (fromBytes : Bool) : Run String := do
  let tag ← readTypeTag sources word fromBytes
  let bytes ← Run.ofWire (TypeTag.codec.encode tag)
  match config.output with
  | .json => return jsonText [
      ("type", .string (tag.canonicalText config.normalize)),
      ("short", .string tag.text),
      ("normalized", .string (tag.canonicalText true)),
      ("bcs", .string (Bytes.toMarkedHex bytes))]
  | format => return bytesText format bytes

/-- The texts of a new key. -/
def showNewKey (config : Config) : String :=
  let key : KeyPair := ⟨sources.entropy⟩
  let secret := "0x" ++ key.secretText
  match config.output with
  | .json => jsonText [
      ("address", (key.address .standard).toJson),
      ("public_key", .string (Bytes.toBase64 (key.publicKey .standard).bytes)),
      ("secret_key", .string secret),
      ("keystore", .string key.entryText),
      ("scheme", .string "ed25519")]
  | .hex => secret
  | .base64 => key.entryText

def showAddress (config : Config) (key : Option String) : Run String := do
  let address := (← resolveKey config key).address .standard
  return if config.output = .json then jsonText [("address", address.toJson)] else address.text

def signPersonal (config : Config) (key : KeyPair) (word : String) : Run String := do
  let message := Text.Utf8.encode (← readInput sources word)
  let signature ← Run.ofSigned (key.signPersonal .standard message)
  return if config.output = .json then jsonText [
      ("message", .string (Bytes.toBase64 message)),
      ("signature", signature.toJson),
      ("signer", (key.address .standard).toJson)]
    else signature.text

def signTransaction (config : Config) (key : KeyPair) (word : String) : Run String := do
  let data ← readTransaction sources word
  let signed ← Run.ofSigned (SignedTransaction.sign .standard data key)
  let (bytes, signatures) ← Run.ofWire signed.executionTexts
  if config.output = .json then
    let digest ← Run.ofWire signed.digest
    return jsonText [
      ("digest", digest.toJson),
      ("tx_bytes", .string bytes),
      ("signatures", .array (signatures.map .string))]
  else return "\n".intercalate signatures

/-- What a task writes, without the end of the last line. -/
def perform (config : Config) : Task → Run String
  | .decodeTx bytes signatures => decodeTx sources config bytes signatures
  | .digest bytes => showDigest sources config bytes
  | .encodePure type value => encodePure sources config type value
  | .decodePure type bytes => decodePure sources type bytes
  | .typeTag text fromBytes => showTypeTag sources config text fromBytes
  | .keygen => .ok (showNewKey sources config)
  | .address key => showAddress config key
  | .sign text key personalMessage => do
    let key ← resolveKey config key
    if personalMessage then signPersonal sources config key text
    else signTransaction sources config key text

/-- The variable whose filter comes before the configured one. -/
def filterVariable : String := "RUST_LOG"

/-- Checks the filter in use: the one of the log variable if it is valid, or the configured one. -/
def checkLogFilter (level : String) : Run Unit :=
  let given := (sources.env filterVariable).any fun text => (LogFilter.check text).toBool
  if given then .ok ()
  else
    match LogFilter.check level with
    | .ok () => .ok ()
    | .error fault => Run.fail (.logFilter level fault.message)

def configure (overrides : Overrides) : Run Config := do
  let config ← match Config.ofEnvironment sources.env with
    | .ok config => .ok (config.override overrides)
    | .error name => (Run.fail (.outputFormat name)).within ("invalid " ++ Config.outputVariable)
  checkLogFilter sources config.logLevel
  return config

def runTask (overrides : Overrides) (task : Task) : Outcome :=
  match configure sources overrides with
  | .error failure => ⟨1, "", failure.report⟩
  | .ok config =>
    match perform sources config task with
    | .ok text => ⟨0, line text, ""⟩
    | .error failure =>
      let kind := match failure.cause.wire? with
        | some error => line (task.name ++ " failed: " ++ error.kind)
        | none => ""
      ⟨1, "", kind ++ failure.report⟩

def usage : String :=
  "\n".intercalate [
    "Usage: sui-txkit [--output json|hex|base64] [--normalize] [--log-level FILTER] COMMAND",
    "",
    "Commands:",
    "  decode-tx BYTES [--signatures FILE]",
    "  digest BYTES",
    "  encode-pure TYPE VALUE",
    "  decode-pure TYPE BYTES",
    "  type-tag TYPE [--from-bcs]",
    "  keygen",
    "  address [--key KEY]",
    "  sign INPUT [--key KEY] [--personal-message]",
    ""]

def version : String := "sui-txkit 0.1.0\n"

/-- A whole run of the program. -/
def run (arguments : List String) : Outcome :=
  match Request.ofArguments arguments with
  | none => ⟨2, "", usage⟩
  | some .help => ⟨0, usage, ""⟩
  | some .version => ⟨0, version, ""⟩
  | some (.run overrides task) => runTask sources overrides task

end MoveWire.Cli
