import MoveWire.Number.Decimal
import MoveWire.Text.Blank
import MoveWire.Text.Casing

/-!
Settings out of environment variables. Text around which blanks do not count is read as a number or
a switch, and what cannot be read counts as unset; only an unknown output format is an error.
-/

namespace MoveWire

/-- The variables that are set. -/
abbrev Environment := String → Option String

namespace Environment

variable (env : Environment)

def trimmed? (name : String) : Option (List Char) := (env name).map fun v => Text.trim v.toList

def unsigned? (bits : Nat) (name : String) : Option Nat :=
  (env.trimmed? name).bind (Decimal.unsigned? bits)

def signed? (bits : Nat) (name : String) : Option Int :=
  (env.trimmed? name).bind (Decimal.signed? bits)

def bool? (name : String) : Option Bool :=
  match (env.trimmed? name).map String.ofList with
  | some "true" => some true
  | some "false" => some false
  | _ => none

/-- Is a switch on? Any text that does not say so says no. -/
def switch (name : String) (default : Bool) : Bool :=
  match env.trimmed? name with
  | some cs => ["1", "true", "yes", "on"].contains (Text.Casing.lowercase (String.ofList cs))
  | none => default

def textOr (name default : String) : String := (env name).getD default

/-- The text of a variable, if it is not blank. -/
def text? (name : String) : Option String :=
  match env.trimmed? name with
  | some (c :: rest) => some (String.ofList (c :: rest))
  | _ => none

end Environment

inductive OutputFormat where
  | json
  | hex
  | base64
  deriving DecidableEq, Repr

namespace OutputFormat

def text : OutputFormat → String
  | .json => "json"
  | .hex => "hex"
  | .base64 => "base64"

/-- The format of this very name. -/
def ofName? (name : String) : Option OutputFormat :=
  [json, hex, base64].find? fun format => format.text == name

/-- Reads a format in any case, or gives its name in lower case when there is none. -/
def parse (text : String) : Except String OutputFormat :=
  match Text.Casing.lowercase (Text.trimString text) with
  | "b64" => .ok .base64
  | name =>
    match ofName? name with
    | some format => .ok format
    | none => .error name

/-- The wording for a name that is no format. -/
def unknownMessage (name : String) : String :=
  s!"unknown output format '{name}', expected json, hex or base64"

end OutputFormat

structure Config where
  logLevel : String
  output : OutputFormat
  normalize : Bool
  key : Option String
  deriving DecidableEq, Repr

/-- What is asked for on top of the environment. -/
structure Overrides where
  output : Option OutputFormat
  normalize : Bool
  logLevel : Option String
  deriving DecidableEq, Repr

namespace Config

def logVariable : String := "SUI_TXKIT_LOG"

def outputVariable : String := "SUI_TXKIT_OUTPUT"

def normalizeVariable : String := "SUI_TXKIT_NORMALIZE_ADDRESSES"

def keyVariable : String := "SUI_TXKIT_KEY"

/-- The settings of an environment, or the name of a format that does not exist. -/
def ofEnvironment (env : Environment) : Except String Config := do
  let output ← match env.text? outputVariable with
    | some text => OutputFormat.parse text
    | none => .ok .json
  return {
    logLevel := env.textOr logVariable "warn"
    output
    normalize := env.switch normalizeVariable false
    key := env.text? keyVariable }

def override (config : Config) (overrides : Overrides) : Config where
  logLevel := overrides.logLevel.getD config.logLevel
  output := overrides.output.getD config.output
  normalize := config.normalize || overrides.normalize
  key := config.key

end Config

end MoveWire
