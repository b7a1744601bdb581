import MoveWire.Config
import MoveWire.Signing.Error

/-!
Failures of commands: a cause, and from the outside in what was being done. The report names the
outermost of these first and then each one that it was caused by.
-/

namespace MoveWire.Cli

inductive Cause where
  | wire (error : WireError)
  | signing (error : SigningError)
  | outputFormat (name : String)
  | logFilter (filter reason : String)
  | noKey
  | functionName (text : String)
  | outside (reason : String)
  deriving DecidableEq

def Cause.message : Cause → String
  | .wire error => error.message
  | .signing error => error.message
  | .outputFormat name => OutputFormat.unknownMessage name
  | .logFilter filter reason => s!"invalid log filter '{filter}': {reason}"
  | .noKey => "no signing key: pass --key or set SUI_TXKIT_KEY"
  | .functionName text => s!"invalid function '{text}', expected 0xPKG::module::function"
  | .outside reason => reason

/-- The error of bytes or values behind a failure, if there is one. -/
def Cause.wire? : Cause → Option WireError
  | .wire error => some error
  | .signing error => error.wire?
  | _ => none

structure Failure where
  contexts : List String
  cause : Cause
  deriving DecidableEq

namespace Failure

def ofCause (cause : Cause) : Failure := ⟨[], cause⟩

/-- The same failure while something larger was being done. -/
def within (context : String) (f : Failure) : Failure :=
  { f with contexts := context :: f.contexts }

def messages (f : Failure) : List String := f.contexts ++ [f.cause.message]

/-- Lines after the first stand under the first. -/
def indent (lead rest message : String) : String :=
  lead ++ ("\n" ++ rest).intercalate (message.splitOn "\n")

def numbered (index : Nat) (message : String) : String :=
  let number := toString index
  let pad := String.ofList (List.replicate (5 - number.length) ' ')
  indent (pad ++ number ++ ": ") "       " message

/-- The causes one a line, with numbers if there are several. -/
def causeLines : List String → List String
  | [message] => [indent "    " "    " message]
  | messages => messages.zipIdx.map fun (message, index) => numbered index message

def report (f : Failure) : String :=
  match f.messages with
  | [] => "Error: \n"
  | [message] => "Error: " ++ message ++ "\n"
  | message :: causes =>
    "Error: " ++ message ++ "\n\nCaused by:\n" ++ "\n".intercalate (causeLines causes) ++ "\n"

end Failure

/-- A result of a command. -/
abbrev Run := Except Failure

namespace Run

variable {α : Type}

def fail (cause : Cause) : Run α := .error (.ofCause cause)

def ofWire : Fallible α → Run α
  | .ok a => .ok a
  | .error e => fail (.wire e)

def ofSigned : Signed α → Run α
  | .ok a => .ok a
  | .error e => fail (.signing e)

def within (context : String) : Run α → Run α
  | .ok a => .ok a
  | .error f => .error (f.within context)

end Run

end MoveWire.Cli
