import MoveWire.Cli

/-!
The program around `Cli.run`: it gathers what a run may read, and writes the outcome.
-/

namespace MoveWire.Main

/-- The variables that a run may look at. -/
def variableNames : List String :=
  [Config.logVariable, Config.outputVariable, Config.normalizeVariable, Config.keyVariable,
    Cli.filterVariable]

def readEnvironment : IO Environment := do
  let settings ← variableNames.mapM fun name => return (name, ← IO.getEnv name)
  return fun name => ((settings.find? (·.1 == name)).map (·.2)).join

def decodeText (bytes : ByteArray) : Except String String :=
  match String.fromUTF8? bytes with
  | some text => .ok text
  | none => .error "stream did not contain valid UTF-8"

/-- The system's wording for a failure to read. -/
def failureText : IO.Error → String
  | .noFileOrDirectory .. => "No such file or directory (os error 2)"
  | .permissionDenied .. => "Permission denied (os error 13)"
  | .inappropriateType .. => "Is a directory (os error 21)"
  | failure => toString failure

def readFile (path : String) : IO (Except String String) := do
  try return decodeText (← IO.FS.readBinFile path)
  catch failure => return .error (failureText failure)

partial def readAll (stream : IO.FS.Stream) (before : ByteArray) : IO ByteArray := do
  let chunk ← stream.read 65536
  if chunk.isEmpty then return before else readAll stream (before ++ chunk)

def readStdin : IO (Except String String) := do
  try return decodeText (← readAll (← IO.getStdin) .empty)
  catch failure => return .error (failureText failure)

def readEntropy : IO (FixedBytes 32) := do
  let bytes := (← IO.getRandomBytes 32).toList
  if h : bytes.length = 32 then return ⟨bytes, h⟩
  else throw (IO.userError "no random bytes")

/-- Reads no more than the request needs. -/
def gather (request : Option Cli.Request) : IO Cli.Sources := do
  let task := request.bind Cli.Request.task?
  let stdin ← if task.any (·.readsStdin) then readStdin else pure (.ok "")
  let text ← match task.bind (·.file?) with
    | some path => readFile path
    | none => pure (.ok "")
  return { env := ← readEnvironment, stdin, file := fun _ => text, entropy := ← readEntropy }

end MoveWire.Main

open MoveWire in
def main (arguments : List String) : IO UInt32 := do
  let sources ← Main.gather (Cli.Request.ofArguments arguments)
  let outcome := Cli.run sources arguments
  (← IO.getStdout).putStr outcome.stdout
  (← IO.getStderr).putStr outcome.stderr
  return UInt32.ofNat outcome.code
