import MoveWire.Number.Decimal
import MoveWire.Text.Alphanumeric
import MoveWire.Text.Blank

/-!
Log filters: directives between commas, each a level, or a target with an optional span in square
brackets and an optional level. Nothing is logged here; a filter is only checked.
-/

namespace MoveWire.LogFilter

inductive Fault where
  | directive
  | level
  deriving DecidableEq, Repr

def Fault.message : Fault → String
  | .directive => "invalid filter directive"
  | .level =>
    "error parsing level filter: expected one of \"off\", \"error\", \"warn\", \"info\", " ++
      "\"debug\", \"trace\", or a number 0-5"

def levels : List String := ["", "off", "error", "warn", "info", "debug", "trace"]

/-- Names of levels, in any case, and the numbers up to five. -/
def isLevel (cs : List Char) : Bool :=
  match Decimal.unsigned? 64 cs with
  | some n => n ≤ 5
  | none => levels.contains (String.ofList (cs.map Char.toLower))

def checkLevel (cs : List Char) : Except Fault Unit :=
  if isLevel cs then .ok () else .error .level

/-- Where reading a directive has got to. -/
inductive Place where
  | start
  | target
  | span
  | field (empty : Bool)
  | fields
  | afterSpan
  | level (start : Nat)

/-- May a target begin with the character? -/
def startsTarget (c : Char) : Bool :=
  Text.isAlphanumeric c || c = '-' || c = ':' || c = '_'

def next (index : Nat) (c : Char) : Place → Except Fault Place
  | .start =>
    if c = '[' then .ok .span else if startsTarget c then .ok .target else .error .directive
  | .target =>
    if c = '=' then .ok (.level (index + 1)) else if c = '[' then .ok .span else .ok .target
  | .span =>
    if c = ']' then .ok .afterSpan else if c = '\x7b' then .ok (.field true) else .ok .span
  | .field empty =>
    if c = '\x7d' then if empty then .error .directive else .ok .fields else .ok (.field false)
  | .fields => if c = ']' then .ok .afterSpan else .error .directive
  | .afterSpan => if c = '=' then .ok (.level (index + 1)) else .error .directive
  | .level start => .ok (.level start)

/-- Checks one directive. Its level is looked for as many characters into the whole text as it is
into the text without the blanks in front. -/
def checkDirective (cs : List Char) : Except Fault Unit := do
  let place ← (Text.trim cs).zipIdx.foldlM (fun place (c, index) => next index c place) .start
  match place with
  | .target => .ok ()
  | .afterSpan => .ok ()
  | .level start => checkLevel (cs.drop start)
  | _ => .error .directive

/-- The parts of a text between commas. -/
def directives (cs : List Char) : List (List Char) := cs.splitOn ','

def check (text : String) : Except Fault Unit :=
  ((directives text.toList).filter fun cs => !cs.isEmpty).forM checkDirective

end MoveWire.LogFilter
