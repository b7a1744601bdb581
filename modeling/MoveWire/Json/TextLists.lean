import MoveWire.Json.Parser
import MoveWire.Json.Printer
import MoveWire.Text.Quoted

/-!
Reading JSON objects that hold lists of texts. A value of another kind is refused where it stands:
an array or an object at its bracket, every other value at its end.
-/

namespace MoveWire.Json

/-- How a value that was not expected is named. -/
def kindText : Json → String
  | .null => "null"
  | .bool b => "boolean \x60" ++ compact (.bool b) ++ "\x60"
  | .integer n => "integer \x60" ++ toString n ++ "\x60"
  | .real x => "floating point \x60" ++ x.toText ++ "\x60"
  | .string s => "string " ++ Text.Quoted.text s
  | .array _ => "sequence"
  | .object _ => "map"

/-- Refuses the value at the head of a text. -/
def unexpected {α : Type} (expected : String) (cs : List UInt8) : Step α :=
  match cs with
  | Mark.openList :: _ => fail (.mismatch (kindText (.array [])) expected) cs
  | Mark.openObject :: _ => fail (.mismatch (kindText (.object [])) expected) cs
  | _ =>
    match value 0 cs with
    | .ok (json, rest) => fail (.mismatch (kindText json) expected) rest
    | .error fault => .error fault

def textItem (cs : List UInt8) : Step Json :=
  match skipBlank cs with
  | Mark.quote :: rest => (stringAfterQuote rest).map fun (s, rest) => (.string s, rest)
  | cs => unexpected "a string" cs

def textList (cs : List UInt8) : Step Json :=
  match skipBlank cs with
  | Mark.openList :: rest =>
    match skipBlank rest with
    | Mark.closeList :: rest => .ok (.array [], rest)
    | [] => fail .endInList []
    | rest => arrayItems textItem [] rest (rest.length + 1)
  | cs => unexpected "a sequence" cs

def textListFields (cs : List UInt8) : Step Json :=
  match skipBlank cs with
  | Mark.openObject :: rest =>
    match skipBlank rest with
    | Mark.closeObject :: rest => .ok (record [], rest)
    | [] => fail .endInObject []
    | rest => objectFields textList [] rest (rest.length + 1)
  | cs => unexpected "a map" cs

def texts : Json → List String
  | .array items => items.filterMap fun | .string s => some s | _ => none
  | _ => []

/-- Reads a text that holds one object of lists of texts, in the order of their names. -/
def parseTextLists (text : String) : Except Fault (List (String × List String)) := do
  let (json, rest) ← textListFields (Text.Utf8.encode text)
  let rest := skipBlank rest
  if !rest.isEmpty then throw ⟨.trailingCharacters, rest.drop 1⟩
  match json with
  | .object fields => return fields.map fun (name, value) => (name, texts value)
  | _ => return []

end MoveWire.Json
