import MoveWire.Move.TypeTag

/-!
Reading the text of Move types. Blanks may stand around every type, address and name; type
arguments are told apart by the commas outside of inner brackets; types nest at most 128 deep.
-/

namespace MoveWire

namespace TypeTag

def refuse {α : Type} (cause : ParseCause) : Fallible α := .error (.parse cause)

section Counting

variable {δ : Type} [OfNat δ 0] [OfNat δ 1] [Add δ] [Sub δ] [DecidableEq δ]

/-- The parts of a text between commas that stand outside of brackets; `δ` counts how many brackets
are open. -/
def segments (depth : δ) (current : List Char) : List Char → List (List Char)
  | [] => [current.reverse]
  | c :: rest =>
    if c = '<' then segments (depth + 1) (c :: current) rest
    else if c = '>' then segments (depth - 1) (c :: current) rest
    else if c = ',' ∧ depth = 0 then current.reverse :: segments depth [] rest
    else segments depth (c :: current) rest

variable [LT δ] [DecidableLT δ]

/-- Refuses text in which a bracket closes before it opens, or never closes. -/
def checkFrom (whole : List Char) (depth : δ) : List Char → Fallible Unit
  | [] => if depth = 0 then .ok () else refuse (.unbalancedOpen (String.ofList whole))
  | c :: rest =>
    if c = '<' then checkFrom whole (depth + 1) rest
    else if c = '>' then
      if depth - 1 < 0 then refuse (.unbalancedClose (String.ofList whole))
      else checkFrom whole (depth - 1) rest
    else checkFrom whole depth rest

end Counting

/-- The depth is counted without bounds; `checkBalanced32` counts it in 32 bits. -/
def checkBalanced (cs : List Char) : Fallible Unit := checkFrom cs (0 : Int) cs

/-- The depth is counted without bounds; `splitArguments32?` counts it in 32 bits. -/
def splitArguments (cs : List Char) : List (List Char) := (segments (0 : Int) [] cs).map Text.trim

/-- The text before and after the first double colon. -/
def splitPath? : List Char → Option (List Char × List Char)
  | [] => none
  | [_] => none
  | a :: b :: rest =>
    if a = ':' ∧ b = ':' then some ([], rest)
    else (splitPath? (b :: rest)).map fun (before, after) => (a :: before, after)

def ofKeyword? (cs : List Char) : Option TypeTag :=
  match String.ofList cs with
  | "bool" => some .bool
  | "u8" => some .u8
  | "u16" => some .u16
  | "u32" => some .u32
  | "u64" => some .u64
  | "u128" => some .u128
  | "u256" => some .u256
  | "address" => some .address
  | "signer" => some .signer
  | _ => none

/-- Reads address, module and name of a struct from the text before its type arguments. -/
def parsePath (path whole : List Char) : Fallible (Address × String × String) := do
  let type := String.ofList whole
  let some (first, rest) := splitPath? path | refuse (.structShape type)
  let some (second, third) := splitPath? rest | refuse (.structShape type)
  let literal := String.ofList (Text.trim first)
  let moduleName := String.ofList (Text.trim second)
  let name := String.ofList (Text.trim third)
  match Address.parseLiteral literal with
  | .error _ => refuse (.structAddress literal type)
  | .ok owner =>
    if !Move.isIdentifier moduleName then refuse (.structName moduleName type)
    else if !Move.isIdentifier name then refuse (.structName name type)
    else return (owner, moduleName, name)

/-- Reads type arguments with their brackets, each by `parseOne`. -/
def parseArguments (parseOne : List Char → Fallible TypeTag) (text whole : List Char) :
    Fallible (List TypeTag) := do
  let type := String.ofList whole
  let some inner := (Text.stripStart? ['<'] text).bind (Text.stripEnd? '>')
    | refuse (.unterminatedArguments type)
  checkBalanced inner
  if (Text.trim inner).isEmpty then refuse (.noArguments type)
  else
    (splitArguments inner).mapM fun argument =>
      if argument.isEmpty then refuse (.emptyArgument type) else parseOne argument

/-- Reads a struct type; `inside` reads a type argument, or says that none may nest here. -/
def parseStruct (inside : Fallible (List Char → Fallible TypeTag)) (cs : List Char) :
    Fallible StructTag := do
  let cs := Text.trim cs
  let path := cs.takeWhile (· ≠ '<')
  let text := cs.dropWhile (· ≠ '<')
  let (owner, moduleName, name) ← parsePath path cs
  if text.isEmpty then return ⟨owner, moduleName, name, []⟩
  else
    let parseOne ← inside
    return ⟨owner, moduleName, name, ← parseArguments parseOne text cs⟩

/-- The text between `vector<` and a closing bracket, which may not be blank. -/
def vectorItem (rest whole : List Char) : Fallible (List Char) :=
  match Text.stripEnd? '>' rest with
  | none => refuse (.unterminatedVector (String.ofList whole))
  | some inner =>
    if (Text.trim inner).isEmpty then refuse (.noElementType (String.ofList whole))
    else .ok inner

/-- Reads a type inside of which `left` more levels may nest. -/
def parseWithin (left : Nat) (cs : List Char) : Fallible TypeTag :=
  let cs := Text.trim cs
  let inside : Fallible (List Char → Fallible TypeTag) :=
    match left with
    | 0 => refuse .depth
    | left + 1 => .ok (parseWithin left)
  if cs.isEmpty then refuse .empty
  else
    match ofKeyword? cs with
    | some tag => .ok tag
    | none =>
      match Text.stripStart? "vector<".toList cs with
      | some rest => do
        let inner ← vectorItem rest cs
        let parseOne ← inside
        checkBalanced inner
        return .vector (← parseOne inner)
      | none =>
        match splitPath? cs with
        | none => refuse (.unknownType (String.ofList cs))
        | some _ => do return (← parseStruct inside cs).toTypeTag

def parseChars (cs : List Char) : Fallible TypeTag := parseWithin maxTypeDepth cs

def parse (text : String) : Fallible TypeTag := parseChars text.toList

end TypeTag

/-- Reads a struct type; it counts as a level when it has type arguments. -/
def StructTag.parse (text : String) : Fallible StructTag :=
  TypeTag.parseStruct (.ok (TypeTag.parseWithin (maxTypeDepth - 1))) text.toList

end MoveWire
