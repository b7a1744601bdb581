import MoveWire.Config

/-!
Reading command lines. Options are long, or one letter; each stands at most once before the name
of a command and at most once behind it, where the later one counts. Two hyphens end the options.
-/

namespace MoveWire.Cli

/-- What the program is asked to do. -/
inductive Task where
  | decodeTx (bytes : String) (signatures : Option String)
  | digest (bytes : String)
  | encodePure (type value : String)
  | decodePure (type bytes : String)
  | typeTag (text : String) (fromBytes : Bool)
  | keygen
  | address (key : Option String)
  | sign (text : String) (key : Option String) (personalMessage : Bool)
  deriving DecidableEq, Repr

inductive Request where
  | help
  | version
  | run (overrides : Overrides) (task : Task)
  deriving DecidableEq, Repr

def Request.task? : Request → Option Task
  | .run _ task => some task
  | _ => none

/-- Why a command line ends early: it is wrong, or it asks about the program itself. -/
inductive Stop where
  | usage
  | help
  | version
  deriving DecidableEq, Repr

/-- The names of options and how many other words there are. -/
structure Grammar where
  flags : List String
  valued : List String
  words : Nat
  version : Bool

/-- What has been read of a command line. -/
structure Words where
  flags : List String
  values : List (String × String)
  words : List String

namespace Words

def empty : Words := ⟨[], [], []⟩

def value? (w : Words) (name : String) : Option String :=
  (w.values.find? (·.1 == name)).map (·.2)

def has (w : Words) (name : String) : Bool := w.flags.contains name

def addFlag (w : Words) (name : String) : Except Stop Words :=
  if w.has name then .error .usage else .ok { w with flags := name :: w.flags }

def addValue (w : Words) (name value : String) : Except Stop Words :=
  if (w.value? name).isSome then .error .usage
  else if name == "output" && (OutputFormat.ofName? value).isNone then .error .usage
  else if name == "signatures" && value.isEmpty then .error .usage
  else .ok { w with values := (name, value) :: w.values }

def addWord (w : Words) (grammar : Grammar) (word : String) : Except Stop Words :=
  if w.words.length < grammar.words then .ok { w with words := w.words ++ [word] }
  else .error .usage

end Words

def globalFlags : List String := ["normalize"]

def globalValued : List String := ["output", "log-level"]

/-- A word that looks like an option; a hyphen alone does not. -/
def isOption (word : String) : Bool :=
  match word.toList with
  | '-' :: _ :: _ => true
  | _ => false

/-- The value of an option that has none attached, and the words after it. -/
def takeValue : List String → Except Stop (String × List String)
  | [] => .error .usage
  | word :: rest => if isOption word then .error .usage else .ok (word, rest)

/-- Reads an option with its value; gives the words after them. -/
def readOption (grammar : Grammar) (w : Words) (option : List Char) (rest : List String) :
    Except Stop (Words × List String) :=
  match option with
  | '-' :: '-' :: body =>
    let name := String.ofList (body.takeWhile (· ≠ '='))
    match body.dropWhile (· ≠ '=') with
    | _ :: attached =>
      if grammar.valued.contains name then do
        return (← w.addValue name (String.ofList attached), rest)
      else .error .usage
    | [] =>
      if name == "help" then .error .help
      else if name == "version" && grammar.version then .error .version
      else if grammar.flags.contains name then do return (← w.addFlag name, rest)
      else if grammar.valued.contains name then do
        let (value, rest) ← takeValue rest
        return (← w.addValue name value, rest)
      else .error .usage
  | ['-', 'o'] => do
    let (value, rest) ← takeValue rest
    return (← w.addValue "output" value, rest)
  | '-' :: 'o' :: '=' :: attached => do
    return (← w.addValue "output" (String.ofList attached), rest)
  | '-' :: 'o' :: attached => do return (← w.addValue "output" (String.ofList attached), rest)
  | '-' :: 'h' :: _ => .error .help
  | '-' :: 'V' :: _ => .error (if grammar.version then .version else .usage)
  | _ => .error .usage

/-- Reads options and words; `rounds` bounds how many. -/
def readWords (grammar : Grammar) (w : Words) (line : List String) :
    (rounds : Nat) → Except Stop Words
  | 0 => .ok w
  | rounds + 1 =>
    match line with
    | [] => .ok w
    | "--" :: rest => rest.foldlM (fun w word => w.addWord grammar word) w
    | word :: rest =>
      if isOption word then do
        let (w, rest) ← readOption grammar w word.toList rest
        readWords grammar w rest rounds
      else do readWords grammar (← w.addWord grammar word) rest rounds

/-- Reads the options in front of a command; gives its name and the words after it. -/
def readHead (w : Words) (line : List String) :
    (rounds : Nat) → Except Stop (Words × String × List String)
  | 0 => .error .usage
  | rounds + 1 =>
    match line with
    | [] => .error .usage
    | "--" :: _ => .error .usage
    | word :: rest =>
      if isOption word then do
        let (w, rest) ← readOption ⟨globalFlags, globalValued, 0, true⟩ w word.toList rest
        readHead w rest rounds
      else .ok (w, word, rest)

/-- A command: its own options, how many words it takes, and the task that they make up. -/
structure Form where
  name : String
  flags : List String
  valued : List String
  words : Nat
  task : Words → List String → Option Task

def forms : List Form := [
  ⟨"decode-tx", [], ["signatures"], 1, fun
    | w, [bytes] => some (.decodeTx bytes (w.value? "signatures"))
    | _, _ => none⟩,
  ⟨"digest", [], [], 1, fun
    | _, [bytes] => some (.digest bytes)
    | _, _ => none⟩,
  ⟨"encode-pure", [], [], 2, fun
    | _, [type, value] => some (.encodePure type value)
    | _, _ => none⟩,
  ⟨"decode-pure", [], [], 2, fun
    | _, [type, bytes] => some (.decodePure type bytes)
    | _, _ => none⟩,
  ⟨"type-tag", ["from-bcs"], [], 1, fun
    | w, [text] => some (.typeTag text (w.has "from-bcs"))
    | _, _ => none⟩,
  ⟨"keygen", [], [], 0, fun _ _ => some .keygen⟩,
  ⟨"address", [], ["key"], 0, fun w _ => some (.address (w.value? "key"))⟩,
  ⟨"sign", ["personal-message"], ["key"], 1, fun
    | w, [text] => some (.sign text (w.value? "key") (w.has "personal-message"))
    | _, _ => none⟩]

def overrides (head tail : Words) : Overrides where
  output := (tail.value? "output" <|> head.value? "output").bind OutputFormat.ofName?
  normalize := head.has "normalize" || tail.has "normalize"
  logLevel := tail.value? "log-level" <|> head.value? "log-level"

/-- Asks about the program, or about one command, which has to exist. -/
def askHelp : List String → Except Stop Request
  | [] => .ok .help
  | [name] => if name == "help" || forms.any (·.name == name) then .ok .help else .error .usage
  | _ => .error .usage

def readRequest (line : List String) : Except Stop Request := do
  let (head, name, rest) ← readHead .empty line line.length
  if name == "help" then askHelp rest
  else
    match forms.find? (·.name == name) with
    | none => .error .usage
    | some form =>
      let grammar : Grammar :=
        ⟨globalFlags ++ form.flags, globalValued ++ form.valued, form.words, false⟩
      let tail ← readWords grammar .empty rest rest.length
      match form.task tail tail.words with
      | some task => return .run (overrides head tail) task
      | none => .error .usage

/-- What a command line asks for; `none` when it is wrong. -/
def Request.ofArguments (line : List String) : Option Request :=
  match readRequest line with
  | .ok request => some request
  | .error .help => some .help
  | .error .version => some .version
  | .error .usage => none

end MoveWire.Cli
