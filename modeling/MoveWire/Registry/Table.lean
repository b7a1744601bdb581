import MoveWire.Pure.Value
import MoveWire.Text.Quoted
import MoveWire.Wire.Text

/-!
Codecs by name, for types of any family. A name stays bound to the type that it was registered for
first; a name that is not bound stands for the pure type that it spells, if it spells one.
-/

namespace MoveWire

/-- Types with a codec: the values of each, their codec, and its full name in refusals. -/
class WireFamily (T : Type) where
  Value : T → Type
  codec : (type : T) → Codec (Value type)
  label : T → String

open WireFamily

/-- A value together with what it is a value of. -/
inductive ErasedValue (T : Type) [WireFamily T] where
  | pure (value : PureValue)
  | typed (type : T) (value : Value type)

/-- What a name stands for. -/
inductive ErasedCodec (T : Type) where
  | pure (type : PureType)
  | typed (name : String) (type : T)

namespace ErasedCodec

variable {T : Type} [DecidableEq T] [WireFamily T]

/-- Writes a value, which has to be of the type that the name stands for. -/
def write : ErasedCodec T → ErasedValue T → Fallible Bytes
  | .pure type, .pure v => type.encode v
  | .pure type, .typed .. => .error (.invalid (.expectsPure type.text))
  | .typed name _, .pure _ => .error (.invalid (.wrongValueFor name))
  | .typed name type, .typed other v =>
    if h : other = type then (codec type).write (h ▸ v)
    else .error (.invalid (.wrongValueFor name))

def read : ErasedCodec T → Reader (ErasedValue T)
  | .pure type => .pure <$> type.read
  | .typed _ type => .typed type <$> (codec type).read

end ErasedCodec

/-- The bindings of names, in the order in which they were made. -/
structure CodecTable (T : Type) where
  bindings : List (String × T)
  names_nodup : (bindings.map (·.1)).Nodup

namespace CodecTable

variable {T : Type}

def empty : CodecTable T := ⟨[], by simp⟩

def find? (r : CodecTable T) (name : String) : Option T :=
  (r.bindings.find? (·.1 == name)).map (·.2)

def contains (r : CodecTable T) (name : String) : Bool := (r.find? name).isSome

def size (r : CodecTable T) : Nat := r.bindings.length

def isEmpty (r : CodecTable T) : Bool := r.bindings.isEmpty

/-- Adds a binding for a name that has none. -/
def bind (r : CodecTable T) (name : String) (type : T) (fresh : r.find? name = none) :
    CodecTable T where
  bindings := r.bindings ++ [(name, type)]
  names_nodup := by
    simp only [find?, Option.map_eq_none_iff, List.find?_eq_none, beq_iff_eq] at fresh
    simp only [List.map_append, List.map_cons, List.map_nil]
    rw [List.nodup_append]
    refine ⟨r.names_nodup, by simp, ?_⟩
    intro a bound b last
    simp only [List.mem_singleton] at last
    obtain ⟨binding, held, rfl⟩ := List.mem_map.mp bound
    exact last ▸ fresh binding held

/-- The bound names in their order. -/
def names (r : CodecTable T) : List String :=
  (r.bindings.map (·.1)).mergeSort fun a b => a ≤ b

def debugText (r : CodecTable T) : String :=
  "CodecRegistry \x7b names: [" ++ ", ".intercalate (r.names.map Text.Quoted.text) ++ "] \x7d"

def lookup (r : CodecTable T) (name : String) : Fallible (ErasedCodec T) :=
  match r.find? name with
  | some type => .ok (.typed name type)
  | none =>
    match PureType.parse name with
    | .ok type => .ok (.pure type)
    | .error _ => .error (.unknownType name)

variable [DecidableEq T]

/-- Binds a name; binding it to its own type again changes nothing. -/
def register (r : CodecTable T) (name : String) (type : T) : Fallible (CodecTable T) :=
  match h : r.find? name with
  | none => .ok (r.bind name type h)
  | some bound => if bound = type then .ok r else .error (.duplicateRegistration name)

/-- Registers names until one is refused; those before it stay registered. -/
def registerAll (r : CodecTable T) : List (String × T) → Fallible Unit × CodecTable T
  | [] => (.ok (), r)
  | (name, type) :: rest =>
    match r.register name type with
    | .ok next => next.registerAll rest
    | .error e => (.error e, r)

variable [WireFamily T]

def encode (r : CodecTable T) (name : String) (value : ErasedValue T) : Fallible Bytes := do
  (← r.lookup name).write value

def decode (r : CodecTable T) (name : String) (bytes : Bytes) : Fallible (ErasedValue T) := do
  (← r.lookup name).read.readAll bytes

def toHex (r : CodecTable T) (name : String) (value : ErasedValue T) : Fallible String :=
  Bytes.toHex <$> r.encode name value

def toBase64 (r : CodecTable T) (name : String) (value : ErasedValue T) : Fallible String :=
  Bytes.toBase64 <$> r.encode name value

def ofHex (r : CodecTable T) (name text : String) : Fallible (ErasedValue T) := do
  r.decode name (← Bytes.ofHex text name)

def ofBase64 (r : CodecTable T) (name text : String) : Fallible (ErasedValue T) := do
  r.decode name (← Bytes.ofBase64 text name)

/-- The label of pure values as one type. -/
def pureLabel : String := "sui_txkit_bcs::pure::PureValue"

/-- Decodes a value that has to be of the given type. -/
def decodeAs (r : CodecTable T) (type : T) (name : String) (bytes : Bytes) :
    Fallible (Value type) := do
  match ← r.decode name bytes with
  | .typed other v =>
    if h : other = type then return h ▸ v
    else throw (.invalid (.decodesOther name (label type)))
  | .pure _ => throw (.invalid (.decodesOther name (label type)))

def decodePure (r : CodecTable T) (name : String) (bytes : Bytes) : Fallible PureValue := do
  match ← r.decode name bytes with
  | .pure v => return v
  | .typed .. => throw (.invalid (.decodesOther name pureLabel))

end CodecTable

end MoveWire
