/-!
Base64 with the standard alphabet and required padding. Reading accepts exactly the written forms:
the unused bits of a last symbol are zero, and every refusal names the byte that caused it.
-/

namespace MoveWire.Text.Base64

inductive Fault where
  | badSymbol (byte : UInt8) (index : Nat)
  | badLength (symbols : Nat)
  | badPadding
  | badLastSymbol (byte : UInt8) (index : Nat)
  deriving DecidableEq, Repr

def Fault.message : Fault → String
  | .badSymbol byte index => s!"Invalid symbol {byte.toNat}, offset {index}."
  | .badLength symbols => s!"Invalid input length: {symbols}"
  | .badPadding => "Invalid padding"
  | .badLastSymbol byte index => s!"Invalid last symbol {byte.toNat}, offset {index}."

def pad : UInt8 := 61

def symbol (n : UInt8) : UInt8 :=
  if n < 26 then n + 65
  else if n < 52 then n + 71
  else if n < 62 then n - 4
  else if n = 62 then 43
  else 47

def value? (b : UInt8) : Option UInt8 :=
  if 65 ≤ b && b ≤ 90 then some (b - 65)
  else if 97 ≤ b && b ≤ 122 then some (b - 71)
  else if 48 ≤ b && b ≤ 57 then some (b + 4)
  else if b = 43 then some 62
  else if b = 47 then some 63
  else none

def encodeBytes : List UInt8 → List UInt8
  | [] => []
  | [a] => [symbol (a >>> 2), symbol ((a &&& 3) <<< 4), pad, pad]
  | [a, b] =>
    [symbol (a >>> 2), symbol ((a &&& 3) <<< 4 ||| b >>> 4), symbol ((b &&& 15) <<< 2), pad]
  | a :: b :: c :: rest =>
    symbol (a >>> 2) :: symbol ((a &&& 3) <<< 4 ||| b >>> 4) ::
      symbol ((b &&& 15) <<< 2 ||| c >>> 6) :: symbol (c &&& 63) :: encodeBytes rest

def encode (bytes : List UInt8) : String :=
  String.ofList ((encodeBytes bytes).map Char.ofUInt8)

/-- The bytes of whole groups of four symbol values. -/
def joinGroups : List UInt8 → List UInt8
  | a :: b :: c :: d :: rest =>
    (a <<< 2 ||| b >>> 4) :: (b <<< 4 ||| c >>> 2) :: (c <<< 6 ||| d) :: joinGroups rest
  | _ => []

/-- The symbol values of a text that starts at this index of the whole. -/
def valuesAt (index : Nat) : List UInt8 → Except Fault (List UInt8)
  | [] => .ok []
  | b :: rest =>
    match value? b with
    | none => .error (.badSymbol b index)
    | some v => (valuesAt (index + 1) rest).map (v :: ·)

/-- What the last group holds: symbol values, the last symbol, and the padding after it. -/
structure Tail where
  values : List UInt8
  last : UInt8
  pads : Nat
  firstPad : Nat

/-- Reads the last group, which starts at index `start`; padding may stand only after two symbols,
and only at the end. -/
def scanTail (start : Nat) (seen : Nat) (tail : Tail) : List UInt8 → Except Fault Tail
  | [] => .ok tail
  | b :: rest =>
    if b = pad then
      if seen < 2 then .error (.badSymbol pad (start + seen))
      else
        let firstPad := if tail.pads = 0 then start + seen else tail.firstPad
        scanTail start (seen + 1) { tail with pads := tail.pads + 1, firstPad } rest
    else if tail.pads ≠ 0 then .error (.badSymbol pad tail.firstPad)
    else
      match value? b with
      | none => .error (.badSymbol b (start + seen))
      | some v =>
        scanTail start (seen + 1) { tail with values := tail.values ++ [v], last := b } rest

/-- The bytes of the last group, whose unused low bits have to be zero. -/
def joinTail (start : Nat) (tail : Tail) : Except Fault (List UInt8) :=
  match tail.values with
  | [a, b] =>
    if b &&& 15 = 0 then .ok [a <<< 2 ||| b >>> 4]
    else .error (.badLastSymbol tail.last (start + 1))
  | [a, b, c] =>
    if c &&& 3 = 0 then .ok [a <<< 2 ||| b >>> 4, b <<< 4 ||| c >>> 2]
    else .error (.badLastSymbol tail.last (start + 2))
  | values => .ok (joinGroups values)

/-- Reads a text given by its bytes. A single byte left over after whole groups is looked at
before everything else. -/
def decode (text : List UInt8) : Except Fault (List UInt8) := do
  let length := text.length
  let stray := text.getLast?.filter fun b => length % 4 = 1 && b ≠ pad && value? b = none
  if let some b := stray then throw (.badSymbol b (length - 1))
  let start := (length - 1) / 4 * 4
  let groups ← valuesAt 0 (text.take start)
  let tail ← scanTail start 0 ⟨[], 0, 0, 0⟩ (text.drop start)
  if length ≠ 0 && tail.values.length < 2 then
    throw (.badLength (start + tail.values.length))
  if (tail.values.length + tail.pads) % 4 ≠ 0 then throw .badPadding
  return joinGroups groups ++ (← joinTail start tail)

end MoveWire.Text.Base64
