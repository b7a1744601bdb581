import MoveWire.Json.Fault
import MoveWire.Json.Value
import MoveWire.Text.Hex
import MoveWire.Text.Utf8

/-!
Reading JSON text, byte by byte. Objects and arrays nest at most 127 deep; a number without fraction
and exponent that fits a word of 64 bits is an integer, every other one a floating-point number.
-/

namespace MoveWire.Json

/-- A value and the text after it. -/
abbrev Step (α : Type) := Except Fault (α × List UInt8)

def fail {α : Type} (reason : Reason) (unread : List UInt8) : Step α := .error ⟨reason, unread⟩

/-- A refusal of the byte at the head, which counts as read. -/
def failAtHead {α : Type} (reason : Reason) (cs : List UInt8) : Step α := fail reason (cs.drop 1)

def skipBlank (cs : List UInt8) : List UInt8 :=
  cs.dropWhile fun c => c = 0x20 || c = Mark.lineFeed || c = 0x09 || c = 0x0D

def isDigit (c : UInt8) : Bool := 48 ≤ c && c ≤ 57

def digitValue (c : UInt8) : Nat := c.toNat - 48

/-- Reads the rest of a keyword whose first letter has been taken. -/
def keyword (value : Json) : List UInt8 → List UInt8 → Step Json
  | [], cs => .ok (value, cs)
  | _ :: _, [] => fail .endInValue []
  | k :: ks, c :: cs => if k = c then keyword value ks cs else fail .expectedIdent cs

def maxWord : Nat := 2 ^ 64 - 1

def powerOfTen (n : Nat) : Binary64 := (Binary64.ofRatio? (10 ^ n) 1).getD ⟨false, 0, 0⟩

/-- Divides by powers of ten while the exponent is below the least one that has a power of its
own; `steps` bounds how often. -/
def scaleSmall (x : Binary64) (exponent : Int) : (steps : Nat) → Option (Binary64 × Int)
  | 0 => some (x, exponent)
  | steps + 1 =>
    if exponent.natAbs ≤ 308 || x.isZero then some (x, exponent)
    else if 0 ≤ exponent then none
    else (x.div? (powerOfTen 308)).bind fun y => scaleSmall y (exponent + 308) steps

/-- The number `significand * 10 ^ exponent`, with one rounding for the significand and one for
the scaling; `none` above the largest number. -/
def scaled? (significand : Nat) (exponent : Int) : Option Binary64 := do
  let x ← Binary64.ofRatio? significand 1
  let (x, exponent) ← scaleSmall x exponent 8
  if x.isZero then some x
  else if 0 ≤ exponent then x.mul? (powerOfTen exponent.toNat)
  else if exponent.natAbs ≤ 308 then x.div? (powerOfTen exponent.natAbs)
  else some ⟨false, 0, Binary64.minExponent⟩

def realNumber (negative : Bool) (significand : Nat) (exponent : Int) (cs : List UInt8) :
    Step Json :=
  match scaled? significand exponent with
  | some x => .ok (.real { x with negative }, cs)
  | none => fail .numberRange cs

/-- The largest exponent that is told apart from larger ones. -/
def maxExponent : Nat := 2 ^ 31 - 1

/-- Appends digits to an exponent, up to the first that makes it larger than any told apart. -/
def takeExponent (size : Nat) : List UInt8 → Nat × List UInt8
  | [] => (size, [])
  | c :: cs =>
    if isDigit c && size ≤ maxExponent then takeExponent (size * 10 + digitValue c) cs
    else (size, c :: cs)

/-- Reads what follows the letter of an exponent. -/
def exponentPart (negative : Bool) (significand : Nat) (start : Int) (cs : List UInt8) :
    Step Json :=
  let (down, cs) := match cs with
    | Mark.plus :: rest => (false, rest)
    | Mark.minus :: rest => (true, rest)
    | _ => (false, cs)
  match cs with
  | [] => fail .endInValue []
  | c :: _ =>
    if !isDigit c then failAtHead .invalidNumber cs
    else
      let (size, rest) := takeExponent 0 cs
      if maxExponent < size then
        if significand ≠ 0 && !down then fail .numberRange rest
        else .ok (.real ⟨negative, 0, Binary64.minExponent⟩, rest.dropWhile isDigit)
      else realNumber negative significand (if down then start - size else start + size) rest

/-- Appends digits to a significand while it stays a word of 64 bits, and counts them. -/
def takeDigits (significand count : Nat) : List UInt8 → Nat × Nat × List UInt8
  | [] => (significand, count, [])
  | c :: cs =>
    if isDigit c && significand * 10 + digitValue c ≤ maxWord then
      takeDigits (significand * 10 + digitValue c) (count + 1) cs
    else (significand, count, c :: cs)

def finishReal (negative : Bool) (significand : Nat) (exponent : Int) (cs : List UInt8) :
    Step Json :=
  match cs with
  | Mark.lowerE :: rest => exponentPart negative significand exponent rest
  | Mark.upperE :: rest => exponentPart negative significand exponent rest
  | _ => realNumber negative significand exponent cs

/-- Reads what follows the point; digits that the significand has no room for are dropped. -/
def fractionPart (negative : Bool) (significand : Nat) (exponent : Int) (cs : List UInt8) :
    Step Json :=
  match cs with
  | [] => fail .endInValue []
  | c :: _ =>
    if !isDigit c then failAtHead .invalidNumber cs
    else
      let (significand, count, rest) := takeDigits significand 0 cs
      finishReal negative significand (exponent - count) (rest.dropWhile isDigit)

/-- Reads what follows the digits before the point; `dropped` of them had no room. -/
def afterWhole (negative : Bool) (significand dropped : Nat) (cs : List UInt8) : Step Json :=
  match cs with
  | Mark.point :: rest => fractionPart negative significand dropped rest
  | Mark.lowerE :: _ => finishReal negative significand dropped cs
  | Mark.upperE :: _ => finishReal negative significand dropped cs
  | _ =>
    if dropped ≠ 0 then realNumber negative significand dropped cs
    else if !negative then .ok (.integer significand, cs)
    else if significand = 0 || 2 ^ 63 < significand then realNumber true significand 0 cs
    else .ok (.integer (-(significand : Int)), cs)

/-- Reads a number after its sign. -/
def number (negative : Bool) (cs : List UInt8) : Step Json :=
  match cs with
  | [] => fail .endInValue []
  | Mark.zero :: rest =>
    match rest with
    | c :: _ => if isDigit c then failAtHead .invalidNumber rest else afterWhole negative 0 0 rest
    | [] => afterWhole negative 0 0 []
  | c :: _ =>
    if !isDigit c then failAtHead .invalidNumber cs
    else
      let (significand, _, rest) := takeDigits 0 0 cs
      let dropped := rest.takeWhile isDigit
      afterWhole negative significand dropped.length (rest.dropWhile isDigit)

/-- Four hexadecimal digits; four bytes count as read whatever they are. -/
def hexEscape (cs : List UInt8) : Step Nat :=
  match cs with
  | a :: b :: c :: d :: rest =>
    match Text.Hex.decode [a, b, c, d] with
    | .ok [high, low] => .ok (high.toNat * 256 + low.toNat, rest)
    | _ => fail .invalidEscape rest
  | _ => fail .endInString []

def charBytes (n : Nat) : List UInt8 := Text.Utf8.encode (String.singleton (Char.ofNat n))

/-- What follows the letter of a Unicode escape: one number, or two that make up a pair. -/
def unicodeEscape (cs : List UInt8) : Step (List UInt8) :=
  match hexEscape cs with
  | .error fault => .error fault
  | .ok (n, rest) =>
    if 0xDC00 ≤ n && n ≤ 0xDFFF then fail .loneSurrogate rest
    else if n < 0xD800 || 0xDBFF < n then .ok (charBytes n, rest)
    else
      match rest with
      | Mark.backslash :: Mark.lowerU :: rest =>
        match hexEscape rest with
        | .error fault => .error fault
        | .ok (m, rest) =>
          if m < 0xDC00 || 0xDFFF < m then fail .loneSurrogate rest
          else .ok (charBytes ((n - 0xD800) * 1024 + (m - 0xDC00) + 0x10000), rest)
      | [] => fail .endInString []
      | [Mark.backslash] => fail .endInString []
      | Mark.backslash :: _ :: rest => fail .endOfHexEscape rest
      | _ :: rest => fail .endOfHexEscape rest

/-- The bytes that one letter behind a backslash stands for. -/
def escapes : List (Char × UInt8) :=
  [('"', 0x22), ('\\', 0x5C), ('/', 0x2F), ('b', 0x08), ('f', 0x0C), ('n', 0x0A), ('r', 0x0D),
    ('t', 0x09)]

/-- What follows a backslash. -/
def escaped (cs : List UInt8) : Step (List UInt8) :=
  match cs with
  | [] => fail .endInString []
  | Mark.lowerU :: rest => unicodeEscape rest
  | c :: rest =>
    match escapes.find? (·.1.toUInt8 == c) with
    | some (_, byte) => .ok ([byte], rest)
    | none => fail .invalidEscape rest

/-- Reads a string after its opening quote; every round takes a byte of the text. -/
def stringBody (acc : List UInt8) (cs : List UInt8) : (rounds : Nat) → Step String
  | 0 => fail .endInString []
  | rounds + 1 =>
    match cs with
    | [] => fail .endInString []
    | Mark.quote :: rest =>
      match Text.Utf8.decode acc.reverse with
      | .ok s => .ok (s, rest)
      | .error _ => fail .invalidCodePoint rest
    | Mark.backslash :: rest =>
      match escaped rest with
      | .ok (bytes, rest) => stringBody (bytes.reverse ++ acc) rest rounds
      | .error fault => .error fault
    | c :: rest =>
      if c < 32 then fail .controlCharacter rest
      else stringBody (c :: acc) rest rounds

def stringAfterQuote (cs : List UInt8) : Step String := stringBody [] cs (cs.length + 1)

/-- Reads the items of an array up to its end; every round takes a byte of the text. -/
def arrayItems (value : List UInt8 → Step Json) (acc : List Json) (cs : List UInt8) :
    (rounds : Nat) → Step Json
  | 0 => fail .endInList []
  | rounds + 1 =>
    match value cs with
    | .error fault => .error fault
    | .ok (item, rest) =>
      match skipBlank rest with
      | [] => fail .endInList []
      | Mark.closeList :: rest => .ok (.array (item :: acc).reverse, rest)
      | Mark.comma :: rest =>
        match skipBlank rest with
        | Mark.closeList :: rest => fail .trailingComma rest
        | rest => arrayItems value (item :: acc) rest rounds
      | rest => failAtHead .expectedListEnd rest

/-- Reads fields of an object, at least one, up to its end; every round takes a byte of the text. -/
def objectFields (value : List UInt8 → Step Json) (acc : List (String × Json))
    (cs : List UInt8) : (rounds : Nat) → Step Json
  | 0 => fail .endInObject []
  | rounds + 1 =>
    match cs with
    | [] => fail .endInValue []
    | Mark.quote :: rest =>
      match stringAfterQuote rest with
      | .error fault => .error fault
      | .ok (name, rest) =>
        match skipBlank rest with
        | [] => fail .endInObject []
        | Mark.colon :: rest =>
          match value rest with
          | .error fault => .error fault
          | .ok (item, rest) =>
            match skipBlank rest with
            | [] => fail .endInObject []
            | Mark.closeObject :: rest => .ok (record ((name, item) :: acc).reverse, rest)
            | Mark.comma :: rest =>
              match skipBlank rest with
              | Mark.closeObject :: rest => fail .trailingComma rest
              | rest => objectFields value ((name, item) :: acc) rest rounds
            | rest => failAtHead .expectedObjectEnd rest
        | rest => failAtHead .expectedColon rest
    | rest => failAtHead .keyNotString rest

/-- Reads a value inside of which arrays and objects may nest `depth` deep. -/
def value : (depth : Nat) → List UInt8 → Step Json
  | depth, cs =>
    match skipBlank cs with
    | [] => fail .endInValue []
    | Mark.lowerN :: rest => keyword .null (Text.Utf8.encode "ull") rest
    | Mark.lowerT :: rest => keyword (.bool true) (Text.Utf8.encode "rue") rest
    | Mark.lowerF :: rest => keyword (.bool false) (Text.Utf8.encode "alse") rest
    | Mark.minus :: rest => number true rest
    | Mark.quote :: rest => (stringAfterQuote rest).map fun (s, rest) => (.string s, rest)
    | Mark.openList :: rest =>
      match depth with
      | 0 => fail .recursionLimit rest
      | depth + 1 =>
        match skipBlank rest with
        | Mark.closeList :: rest => .ok (.array [], rest)
        | [] => fail .endInList []
        | rest => arrayItems (value depth) [] rest (rest.length + 1)
    | Mark.openObject :: rest =>
      match depth with
      | 0 => fail .recursionLimit rest
      | depth + 1 =>
        match skipBlank rest with
        | Mark.closeObject :: rest => .ok (record [], rest)
        | [] => fail .endInObject []
        | rest => objectFields (value depth) [] rest (rest.length + 1)
    | c :: rest => if isDigit c then number false (c :: rest) else fail .expectedValue rest

def maxDepth : Nat := 127

/-- Reads a text that holds one value and blanks around it. -/
def parse (text : String) : Except Fault Json := do
  let (json, rest) ← value maxDepth (Text.Utf8.encode text)
  let rest := skipBlank rest
  if rest.isEmpty then return json else throw ⟨.trailingCharacters, rest.drop 1⟩

end MoveWire.Json
