import MoveWire.Text.Blank
import MoveWire.Wire.Reader

/-!
Integers of any size: their text, and their little-endian form in a field of fixed width, which
exists exactly for the numbers that are not negative and have no more digits than the field.
-/

namespace MoveWire.Wide

/-- The value of a digit in bases up to 36. -/
def digitValue? (c : Char) : Option Nat :=
  if '0' ≤ c && c ≤ '9' then some (c.toNat - 48)
  else if 'a' ≤ c && c ≤ 'z' then some (c.toNat - 87)
  else if 'A' ≤ c && c ≤ 'Z' then some (c.toNat - 55)
  else none

/-- The number that digits spell after the digits of `value`; underscores do not count. -/
def ofDigits? (base value : Nat) : List Char → Option Nat
  | [] => some value
  | c :: rest =>
    if c = '_' then ofDigits? base value rest
    else
      match digitValue? c with
      | some d => if d < base then ofDigits? base (value * base + d) rest else none
      | none => none

/-- Reads digits after at most one plus sign; the first of them is no underscore. -/
def natural? (base : Nat) (cs : List Char) : Option Nat :=
  let cs := match cs with
    | '+' :: rest => rest
    | _ => cs
  match cs with
  | [] => none
  | '_' :: _ => none
  | _ => ofDigits? base 0 cs

/-- Reads the digits of a number, hexadecimal if they carry the mark. -/
def magnitude? : List Char → Option Nat
  | '0' :: 'x' :: rest => natural? 16 rest
  | '0' :: 'X' :: rest => natural? 16 rest
  | cs => natural? 10 cs

/-- Reads an integer with an optional minus sign and blanks around it. -/
def parse (text : String) : Fallible Int :=
  let cs := Text.trim text.toList
  let read := match cs with
    | '-' :: rest => (magnitude? rest).map fun n => -(n : Int)
    | _ => (magnitude? cs).map fun n => (n : Int)
  match read with
  | some n => .ok n
  | none => .error (.invalid (.notInteger (String.ofList cs)))

/-- How many digits of base 256 a number has; zero has none. -/
def byteLength (n : Nat) : Nat := if n = 0 then 0 else n.log2 / 8 + 1

/-- The digits of base 256 of a number, highest first; zero is written as one digit. -/
def bigEndian (n : Nat) : Bytes := if n = 0 then [0] else (Bytes.ofNat (byteLength n) n).reverse

/-- The digits of a number with zeros in front of them, as many as the field has room for, turned
around. -/
def encodeUnsigned (value : Int) (width : Nat) : Fallible Bytes :=
  if value < 0 then .error (.range (.negative value (width * 8)))
  else
    let digits := bigEndian value.toNat
    let digits := if digits = [0] then [] else digits
    if width < digits.length then .error (.range (.tooWide value digits.length (width * 8) width))
    else .ok (List.replicate (width - digits.length) 0 ++ digits).reverse

def toU128 (value : Int) : Fallible U128 := do
  return BitVec.ofNat 128 (Bytes.toNat (← encodeUnsigned value 16))

def toU256 (value : Int) : Fallible U256 := do
  return BitVec.ofNat 256 (Bytes.toNat (← encodeUnsigned value 32))

def intOfU256 (v : U256) : Int := v.toNat

/-- Compares digits of base 256 from the highest on. -/
def compareU256 (a b : U256) : Ordering :=
  compare (Bytes.ofNat 32 a.toNat).reverse (Bytes.ofNat 32 b.toNat).reverse

def parseU256 (text : String) : Fallible U256 := do toU256 (← parse text)

def u256Text (v : U256) : String := toString v.toNat

def u256Debug (v : U256) : String := "U256(" ++ u256Text v ++ ")"

/-- The lower half of the bytes is copied, the upper half is zero. -/
def u256OfU128 (v : U128) : U256 :=
  BitVec.ofNat 256 (Bytes.toNat (Bytes.ofNat 16 v.toNat ++ List.replicate 16 0))

def u256OfU64 (v : UInt64) : U256 := u256OfU128 (BitVec.ofNat 128 v.toNat)

end MoveWire.Wide
