import MoveWire.Text.Quoted

/-!
Bytes as pairs of hexadecimal digits, high half first. Writing uses lowercase; reading takes both
cases and names the first byte of the text that is no digit.
-/

namespace MoveWire.Text.Hex

inductive Fault where
  | oddLength
  | badDigit (index : Nat) (byte : UInt8)
  deriving DecidableEq, Repr

def Fault.message : Fault → String
  | .oddLength => "Odd number of digits"
  | .badDigit index byte =>
    s!"Invalid character {Quoted.char (Char.ofUInt8 byte)} at position {index}"

def digitChar (n : UInt8) : Char :=
  Char.ofUInt8 (if n < 10 then n + 48 else n + 87)

def digitValue? (b : UInt8) : Option UInt8 :=
  if 48 ≤ b && b ≤ 57 then some (b - 48)
  else if 97 ≤ b && b ≤ 102 then some (b - 87)
  else if 65 ≤ b && b ≤ 70 then some (b - 55)
  else none

def isDigit (c : Char) : Bool :=
  ('0' ≤ c && c ≤ '9') || ('a' ≤ c && c ≤ 'f') || ('A' ≤ c && c ≤ 'F')

def encodeChars (bytes : List UInt8) : List Char :=
  bytes.flatMap fun b => [digitChar (b / 16), digitChar (b % 16)]

def encode (bytes : List UInt8) : String := String.ofList (encodeChars bytes)

/-- Reads pairs of digits from the text that starts at this index of the whole. -/
def decodeAt (index : Nat) : List UInt8 → Except Fault (List UInt8)
  | high :: low :: rest =>
    match digitValue? high, digitValue? low with
    | none, _ => .error (.badDigit index high)
    | some _, none => .error (.badDigit (index + 1) low)
    | some h, some l => (decodeAt (index + 2) rest).map ((16 * h + l) :: ·)
  | _ => .ok []

/-- Reads a text given by its bytes; its length is looked at before any digit. -/
def decode (text : List UInt8) : Except Fault (List UInt8) :=
  if text.length % 2 = 1 then .error .oddLength else decodeAt 0 text

theorem digitValue?_digitChar (n : UInt8) (h : n < 16) :
    digitValue? (digitChar n).toUInt8 = some n := by
  have all : ∀ k : Fin 16, digitValue? (digitChar (UInt8.ofNat k.val)).toUInt8 =
      some (UInt8.ofNat k.val) := by decide
  have := all ⟨n.toNat, by simpa [UInt8.lt_iff_toNat_lt] using h⟩
  simpa using this

end MoveWire.Text.Hex
