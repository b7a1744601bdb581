import MoveWire.Number.Power

/-!
Floating-point numbers of 64 bits as a significand and a power of two, without infinities. A
quotient of naturals rounds to the nearest such number, and a number is written with the fewest
decimal digits from which it reads back.
-/

namespace MoveWire

/-- The number `significand * 2 ^ exponent` with a sign. -/
structure Binary64 where
  negative : Bool
  significand : Nat
  exponent : Int
  deriving DecidableEq, Repr

namespace Binary64

def minExponent : Int := -1074

def maxExponent : Int := 971

/-- A quotient to the nearest natural, a half to the even neighbour. -/
def roundDiv (num den : Nat) : Nat :=
  let q := num / den
  let twice := 2 * (num % den)
  if den < twice || (twice == den && q % 2 == 1) then q + 1 else q

/-- Numerator and denominator of `num / den` divided by a power of two. -/
def scaleDown (num den : Nat) (exponent : Int) : Nat × Nat :=
  if 0 ≤ exponent then (num, den * 2 ^ exponent.toNat) else (num * 2 ^ (-exponent).toNat, den)

/-- The number nearest to `num / den`, unless that is above the largest one. -/
def ofRatio? (num den : Nat) : Option Binary64 :=
  if num = 0 || den = 0 then some ⟨false, 0, minExponent⟩
  else
    let low : Int := (num.log2 : Int) - (den.log2 : Int) - 53
    let (n, d) := scaleDown num den low
    let exponent := max minExponent (if 2 ^ 53 ≤ n / d then low + 1 else low)
    let (n, d) := scaleDown num den exponent
    let m := roundDiv n d
    let (m, exponent) := if m = 2 ^ 53 then (2 ^ 52, exponent + 1) else (m, exponent)
    if maxExponent < exponent then none else some ⟨false, m, exponent⟩

def isZero (x : Binary64) : Bool := x.significand == 0

def neg (x : Binary64) : Binary64 := { x with negative := !x.negative }

/-- The size of a number as a quotient of naturals. -/
def ratio (x : Binary64) : Nat × Nat :=
  if 0 ≤ x.exponent then (x.significand * 2 ^ x.exponent.toNat, 1)
  else (x.significand, 2 ^ (-x.exponent).toNat)

def mul? (x y : Binary64) : Option Binary64 :=
  let (a, b) := x.ratio
  let (c, d) := y.ratio
  (ofRatio? (a * c) (b * d)).map fun z => { z with negative := x.negative != y.negative }

def div? (x y : Binary64) : Option Binary64 :=
  let (a, b) := x.ratio
  let (c, d) := y.ratio
  (ofRatio? (a * d) (b * c)).map fun z => { z with negative := x.negative != y.negative }

/-- A decimal number `digits * 10 ^ exponent`. -/
structure Decimal where
  digits : Nat
  exponent : Int
  deriving DecidableEq, Repr

/-- The quotient `num / den` in units of a power of ten. -/
def inUnits (num den : Nat) (exponent : Int) : Nat × Nat :=
  if 0 ≤ exponent then (num, den * 10 ^ exponent.toNat) else (num * 10 ^ (-exponent).toNat, den)

/-- Twice the least and twice the greatest real that rounds to this number, over one denominator,
and whether these two round to it themselves. -/
def interval (x : Binary64) : Nat × Nat × Nat × Bool :=
  let (num, den) := x.ratio
  let unit := if 0 ≤ x.exponent then 2 ^ x.exponent.toNat else 1
  let below := if x.significand = 2 ^ 52 && minExponent < x.exponent then unit else 2 * unit
  (4 * num - below, 4 * num + 2 * unit, 4 * den, x.significand % 2 == 0)

/-- Does the decimal lie in the interval? -/
def readsBack (low high den : Nat) (closed : Bool) (d : Decimal) : Bool :=
  let (a, b) :=
    if 0 ≤ d.exponent then (d.digits * 10 ^ d.exponent.toNat, 1)
    else (d.digits, 10 ^ (-d.exponent).toNat)
  if closed then low * b ≤ a * den && a * den ≤ high * b
  else low * b < a * den && a * den < high * b

/-- The power of ten of a quotient's first digit. -/
def decimalPower (num den : Nat) : Int :=
  let guess : Int := ((num.log2 : Int) - (den.log2 : Int)) * 1233 / 4096 - 1
  let (n, d) := inUnits num den guess
  let q := n / d
  if 100 ≤ q then guess + 2 else if 10 ≤ q then guess + 1 else guess

/-- The decimal of least length in the interval, tried from `count` digits on; on one grid the
nearer neighbour wins, and of two equally near ones the even. -/
def shortestFrom (x : Binary64) (power : Int) (count : Nat) : (tries : Nat) → Decimal
  | 0 => ⟨x.significand, 0⟩
  | tries + 1 =>
    let (num, den) := x.ratio
    let (low, high, scale, closed) := x.interval
    let exponent := power - count + 1
    let (n, d) := inUnits num den exponent
    let near := roundDiv n d
    let far := if near * d ≤ n then near + 1 else near - 1
    if readsBack low high scale closed ⟨near, exponent⟩ then ⟨near, exponent⟩
    else if readsBack low high scale closed ⟨far, exponent⟩ then ⟨far, exponent⟩
    else shortestFrom x power (count + 1) tries

def shortest (x : Binary64) : Decimal :=
  let (num, den) := x.ratio
  shortestFrom x (decimalPower num den) 1 17

/-- Decimal text: positional with at least one place for exponents from -5 up to 15, otherwise one
digit before the point and a signed exponent. -/
def toText (x : Binary64) : String :=
  let sign := if x.negative then "-" else ""
  if x.isZero then sign ++ "0.0"
  else
    let shortest := x.shortest
    let digits := Nat.toDigits 10 shortest.digits
    let trailing := (digits.reverse.takeWhile (· == '0')).length
    let digits := digits.take (digits.length - trailing)
    let power := shortest.exponent + trailing + digits.length - 1
    let body :=
      if power < -5 || 16 ≤ power then
        let places := digits.drop 1
        digits.take 1 ++ (if places.isEmpty then [] else '.' :: places) ++
          'e' :: (if power < 0 then '-' else '+') :: Nat.toDigits 10 power.natAbs
      else if power < 0 then
        ['0', '.'] ++ List.replicate (power.natAbs - 1) '0' ++ digits
      else
        let whole := power.toNat + 1
        let places := digits.drop whole
        digits.take whole ++ List.replicate (whole - digits.length) '0' ++
          '.' :: (if places.isEmpty then ['0'] else places)
    sign ++ String.ofList body

end Binary64

end MoveWire
