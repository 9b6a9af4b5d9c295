/-!
# Binary64 numbers

The numbers of IEEE 754 are held as their bit patterns.  A finite number is `significand * 2 ^
scale` with a sign.  Conversions from exact ratios round to nearest, and a tie goes to the even
neighbour; they work in exact natural number arithmetic.  Patterns are kept as they are, so the
payload of a NaN survives.
-/

namespace TableGateway

structure Binary64 where
  bits : UInt64
  deriving DecidableEq, Repr

namespace Binary64

def negative (x : Binary64) : Bool :=
  Nat.pow 2 63 ≤ x.bits.toNat

def exponentField (x : Binary64) : Nat :=
  x.bits.toNat / Nat.pow 2 52 % Nat.pow 2 11

def fractionField (x : Binary64) : Nat :=
  x.bits.toNat % Nat.pow 2 52

def isFinite (x : Binary64) : Bool :=
  x.exponentField != 2047

def isNaN (x : Binary64) : Bool :=
  x.exponentField == 2047 && x.fractionField != 0

def isZero (x : Binary64) : Bool :=
  x.exponentField == 0 && x.fractionField == 0

def significand (x : Binary64) : Nat :=
  if x.exponentField = 0 then x.fractionField else Nat.pow 2 52 + x.fractionField

def scale (x : Binary64) : Int :=
  max x.exponentField 1 - 1075

/-- Equality of numbers: a NaN differs from everything, the two zeros agree. -/
def same (x y : Binary64) : Bool :=
  !x.isNaN && !y.isNaN && (x.bits == y.bits || (x.isZero && y.isZero))

/-- A sign and the sixty-three bits below it. -/
def ofMagnitude (negative : Bool) (magnitude : Nat) : Binary64 :=
  ⟨UInt64.ofNat ((if negative then Nat.pow 2 63 else 0) + magnitude)⟩

def zero (negative : Bool) : Binary64 :=
  ofMagnitude negative 0

def infinity (negative : Bool) : Binary64 :=
  ofMagnitude negative (2047 * Nat.pow 2 52)

def roundHalfEven (num den : Nat) : Nat :=
  let q := num / den
  let r := num % den
  if den < 2 * r || (2 * r == den && q % 2 == 1) then q + 1 else q

/-- The greatest `e` with `2 ^ e ≤ num / den`, for positive numbers. -/
def floorLog2 (num den : Nat) : Int :=
  let e : Int := num.log2 - den.log2
  let fits := if 0 ≤ e then den * Nat.pow 2 e.toNat ≤ num else den ≤ num * Nat.pow 2 (-e).toNat
  if fits then e else e - 1

def ofRatio (negative : Bool) (num den : Nat) : Binary64 :=
  if num = 0 then zero negative
  else
    let q : Int := max (floorLog2 num den - 52) (-1074)
    let m :=
      if 0 ≤ q then roundHalfEven num (den * Nat.pow 2 q.toNat)
      else roundHalfEven (num * Nat.pow 2 (-q).toNat) den
    let magnitude := (q + 1074).toNat * Nat.pow 2 52 + m
    if magnitude < 2047 * Nat.pow 2 52 then ofMagnitude negative magnitude else infinity negative

/-- The number nearest to `m * 10 ^ e`.  Exponents far outside the range are
decided before the power is computed. -/
def ofDecimal (negative : Bool) (m : Nat) (e : Int) : Binary64 :=
  let digits : Int := (Nat.toDigits 10 m).length
  if m = 0 then zero negative
  else if 400 < e + digits then infinity negative
  else if e + digits < -400 then zero negative
  else if 0 ≤ e then ofRatio negative (m * Nat.pow 10 e.toNat) 1
  else ofRatio negative m (Nat.pow 10 (-e).toNat)

def ofInt (n : Int) : Binary64 :=
  ofRatio (n < 0) n.natAbs 1

def ratio (x : Binary64) : Nat × Nat :=
  (x.significand * Nat.pow 2 x.scale.toNat, Nat.pow 2 (-x.scale).toNat)

def mul (x y : Binary64) : Binary64 :=
  ofRatio (x.negative != y.negative) (x.ratio.1 * y.ratio.1) (x.ratio.2 * y.ratio.2)

def div (x y : Binary64) : Binary64 :=
  ofRatio (x.negative != y.negative) (x.ratio.1 * y.ratio.2) (x.ratio.2 * y.ratio.1)

def powerOfTen (k : Nat) : Binary64 :=
  ofRatio false (Nat.pow 10 k) 1

/-- A number times ten to the `e`, by one rounded product or by rounded quotients
with powers up to the greatest that is a number.  There is no result beyond the
range.  Two quotients by the greatest power leave no number but zero. -/
def scaleByTen? : Nat → Binary64 → Int → Option Binary64
  | 0, x, _ => some (zero x.negative)
  | fuel + 1, x, e =>
    if x.isZero then some x
    else if 308 < e then none
    else if 0 ≤ e then
      let product := mul x (powerOfTen e.toNat)
      if product.isFinite then some product else none
    else if -308 ≤ e then some (div x (powerOfTen (-e).toNat))
    else scaleByTen? fuel (div x (powerOfTen 308)) (e + 308)

/-- A significand of sixty-four bits times ten to the `e`, where the significand
is rounded first and then scaled. -/
def ofParts? (negative : Bool) (significand : Nat) (e : Int) : Option Binary64 :=
  scaleByTen? 3 (ofRatio negative significand 1) e

def toInt? (x : Binary64) : Option Int :=
  let attachSign (n : Nat) : Int := if x.negative then -n else n
  let q := x.scale
  if !x.isFinite then none
  else if 0 ≤ q then some (attachSign (x.significand * Nat.pow 2 q.toNat))
  else if x.significand % Nat.pow 2 (-q).toNat = 0 then
    some (attachSign (x.significand / Nat.pow 2 (-q).toNat))
  else none

/-- The binary64 number that equals a binary32 number given by its bit pattern;
a NaN becomes quiet and keeps its payload in the upper fraction bits. -/
def ofBinary32 (bits : UInt32) : Binary64 :=
  let n := bits.toNat
  let negative : Bool := Nat.pow 2 31 ≤ n
  let e := n / Nat.pow 2 23 % Nat.pow 2 8
  let f := n % Nat.pow 2 23
  if e = 255 then
    if f = 0 then infinity negative
    else ofMagnitude negative (2047 * Nat.pow 2 52 + (f * Nat.pow 2 29 ||| Nat.pow 2 51))
  else if e = 0 then ofRatio negative f (Nat.pow 2 149)
  else if e < 150 then ofRatio negative (Nat.pow 2 23 + f) (Nat.pow 2 (150 - e))
  else ofRatio negative ((Nat.pow 2 23 + f) * Nat.pow 2 (e - 150)) 1

end Binary64

end TableGateway
