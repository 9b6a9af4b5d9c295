import TableGateway.Number.Binary64
import TableGateway.Text.Numeral

/-!
# Shortest decimal digits

The shortest digits that read back as a given binary64 number, and their layout.

The reals that round to a finite number form an interval, whose ends belong to it when the
significand is even.  On the grid of `n` digits only the two neighbours of the number can be the
nearest point inside the interval; the first grid with such a point gives the digits, of two
points the nearer is taken, and a tie goes to the even digit.
-/

namespace TableGateway.Binary64

/-- The digits `coefficient` times ten to the `exponent`. -/
structure Scientific where
  coefficient : Nat
  exponent : Int
  deriving DecidableEq, Repr

/-- A point of a decimal grid, and the interval of reals around a number, over a
common denominator. -/
structure Interval where
  low : Nat
  mid : Nat
  high : Nat
  den : Nat
  closed : Bool
  deriving DecidableEq, Repr

/-- The reals that round to a finite number other than zero.  The gap below a
power of two is half the gap above it. -/
def rounding (x : Binary64) : Interval :=
  let m := x.significand
  let below := if x.fractionField = 0 && 1 < x.exponentField then 1 else 2
  let q := x.scale - 2
  let up := Nat.pow 2 q.toNat
  ⟨(4 * m - below) * up, 4 * m * up, (4 * m + 2) * up, Nat.pow 2 (-q).toNat, m % 2 == 0⟩

def Interval.inUnits (i : Interval) (u : Int) : Interval :=
  let up := Nat.pow 10 (-u).toNat
  { i with
    low := i.low * up
    mid := i.mid * up
    high := i.high * up
    den := i.den * Nat.pow 10 u.toNat }

def Interval.holds (i : Interval) (n : Nat) : Bool :=
  let p := n * i.den
  if i.closed then i.low ≤ p && p ≤ i.high else i.low < p && p < i.high

/-- The integer in the interval that is nearest to its middle, if it is a
neighbour of the middle. -/
def Interval.nearest? (i : Interval) : Option Nat :=
  let a := i.mid / i.den
  let r := i.mid % i.den
  match i.holds a, i.holds (a + 1) with
  | true, true =>
    if 2 * r < i.den || (2 * r == i.den && a % 2 == 0) then some a else some (a + 1)
  | true, false => some a
  | false, true => some (a + 1)
  | false, false => none

/-- The greatest `k` with `10 ^ k ≤ num / den`, for positive numbers. -/
def floorLog10 (num den : Nat) : Int :=
  let k : Int := (Nat.toDigits 10 num).length - (Nat.toDigits 10 den).length
  let fits := if 0 ≤ k then den * Nat.pow 10 k.toNat ≤ num else den ≤ num * Nat.pow 10 (-k).toNat
  if fits then k else k - 1

/-- The first hit on the grids of `n`, `n + 1`, … digits. -/
def searchGrids (i : Interval) (k : Int) : Nat → Nat → Option Scientific
  | 0, _ => none
  | fuel + 1, n =>
    let u := k - n + 1
    match (i.inUnits u).nearest? with
    | some c => some ⟨c, u⟩
    | none => searchGrids i k fuel (n + 1)

/-- The shortest digits of a finite number other than zero.  Seventeen digits
tell all numbers apart. -/
def shortest? (x : Binary64) : Option Scientific :=
  let i := x.rounding
  searchGrids i (floorLog10 i.mid i.den) 17 1

/-- How digits are laid out: between the two exponents the point stands in
place, outside them an exponent with its sign follows the digits. -/
structure Layout where
  leastPlain : Int
  greatestPlain : Int
  deriving DecidableEq, Repr

/-- Digits `ds` with the point after the first `k + 1` of them. -/
def Layout.plain (ds : List Char) (k : Int) : List Char :=
  if k < 0 then '0' :: '.' :: (List.replicate (-k - 1).toNat '0' ++ ds)
  else
    let whole := k.toNat + 1
    let filled := ds ++ List.replicate (whole - ds.length) '0'
    let fraction := ds.drop whole
    filled.take whole ++ '.' :: (if fraction.isEmpty then ['0'] else fraction)

def Layout.exponential (ds : List Char) (k : Int) : List Char :=
  let mantissa := match ds with
    | d :: e :: rest => d :: '.' :: e :: rest
    | short => short
  mantissa ++ 'e' :: (if k < 0 then '-' else '+') :: Text.decimal k.natAbs

def Layout.digits (l : Layout) (ds : List Char) (k : Int) : List Char :=
  if l.leastPlain ≤ k && k ≤ l.greatestPlain then Layout.plain ds k
  else Layout.exponential ds k

def Scientific.significant (s : Scientific) : List Char :=
  ((Text.decimal s.coefficient).reverse.dropWhile (· == '0')).reverse

def Scientific.leading (s : Scientific) : Int :=
  s.exponent + (Text.decimal s.coefficient).length - 1

def render (l : Layout) (x : Binary64) : List Char :=
  let sign := if x.negative then ['-'] else []
  match if x.isZero then none else x.shortest? with
  | none => sign ++ ['0', '.', '0']
  | some s => sign ++ l.digits s.significant s.leading

end TableGateway.Binary64
