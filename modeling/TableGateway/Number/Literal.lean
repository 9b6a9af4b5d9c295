import TableGateway.Number.Binary64
import TableGateway.Text.Numeral

/-!
# Numeric literals

A literal has an optional sign, digits with an optional point, and an optional exponent.  There
must be a digit before or behind the point.
-/

namespace TableGateway

structure Literal where
  sign : Option Char
  whole : List Char
  fraction : Option (List Char)
  exponent : Option (Option Char × List Char)
  deriving DecidableEq, Repr

namespace Literal

def splitSign : List Char → Option Char × List Char
  | c :: cs => if c = '+' || c = '-' then (some c, cs) else (none, c :: cs)
  | [] => (none, [])

def splitFraction : List Char → Option (List Char) × List Char
  | '.' :: cs => (some (Text.spanDigits cs).1, (Text.spanDigits cs).2)
  | cs => (none, cs)

/-- The exponent that a text is, or the absence of one for the empty text. -/
def exponent? : List Char → Option (Option (Option Char × List Char))
  | [] => some none
  | c :: cs =>
    let (sign, digits) := splitSign cs
    if (c = 'e' || c = 'E') && !digits.isEmpty && digits.all Text.isDigit then
      some (some (sign, digits))
    else none

def ofChars? (cs : List Char) : Option Literal :=
  let (sign, rest) := splitSign cs
  let (whole, rest) := Text.spanDigits rest
  let (fraction, rest) := splitFraction rest
  if whole.isEmpty && (fraction.getD []).isEmpty then none
  else (exponent? rest).map fun exponent => ⟨sign, whole, fraction, exponent⟩

def negative (l : Literal) : Bool :=
  l.sign == some '-'

def isInteger (l : Literal) : Bool :=
  l.fraction.isNone && l.exponent.isNone

def toInt (l : Literal) : Int :=
  let n : Int := Text.ofDigits l.whole
  if l.negative then -n else n

def exponentValue (l : Literal) : Int :=
  match l.exponent with
  | none => 0
  | some (sign, digits) =>
    let e : Int := Text.ofDigits digits
    if sign == some '-' then -e else e

def toFloat (l : Literal) : Binary64 :=
  let fraction := l.fraction.getD []
  Binary64.ofDecimal l.negative (Text.ofDigits (l.whole ++ fraction))
    (l.exponentValue - fraction.length)

end Literal

end TableGateway
