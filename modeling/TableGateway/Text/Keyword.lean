import TableGateway.Text.Blank

/-!
# Comparison with keywords

Keywords are written in ASCII capitals.  Two comparisons exist.  `equalsIgnoringCase` folds the
ASCII letters only.  `keywordForm` applies the full upper case mapping of Unicode, so that a
dotless i counts as an `I`.  A character whose upper case form is not ASCII can stand in no
keyword; leaving it as it is gives the same answer to every comparison.
-/

namespace TableGateway.Text

/-- The upper case form where that form is made of ASCII letters. -/
def asciiUpper (c : Char) : List Char :=
  let n := c.toNat
  if 0x61 ≤ n && n ≤ 0x7a then [Char.ofNat (n - 0x20)]
  else if n == 0xdf then ['S', 'S']
  else if n == 0x131 then ['I']
  else if n == 0x17f then ['S']
  else if n == 0xfb00 then ['F', 'F']
  else if n == 0xfb01 then ['F', 'I']
  else if n == 0xfb02 then ['F', 'L']
  else if n == 0xfb03 then ['F', 'F', 'I']
  else if n == 0xfb04 then ['F', 'F', 'L']
  else if n == 0xfb05 || n == 0xfb06 then ['S', 'T']
  else [c]

def keywordForm (s : String) : String :=
  String.ofList ((squeeze s.toList).flatMap asciiUpper)

def equalsIgnoringCase (a b : List Char) : Bool :=
  a.map Char.toUpper == b.map Char.toUpper

end TableGateway.Text
