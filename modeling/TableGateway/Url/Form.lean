import TableGateway.Text.Encoding

/-!
# Escapes and settings in URLs

A percent sign with two hexadecimal digits stands for a byte; without them it stands for itself.
A query holds pairs between ampersands, where a plus sign stands for a space.
-/

namespace TableGateway.Url

def digitOfByte? (b : UInt8) : Option Nat :=
  Text.hexValue? (Char.ofNat b.toNat)

def unescapeBytes : List UInt8 → List UInt8
  | [] => []
  | [b] => [b]
  | [b, c] => [b, c]
  | b :: high :: low :: rest =>
    match digitOfByte? high, digitOfByte? low with
    | some h, some l =>
      if b = 0x25 then UInt8.ofNat (16 * h + l) :: unescapeBytes rest
      else b :: unescapeBytes (high :: low :: rest)
    | _, _ => b :: unescapeBytes (high :: low :: rest)

def unescape (cs : List Char) : List UInt8 :=
  unescapeBytes (Text.utf8 (String.ofList cs))

def settingText (cs : List Char) : String :=
  Text.ofBytes (unescape (cs.map fun c => if c = '+' then ' ' else c))

/-- The names and values in a query, in order.  A setting without an equals sign
has the empty value, and nothing between two ampersands is no setting. -/
def settings (query : List Char) : List (String × String) :=
  ((query.splitOnP (· == '&')).filter fun piece => !piece.isEmpty).map fun piece =>
    (settingText (piece.takeWhile (· != '=')),
      settingText ((piece.dropWhile (· != '=')).drop 1))

end TableGateway.Url
