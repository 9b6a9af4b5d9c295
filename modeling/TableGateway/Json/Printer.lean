import TableGateway.Json.Basic
import TableGateway.Number.Shortest
import TableGateway.Text.Bytes

/-!
# Compact JSON text

There are no spaces, and no escapes but for the quote, the backslash and the control characters.
-/

namespace TableGateway.Json

/-- Exponents from -5 to 15 are written in place, always with a point. -/
def floatLayout : Binary64.Layout :=
  ⟨-5, 15⟩

def escapeChar (c : Char) : List Char :=
  if c = '\x22' then ['\\', '\x22']
  else if c = '\\' then ['\\', '\\']
  else if c = '\x08' then ['\\', 'b']
  else if c = '\x09' then ['\\', 't']
  else if c = '\x0a' then ['\\', 'n']
  else if c = '\x0c' then ['\\', 'f']
  else if c = '\x0d' then ['\\', 'r']
  else if c.toNat < 0x20 then
    ['\\', 'u', '0', '0', Text.hexDigit (c.toNat / 16), Text.hexDigit (c.toNat % 16)]
  else [c]

def quoted (s : String) : List Char :=
  '\x22' :: (s.toList.flatMap escapeChar ++ ['\x22'])

/-- Numbers that are not finite have no JSON form and print as `null`. -/
def Number.chars : Number → List Char
  | .integer n _ => Text.signed n
  | .float x => if x.isFinite then x.render floatLayout else ['n', 'u', 'l', 'l']

mutual

def chars : Json → List Char
  | .null => ['n', 'u', 'l', 'l']
  | .bool true => ['t', 'r', 'u', 'e']
  | .bool false => ['f', 'a', 'l', 's', 'e']
  | .number n => n.chars
  | .string s => quoted s
  | .array items => '[' :: (List.intercalate [','] (itemChars items) ++ [']'])
  | .object members => '\x7b' :: (List.intercalate [','] (memberChars members) ++ ['\x7d'])

def itemChars : List Json → List (List Char)
  | [] => []
  | item :: rest => chars item :: itemChars rest

def memberChars : List (String × Json) → List (List Char)
  | [] => []
  | (key, value) :: rest => (quoted key ++ ':' :: chars value) :: memberChars rest

end

def compact (j : Json) : String :=
  String.ofList j.chars

end TableGateway.Json
