import TableGateway.Json.Basic
import TableGateway.Text.Bytes
import TableGateway.Text.Numeral

/-!
# Reading JSON text

Each reader returns what it read together with the text behind it.

A numeral without point and exponent is an integer when it fits a word of 64 bits; every other
numeral is a binary64 number, and `-0` is the negative zero.  The digits of such a numeral are
rounded, and then their product or quotient with a power of ten is, so it need not be the
nearest number.

Of several members with one key the last is kept.  Nesting is limited to `depthLimit` levels.
-/

namespace TableGateway.Json

inductive Reason where
  | endInList
  | endInObject
  | endInString
  | endInValue
  | missingColon
  | missingListSeparator
  | missingObjectSeparator
  | unknownWord
  | notAValue
  | unknownEscape
  | notANumber
  | numberOutOfRange
  | notACodePoint
  | bareControl
  | keyNotAString
  | loneSurrogate
  | separatorAtEnd
  | textAfterEnd
  | tooDeep
  deriving DecidableEq, Repr

def Reason.text : Reason → String
  | .endInList => "EOF while parsing a list"
  | .endInObject => "EOF while parsing an object"
  | .endInString => "EOF while parsing a string"
  | .endInValue => "EOF while parsing a value"
  | .missingColon => "expected `:`"
  | .missingListSeparator => "expected `,` or `]`"
  | .missingObjectSeparator => "expected `,` or `\x7d`"
  | .unknownWord => "expected ident"
  | .notAValue => "expected value"
  | .unknownEscape => "invalid escape"
  | .notANumber => "invalid number"
  | .numberOutOfRange => "number out of range"
  | .notACodePoint => "invalid unicode code point"
  | .bareControl => "control character (\\u0000-\\u001F) found while parsing a string"
  | .keyNotAString => "key must be a string"
  | .loneSurrogate => "lone leading surrogate in hex escape"
  | .separatorAtEnd => "trailing comma"
  | .textAfterEnd => "trailing characters"
  | .tooDeep => "recursion limit exceeded"

structure Fault where
  reason : Reason
  rest : List Char
  deriving DecidableEq, Repr

def fail {α : Type} (reason : Reason) (rest : List Char) : Except Fault α :=
  .error ⟨reason, rest⟩

def depthLimit : Nat := 128

def isSpace (c : Char) : Bool :=
  c == ' ' || c == '\x09' || c == '\x0a' || c == '\x0d'

def skipSpace (cs : List Char) : List Char :=
  cs.dropWhile isSpace

/-- Reads the rest of a word whose first letter has been seen. -/
def readWord : List Char → List Char → Json → Except Fault (Json × List Char)
  | [], cs, value => .ok (value, cs)
  | _ :: _, [], _ => fail .endInValue []
  | w :: ws, c :: cs, value => if w = c then readWord ws cs value else fail .unknownWord cs

/-- Appends digits to a number as long as it fits a word of 64 bits, and returns
the digits that are left. -/
def takeDigits (n : Nat) : List Char → Nat × List Char
  | [] => (n, [])
  | d :: ds =>
    let next := 10 * n + Text.ofDigits [d]
    if next < Nat.pow 2 64 then takeDigits next ds else (n, d :: ds)

/-- The number written by a numeral that has been split into its parts.  Of the
digits that do not fit a word, those before the point count as zeros and those
behind it are dropped. -/
def numberOf? (negative : Bool) (whole fraction : List Char) (exponent : Option Int) :
    Option Number :=
  let (n, uncounted) := takeDigits 0 whole
  let signed : Int := if negative then -n else n
  let isInteger := fraction.isEmpty && exponent.isNone && uncounted.isEmpty && !(negative && n == 0)
  if h : isInteger = true ∧ -Int.pow 2 63 ≤ signed ∧ signed < Int.pow 2 64 then
    some (.integer signed h.2)
  else
    let (m, dropped) := takeDigits n fraction
    let e : Int := exponent.getD 0 + uncounted.length - (fraction.length - dropped.length)
    (Binary64.ofParts? negative m e).map .float

def readExponent : List Char → Except Fault (Option Int × List Char)
  | c :: cs =>
    if c = 'e' || c = 'E' then
      let (negative, rest) := match cs with
        | '-' :: rest => (true, rest)
        | '+' :: rest => (false, rest)
        | rest => (false, rest)
      let (digits, rest) := Text.spanDigits rest
      if digits.isEmpty then fail (if rest.isEmpty then .endInValue else .notANumber) rest
      else
        let e : Int := Text.ofDigits digits
        .ok (some (if negative then -e else e), rest)
    else .ok (none, c :: cs)
  | [] => .ok (none, [])

def readFraction : List Char → Except Fault (List Char × List Char)
  | '.' :: cs =>
    let (digits, rest) := Text.spanDigits cs
    if digits.isEmpty then fail (if rest.isEmpty then .endInValue else .notANumber) rest
    else .ok (digits, rest)
  | cs => .ok ([], cs)

def readNumber (negative : Bool) (cs : List Char) : Except Fault (Json × List Char) := do
  let (whole, rest) := Text.spanDigits cs
  match whole with
  | [] => fail (if rest.isEmpty then .endInValue else .notANumber) rest
  | '0' :: _ :: _ => fail .notANumber rest
  | _ =>
    let (fraction, rest) ← readFraction rest
    let (exponent, rest) ← readExponent rest
    match numberOf? negative whole fraction exponent with
    | some n => return (.number n, rest)
    | none => fail .numberOutOfRange rest

def readHex4 : List Char → Except Fault (Nat × List Char)
  | a :: b :: c :: d :: rest =>
    match Text.hexNumber? [a, b, c, d] with
    | some n => .ok (n, rest)
    | none => fail .unknownEscape rest
  | _ => fail .endInString []

/-- Reads the code point of an escape whose `\u` has been seen; a leading
surrogate must be followed by the escape of a trailing one. -/
def readCodePoint (cs : List Char) : Except Fault (Char × List Char) := do
  let (high, rest) ← readHex4 cs
  if 0xd800 ≤ high && high ≤ 0xdbff then
    match rest with
    | '\\' :: 'u' :: rest =>
      let (low, rest) ← readHex4 rest
      if 0xdc00 ≤ low && low ≤ 0xdfff then
        return (Char.ofNat (0x10000 + (high - 0xd800) * 0x400 + (low - 0xdc00)), rest)
      else fail .loneSurrogate rest
    | rest => fail .loneSurrogate rest
  else if 0xdc00 ≤ high && high ≤ 0xdfff then fail .loneSurrogate rest
  else return (Char.ofNat high, rest)

def escapedChar? (c : Char) : Option Char :=
  if c = '\x22' then some '\x22'
  else if c = '\\' then some '\\'
  else if c = '/' then some '/'
  else if c = 'b' then some '\x08'
  else if c = 'f' then some '\x0c'
  else if c = 'n' then some '\x0a'
  else if c = 'r' then some '\x0d'
  else if c = 't' then some '\x09'
  else none

def readChars : Nat → List Char → Except Fault (List Char × List Char)
  | 0, cs => fail .endInString cs
  | _, [] => fail .endInString []
  | fuel + 1, c :: cs =>
    if c = '\x22' then .ok ([], cs)
    else if c = '\\' then
      match cs with
      | [] => fail .endInString []
      | 'u' :: rest => do
        let (d, rest) ← readCodePoint rest
        let (ds, rest) ← readChars fuel rest
        return (d :: ds, rest)
      | e :: rest =>
        match escapedChar? e with
        | none => fail .unknownEscape rest
        | some d => do
          let (ds, rest) ← readChars fuel rest
          return (d :: ds, rest)
    else if c.toNat < 0x20 then fail .bareControl cs
    else do
      let (ds, rest) ← readChars fuel cs
      return (c :: ds, rest)

def readString (cs : List Char) : Except Fault (String × List Char) := do
  let (chars, rest) ← readChars (cs.length + 1) cs
  return (String.ofList chars, rest)

mutual

/-- Reads a value; `depth` more levels may be opened. -/
def readValue : Nat → Nat → List Char → Except Fault (Json × List Char)
  | 0, _, cs => fail .tooDeep cs
  | fuel + 1, depth, cs =>
    match skipSpace cs with
    | [] => fail .endInValue []
    | c :: rest =>
      if c = 'n' then readWord ['u', 'l', 'l'] rest .null
      else if c = 't' then readWord ['r', 'u', 'e'] rest (.bool true)
      else if c = 'f' then readWord ['a', 'l', 's', 'e'] rest (.bool false)
      else if c = '-' then readNumber true rest
      else if Text.isDigit c then readNumber false (c :: rest)
      else if c = '\x22' then do
        let (s, rest) ← readString rest
        return (.string s, rest)
      else if c = '[' then
        if depth ≤ 1 then fail .tooDeep rest
        else match skipSpace rest with
          | ']' :: rest => .ok (.array [], rest)
          | [] => fail .endInList []
          | rest => do
            let (items, rest) ← readItems fuel (depth - 1) rest
            return (.array items, rest)
      else if c = '\x7b' then
        if depth ≤ 1 then fail .tooDeep rest
        else match skipSpace rest with
          | '\x7d' :: rest => .ok (.object [], rest)
          | [] => fail .endInObject []
          | rest => do
            let (members, rest) ← readMembers fuel (depth - 1) rest
            return (ofMembers members, rest)
      else fail .notAValue (c :: rest)

def readItems : Nat → Nat → List Char → Except Fault (List Json × List Char)
  | 0, _, cs => fail .tooDeep cs
  | fuel + 1, depth, cs => do
    let (item, rest) ← readValue fuel depth cs
    match skipSpace rest with
    | [] => fail .endInList []
    | ']' :: rest => return ([item], rest)
    | ',' :: rest =>
      match skipSpace rest with
      | [] => fail .endInValue []
      | ']' :: _ => fail .separatorAtEnd rest
      | rest =>
        let (items, rest) ← readItems fuel depth rest
        return (item :: items, rest)
    | rest => fail .missingListSeparator rest

def readMembers : Nat → Nat → List Char → Except Fault (List (String × Json) × List Char)
  | 0, _, cs => fail .tooDeep cs
  | fuel + 1, depth, cs =>
    match skipSpace cs with
    | [] => fail .endInValue []
    | c :: rest => do
      if c = '\x22' then
        let (key, rest) ← readString rest
        match skipSpace rest with
        | [] => fail .endInObject []
        | ':' :: rest =>
          let (value, rest) ← readValue fuel depth rest
          match skipSpace rest with
          | [] => fail .endInObject []
          | '\x7d' :: rest => return ([(key, value)], rest)
          | ',' :: rest =>
            match skipSpace rest with
            | '\x7d' :: _ => fail .separatorAtEnd rest
            | rest =>
              let (members, rest) ← readMembers fuel depth rest
              return ((key, value) :: members, rest)
          | rest => fail .missingObjectSeparator rest
        | rest => fail .missingColon rest
      else if c = '\x7d' then fail .separatorAtEnd (c :: rest)
      else fail .keyNotAString (c :: rest)

end

def readAll (cs : List Char) : Except Fault Json := do
  let (value, rest) ← readValue (2 * cs.length + 2) depthLimit cs
  match skipSpace rest with
  | [] => return value
  | rest => .error ⟨.textAfterEnd, rest⟩

/-- Where a fault lies: the line, and the byte in it, of the next character. -/
def Fault.position (text : List Char) (fault : Fault) : Nat × Nat :=
  let consumed := min text.length (text.length - fault.rest.length + 1)
  let before := text.take consumed
  let line := before.count '\x0a' + 1
  let column := (before.reverse.takeWhile (· != '\x0a')).foldl (fun n c => n + c.utf8Size) 0
  (line, column)

def Fault.message (text : List Char) (fault : Fault) : String :=
  let (line, column) := fault.position text
  fault.reason.text ++ " at line " ++ String.ofList (Text.decimal line) ++ " column " ++
    String.ofList (Text.decimal column)

def parse (s : String) : Except String Json :=
  match readAll s.toList with
  | .ok value => .ok value
  | .error fault => .error (fault.message s.toList)

end TableGateway.Json
