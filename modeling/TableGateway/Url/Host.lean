import TableGateway.Url.Form

/-!
# Hosts in URLs

A host in brackets is an IPv6 address.  Where a scheme knows how hosts are named a host is a
domain name, or an IPv4 address if its last label is a number; under any other scheme a host is
whatever holds no character with a meaning in URLs.
-/

namespace TableGateway

inductive UrlFault where
  | relative
  | emptyHost
  | service
  | ipv4
  | ipv6
  | hostCharacter
  | domainName
  deriving DecidableEq, Repr

def UrlFault.message : UrlFault → String
  | .relative => "relative URL without a base"
  | .emptyHost => "empty host"
  | .service => "invalid port number"
  | .ipv4 => "invalid IPv4 address"
  | .ipv6 => "invalid IPv6 address"
  | .hostCharacter => "invalid domain character"
  | .domainName => "invalid international domain name"

namespace Url

/-- A number from 0 to 255 in decimal digits, without leading zeros. -/
def isOctet (cs : List Char) : Bool :=
  !cs.isEmpty && cs.all Text.isDigit && (cs.length == 1 || cs.head? != some '0') &&
    Text.ofDigits cs ≤ 255

def isDottedAddress (cs : List Char) : Bool :=
  let octets := cs.splitOnP (· == '.')
  octets.length == 4 && octets.all isOctet

def isPiece (cs : List Char) : Bool :=
  !cs.isEmpty && cs.length ≤ 4 && cs.all fun c => (Text.hexValue? c).isSome

/-- How many pieces of sixteen bits are written.  A dotted address stands for two,
and may only come last, where `last` says that the end of the list is the end of
the address. -/
def countPieces? (last : Bool) : List (List Char) → Option Nat
  | [] => some 0
  | [piece] =>
    if isPiece piece then some 1
    else if last && isDottedAddress piece then some 2
    else none
  | piece :: rest => if isPiece piece then (countPieces? last rest).map (1 + ·) else none

def piecesOf (cs : List Char) : List (List Char) :=
  if cs.isEmpty then [] else cs.splitOnP (· == ':')

def splitGap? : List Char → Option (List Char × List Char)
  | ':' :: ':' :: rest => some ([], rest)
  | [] => none
  | c :: rest => (splitGap? rest).map fun p => (c :: p.1, p.2)

/-- Eight pieces, or fewer with one gap that stands for at least one. -/
def isIpv6 (cs : List Char) : Bool :=
  match splitGap? cs with
  | none => countPieces? true (piecesOf cs) == some 8
  | some (left, right) =>
    match countPieces? false (piecesOf left), countPieces? true (piecesOf right) with
    | some m, some n => m + n ≤ 7
    | _, _ => false

/-- The number that a label writes: hexadecimal behind `0x`, octal behind `0`, and
decimal otherwise. -/
def labelNumber? : List Char → Option Nat
  | [] => none
  | ['0'] => some 0
  | '0' :: 'x' :: cs => Text.hexNumber? cs
  | '0' :: 'X' :: cs => Text.hexNumber? cs
  | '0' :: cs =>
    if cs.all fun c => Text.isDigit c && c.toNat < 0x38 then some (Nat.ofDigitChars 8 cs 0)
    else none
  | cs => Text.natural? cs

/-- The labels of a domain name; a final point ends the last one. -/
def labels (cs : List Char) : List (List Char) :=
  let labels := cs.splitOnP (· == '.')
  if labels.getLast? == some [] then labels.dropLast else labels

def endsInNumber (cs : List Char) : Bool :=
  match (labels cs).getLast? with
  | none => false
  | some label => (!label.isEmpty && label.all Text.isDigit) || (labelNumber? label).isSome

/-- Up to four numbers.  Each but the last is a byte of the address, and the last
fills the bytes that remain. -/
def isIpv4 (cs : List Char) : Bool :=
  match (labels cs).mapM labelNumber? with
  | none => false
  | some numbers =>
    numbers.length ≤ 4 && numbers.dropLast.all (· ≤ 255) &&
      numbers.getLast?.all (· < Nat.pow 256 (5 - numbers.length))

def isReserved (c : Char) : Bool :=
  "\x00\t\n\r #/:<>?@[\\]^|".toList.contains c

def isBarredFromDomains (c : Char) : Bool :=
  isReserved c || c == '%' || c.toNat < 0x20 || c == '\x7f' || c == '\ufffd'

/-- The host in a text between the brackets, if it begins with one. -/
def bracketed (cs : List Char) : Except UrlFault (List Char) :=
  if cs.getLast? == some ']' && isIpv6 cs.dropLast.tail then .ok cs else .error .ipv6

def plainHost (cs : List Char) : Except UrlFault (List Char) :=
  if cs.head? == some '[' then bracketed cs
  else if cs.any isReserved then .error .hostCharacter
  else .ok cs

/-- A host under a scheme with domain names.  Letters beyond ASCII are taken as
they are. -/
def domainHost (cs : List Char) : Except UrlFault (List Char) :=
  if cs.head? == some '[' then bracketed cs
  else
    let domain := (Text.ofBytes (unescape cs)).toList
    if domain.any isBarredFromDomains then .error .domainName
    else if domain.isEmpty then .error .emptyHost
    else if endsInNumber domain && !isIpv4 domain then .error .ipv4
    else .ok (domain.map Char.toLower)

end Url

end TableGateway
