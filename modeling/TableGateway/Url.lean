import TableGateway.Url.Host

/-!
# Absolute URLs

Behind the scheme and two slashes stand the credentials, up to the last at sign, the host and
the number of a service on it; then come the path and the query.  Some schemes always have a
host, and take a backslash for a slash.  A URL without the two slashes has no host.
-/

namespace TableGateway

inductive SchemeKind where
  /-- Files, which may be on no host. -/
  | file
  /-- Schemes that always name a host. -/
  | hosted
  | other
  deriving DecidableEq, Repr

structure Url where
  scheme : String
  user : List Char
  password : Option (List Char)
  host : Option (List Char)
  /-- The number of the service on the host, if it is not left to the scheme. -/
  service : Option Nat
  path : List Char
  query : Option (List Char)
  deriving DecidableEq, Repr

namespace Url

def kindOf (scheme : String) : SchemeKind :=
  if scheme = "file" then .file
  else if ["http", "https", "ws", "wss", "ftp"].contains scheme then .hosted
  else .other

/-- The text without the controls and spaces around it, and without line breaks
and tabs. -/
def stripped (cs : List Char) : List Char :=
  let isOuter (c : Char) : Bool := c.toNat ≤ 0x20
  let inner := ((cs.dropWhile isOuter).reverse.dropWhile isOuter).reverse
  inner.filter fun c => c != '\t' && c != '\n' && c != '\r'

/-- The scheme and what follows its colon.  A scheme is a letter followed by
letters, digits, plus, minus and point. -/
def splitScheme? : List Char → Option (String × List Char)
  | [] => none
  | c :: cs =>
    let isInner (c : Char) : Bool := c.isAlphanum || c == '+' || c == '-' || c == '.'
    match c.isAlpha, cs.dropWhile isInner with
    | true, ':' :: rest =>
      some (String.ofList ((c :: cs.takeWhile isInner).map Char.toLower), rest)
    | _, _ => none

def endsAuthority (kind : SchemeKind) (c : Char) : Bool :=
  c == '/' || c == '?' || c == '#' || (kind != .other && c == '\\')

def splitCredentials? (cs : List Char) : Option (List Char × List Char) :=
  if cs.contains '@' then
    some (((cs.reverse.dropWhile (· != '@')).drop 1).reverse,
      (cs.reverse.takeWhile (· != '@')).reverse)
  else none

/-- The host, up to a colon outside of brackets, and what follows. -/
def splitHost (inBrackets : Bool) : List Char → List Char × List Char
  | [] => ([], [])
  | c :: cs =>
    if c == ':' && !inBrackets then ([], c :: cs)
    else
      let inBrackets := c == '[' || (c != ']' && inBrackets)
      let (host, rest) := splitHost inBrackets cs
      (c :: host, rest)

/-- The number of the service behind a host, and what follows it.  A colon alone
names none. -/
def serviceOf : List Char → Except UrlFault (Option Nat × List Char)
  | ':' :: cs =>
    let (digits, rest) := Text.spanDigits cs
    if 65535 < Text.ofDigits digits then .error .service
    else if rest.isEmpty || rest.head? == some '\\' then
      .ok (if digits.isEmpty then none else some (Text.ofDigits digits), rest)
    else .error .service
  | cs => .ok (none, cs)

/-- The path, and the query if there is one; a number sign ends both. -/
def splitQuery (cs : List Char) : List Char × Option (List Char) :=
  let body := cs.takeWhile (· != '#')
  match body.dropWhile (· != '?') with
  | [] => (body, none)
  | _ :: query => (body.takeWhile (· != '?'), some query)

def hostless (scheme : String) (cs : List Char) : Url :=
  let (path, query) := splitQuery cs
  ⟨scheme, [], none, none, none, path, query⟩

/-- The host and the service, which stand before `tail`.  An empty host has no
service, and where there are credentials there is a host. -/
def withAuthority (kind : SchemeKind) (scheme : String) (user : List Char)
    (password : Option (List Char)) (cs tail : List Char) : Except UrlFault Url := do
  let (hostChars, rest) := splitHost false cs
  if kind == .hosted && hostChars.isEmpty then throw .emptyHost
  let host ← if kind == .hosted then domainHost hostChars else plainHost hostChars
  if host.isEmpty && !rest.isEmpty then throw .emptyHost
  let (service, rest) ← serviceOf rest
  if host.isEmpty && (!user.isEmpty || password.isSome) then throw .emptyHost
  let (path, query) := splitQuery (rest ++ tail)
  return ⟨scheme, user, password, if host.isEmpty then none else some host, service, path, query⟩

def ofAuthority (kind : SchemeKind) (scheme : String) (cs : List Char) : Except UrlFault Url :=
  let authority := cs.takeWhile fun c => !endsAuthority kind c
  let tail := cs.dropWhile fun c => !endsAuthority kind c
  match splitCredentials? authority with
  | none => withAuthority kind scheme [] none authority tail
  | some (credentials, rest) =>
    if credentials.isEmpty && rest.isEmpty && !tail.isEmpty then .error .emptyHost
    else
      let password := (credentials.dropWhile (· != ':')).drop 1
      withAuthority kind scheme (credentials.takeWhile (· != ':'))
        (if password.isEmpty then none else some password) rest tail

/-- A letter and a colon or a bar. -/
def isDrive : List Char → Bool
  | [c, d] => c.isAlpha && (d == ':' || d == '|')
  | _ => false

def isSlash (c : Char) : Bool :=
  c == '/' || c == '\\'

def ofFile (scheme : String) : List Char → Except UrlFault Url
  | a :: b :: cs =>
    let host := cs.takeWhile fun c => !endsAuthority .file c
    if !(isSlash a && isSlash b) then .ok (hostless scheme (a :: b :: cs))
    else if host.isEmpty || isDrive host then .ok (hostless scheme cs)
    else
      (domainHost host).map fun host =>
        { hostless scheme (cs.dropWhile fun c => !endsAuthority .file c) with
          host := if host = "localhost".toList then none else some host }
  | cs => .ok (hostless scheme cs)

def parse (url : String) : Except UrlFault Url :=
  match splitScheme? (stripped url.toList) with
  | none => .error .relative
  | some (scheme, rest) =>
    match kindOf scheme, rest with
    | .file, rest => ofFile scheme rest
    | .hosted, rest => ofAuthority .hosted scheme (rest.dropWhile isSlash)
    | .other, '/' :: '/' :: rest => ofAuthority .other scheme rest
    | .other, rest => .ok (hostless scheme rest)

end Url

end TableGateway
