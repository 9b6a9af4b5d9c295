import TableGateway.Error
import TableGateway.Text.Quoted
import TableGateway.Url

/-!
# What a URL says about a link

The user, the password and the database stand for UTF-8 text.  Of the settings in the query, the
later one counts; settings that are not known here are skipped.
-/

namespace TableGateway.Server

inductive Encryption where
  | disabled
  | preferred
  | required
  | verifyAuthority
  | verifyIdentity
  deriving DecidableEq, Repr

def Encryption.ofName? (name : String) : Option Encryption :=
  match String.ofList (name.toList.map Char.toLower) with
  | "disabled" => some .disabled
  | "preferred" => some .preferred
  | "required" => some .required
  | "verify_ca" => some .verifyAuthority
  | "verify_identity" => some .verifyIdentity
  | _ => none

inductive CountFault where
  | empty
  | digit
  | tooLarge
  deriving DecidableEq, Repr

def CountFault.message : CountFault → String
  | .empty => "cannot parse integer from empty string"
  | .digit => "invalid digit found in string"
  | .tooLarge => "number too large to fit in target type"

def addDigit (n : Nat) (c : Char) : Except CountFault Nat :=
  if !Text.isDigit c then .error .digit
  else
    let next := 10 * n + Text.ofDigits [c]
    if next < Nat.pow 2 64 then .ok next else .error .tooLarge

/-- The count that decimal digits write, with or without a plus sign. -/
def countOf : List Char → Except CountFault Nat
  | [] => .error .empty
  | ['+'] => .error .digit
  | '+' :: cs => cs.foldlM addDigit 0
  | cs => cs.foldlM addDigit 0

inductive OptionsFault where
  | url (fault : UrlFault)
  | encoding (fault : Text.EncodingFault)
  | encryption (name : String)
  | capacity (fault : CountFault)
  deriving DecidableEq, Repr

def OptionsFault.message : OptionsFault → String
  | .url fault => fault.message
  | .encoding fault => String.ofList fault.chars
  | .encryption name =>
    (LinkError.configuration ("unknown value " ++ Text.quoted name ++ " for `ssl_mode`")).message
  | .capacity fault => fault.message

structure Options where
  host : String
  service : Nat
  user : String
  password : Option String
  database : Option String
  encryption : Encryption
  /-- How many prepared statements the server keeps for the link. -/
  capacity : Nat
  deriving DecidableEq, Repr

namespace Options

def standard : Options :=
  ⟨"localhost", 3306, "root", none, none, .preferred, 100⟩

/-- The text that a part of a URL stands for; none for the empty part. -/
def textOf (cs : List Char) : Except OptionsFault (Option String) :=
  if cs.isEmpty then .ok none
  else ((Text.ofUtf8 (Url.unescape cs)).mapError .encoding).map some

def set (o : Options) (setting : String × String) : Except OptionsFault Options :=
  match setting.1 with
  | "sslmode" | "ssl-mode" =>
    match Encryption.ofName? setting.2 with
    | some encryption => .ok { o with encryption := encryption }
    | none => .error (.encryption setting.2)
  | "statement-cache-capacity" =>
    match countOf setting.2.toList with
    | .ok capacity => .ok { o with capacity := capacity }
    | .error fault => .error (.capacity fault)
  | _ => .ok o

/-- What a URL asks for.  Of several faults the first counts, in the order of
user, password, database and settings. -/
def ofUrl (url : Url) : Except OptionsFault Options := do
  let user ← textOf url.user
  let password ← textOf (url.password.getD [])
  let database ← textOf (url.path.dropWhile (· == '/'))
  let o : Options := { standard with
    host := (url.host.map String.ofList).getD standard.host
    service := url.service.getD standard.service
    user := user.getD standard.user
    password := password
    database := database }
  (Url.settings (url.query.getD [])).foldlM set o

def parse (url : String) : Except OptionsFault Options :=
  match Url.parse url with
  | .error fault => .error (.url fault)
  | .ok url => ofUrl url

end Options

end TableGateway.Server
