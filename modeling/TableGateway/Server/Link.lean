import TableGateway.Registry
import TableGateway.Server.Cells
import TableGateway.Server.Options
import TableGateway.Sql.Placeholder

/-!
# Links to servers

A server knows question marks only.  A link puts them in the place of named placeholders when it
prepares a statement, and orders the values by the names when it executes one; values that
cannot be ordered never reach the server.
-/

namespace TableGateway

structure Server (τ : Type) where
  prepare : τ → String → Except LinkError Unit × τ
  execute : τ → String → List Value → Except LinkError ServerReply × τ
  reader : CellReader

structure Link (τ : Type) where
  server : τ
  lastId : UInt64

namespace Link

variable {τ : Type}

def namedValues (bindings : Bindings) : List String → Except DriverError (List Value)
  | [] => .ok []
  | name :: names =>
    match bindings.get? name with
    | none =>
      .error ⟨DriverError.parameterCode, "no value bound for parameter :" ++ name⟩
    | some value => (namedValues bindings names).map (value :: ·)

def orderedValues (names : List String) : Arguments → Except DriverError (List Value)
  | .named bindings => namedValues bindings names
  | .positional values =>
    if names.isEmpty then .ok values
    else
      .error ⟨DriverError.parameterCode,
        "positional parameters given for a statement with named placeholders"⟩

def prepare (s : Server τ) (l : Link τ) (sql : String) :
    Except DriverError Placeholder.Positional × Link τ :=
  let positional := Placeholder.Positional.ofSql sql
  match s.prepare l.server positional.sql with
  | (.ok (), server) => (.ok positional, { l with server := server })
  | (.error e, server) => (.error (.ofLink e), { l with server := server })

/-- What a reply means for a statement.  A query keeps the rows of a reply, and
any other statement the count and the identity. -/
def read (l : Link τ) (reader : CellReader) (verb : Verb) (reply : ServerReply) :
    Except DriverError Output × Link τ :=
  if verb.returnsRows then
    match reply with
    | .resultSet columns rows => ((reader.decodeRows columns rows).mapError .ofLink |>.map .rows, l)
    | .done _ _ => (.ok (.rows []), l)
  else
    match reply with
    | .done affected lastId => (.ok (.done affected), { l with lastId := lastId })
    | .resultSet _ _ => (.ok (.done 0), { l with lastId := 0 })

def execute (s : Server τ) (l : Link τ) (handle : Placeholder.Positional) (arguments : Arguments)
    (verb : Verb) : Except DriverError Output × Link τ :=
  match orderedValues handle.names arguments with
  | .error e => (.error e, l)
  | .ok values =>
    match s.execute l.server handle.sql values with
    | (.error e, server) => (.error (.ofLink e), { l with server := server })
    | (.ok reply, server) => { l with server := server }.read s.reader verb reply

def driver (s : Server τ) : Driver (Link τ) Placeholder.Positional where
  prepare := prepare s
  execute := execute s
  lastInsertId l := l.lastId

end Link

inductive Network (τ : Type) where
  | unreachable
  /-- A server answers under every URL. -/
  | serving (server : τ)

namespace Network

variable {τ : Type}

/-- Opens a link.  A URL that does not describe one is refused before any server
is sought. -/
def open? (network : Network τ) (url : String) : Except LinkError (Link τ) :=
  match Server.Options.parse url with
  | .error fault => .error (.configuration fault.message)
  | .ok _ =>
    match network with
    | .unreachable => .error (.communication "Network is unreachable (os error 101)")
    | .serving server => .ok ⟨server, 0⟩

def reach (network : Network τ) (config : Config) : Except Error (Link τ) :=
  (network.open? config.url).mapError fun e => .connection (.link e)

def connect (network : Network τ) (config : Config) :
    Except Error (Connection (Link τ) Placeholder.Positional) :=
  (network.reach config).map fun link => .ofDriver link config

def acquire (network : Network τ) (r : Registry (Link τ) Placeholder.Positional) (name : String) :
    Except Error Nat × Registry (Link τ) Placeholder.Positional :=
  r.acquire name fun config r => (network.reach config, r)

end Network

end TableGateway
