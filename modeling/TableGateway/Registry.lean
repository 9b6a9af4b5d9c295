import TableGateway.Connection

/-!
# Registries of named connections

A registry keeps configurations by name, and makes a connection for a name when one is first
asked for.  Connections are shared: a connection is known by its place in the pool, where it
stays for those who hold it even when the registry has let go of it.

Making a connection takes two steps, since the registry is free for others while a driver is
being reached.  `lookup` finds a live connection or the configuration to reach a driver with;
`settle` takes what was reached, and looks again whether a connection has appeared in the
meantime, which then is the answer.
-/

namespace TableGateway

def defaultConnection : String := "default"

structure Registry (σ η : Type) where
  configs : Std.TreeMap String Config
  live : Std.TreeMap String Nat
  pool : Array (Connection σ η)

inductive Lookup where
  | live (place : Nat)
  | unconnected (config : Config)
  | unconfigured
  deriving DecidableEq, Repr

namespace Registry

variable {σ η : Type}

def empty : Registry σ η :=
  ⟨∅, ∅, #[]⟩

def configure (r : Registry σ η) (name : String) (config : Config) : Registry σ η :=
  { r with configs := r.configs.insert name config, live := r.live.erase name }

def config? (r : Registry σ η) (name : String) : Option Config :=
  r.configs[name]?

def names (r : Registry σ η) : List String :=
  r.configs.keys

def connectedNames (r : Registry σ η) : List String :=
  r.live.keys

def isConnected (r : Registry σ η) (name : String) : Bool :=
  r.live.contains name

def reset (r : Registry σ η) (name : String) : Bool × Registry σ η :=
  (r.isConnected name, { r with live := r.live.erase name })

def resetAll (r : Registry σ η) : Registry σ η :=
  { r with live := ∅ }

def lookup (r : Registry σ η) (name : String) : Lookup :=
  match r.live[name]? with
  | some place => .live place
  | none =>
    match r.configs[name]? with
    | some config => .unconnected config
    | none => .unconfigured

/-- The place of the connection of a name, once a driver has been reached with
the configuration or could not be. -/
def settle (r : Registry σ η) (name : String) (config : Config) :
    Except Error σ → Except Error Nat × Registry σ η
  | .error e => (.error e, r)
  | .ok driver =>
    match r.live[name]? with
    | some place => (.ok place, r)
    | none =>
      (.ok r.pool.size,
        { r with
          live := r.live.insert name r.pool.size
          pool := r.pool.push (.ofDriver driver config) })

/-- The place of the connection of a name.  `reach` is asked for a driver only
where there is no live connection, and may itself use the registry. -/
def acquire (r : Registry σ η) (name : String)
    (reach : Config → Registry σ η → Except Error σ × Registry σ η) :
    Except Error Nat × Registry σ η :=
  match r.lookup name with
  | .live place => (.ok place, r)
  | .unconfigured => (.error (.connection (.unconfigured name)), r)
  | .unconnected config =>
    let (driver, r) := reach config r
    r.settle name config driver

def query (d : Driver σ η) (r : Registry σ η) (place : Nat) (sql : String)
    (arguments : Arguments) : Option (Except Error Outcome × Nat) × Registry σ η :=
  match r.pool[place]? with
  | none => (none, r)
  | some connection =>
    let (outcome, connection) := connection.query d sql arguments
    (some (outcome, connection.cachedStatements),
      { r with pool := r.pool.setIfInBounds place connection })

end Registry

end TableGateway
