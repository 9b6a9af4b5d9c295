import TableGateway.Registry

/-!
# Sessions on a registry

While a connection is being made, other steps may come in between.  Such steps are nested in the
step that asks for the connection: they run after its driver was asked for and before the answer
is settled.
-/

namespace TableGateway.Registry

inductive Step where
  | configure (name : String) (config : Config)
  | config (name : String)
  | isConnected (name : String)
  | reset (name : String)
  | resetAll
  /-- Asks for a connection.  Reaching the driver runs the steps in `meanwhile`, if
  any are to come in between, and then fails with a text, if one is given. -/
  | acquire (name : String) (refusal : Option String) (meanwhile : Option (List Step))
  | query (place : Nat) (sql : String)

inductive Reply where
  | done
  | config (config : Option Config)
  | flag (b : Bool)
  | acquired (result : Except Error (Nat × Option Config))
  /-- The outcome of a statement and the number of handles kept; none where the
  place is empty. -/
  | outcome (result : Option (Except Error Outcome × Nat))

/-- The reply to a step, the reports of the steps that were to come in between if
they did, and what is to be seen afterwards: the configured and the connected
names, and how often a driver has been asked for. -/
inductive Report where
  | mk (reply : Reply) (meanwhile : Option (List Report)) (names connected : List String)
      (reached : Nat)

structure Session (σ η : Type) where
  registry : Registry σ η
  reached : Nat

namespace Session

variable {σ η : Type}

def empty : Session σ η :=
  ⟨.empty, 0⟩

def report (s : Session σ η) (reply : Reply) (meanwhile : Option (List Report)) :
    Report × Session σ η :=
  (.mk reply meanwhile s.registry.names s.registry.connectedNames s.reached, s)

def acquired (s : Session σ η) (place : Nat) : Nat × Option Config :=
  (place, s.registry.pool[place]?.map (·.config))

mutual

/-- One step, where `fresh` is the state of a driver that has just been reached. -/
def step (d : Driver σ η) (fresh : σ) (s : Session σ η) : Step → Report × Session σ η
  | .configure name config =>
    { s with registry := s.registry.configure name config }.report .done none
  | .config name => s.report (.config (s.registry.config? name)) none
  | .isConnected name => s.report (.flag (s.registry.isConnected name)) none
  | .reset name =>
    let (removed, registry) := s.registry.reset name
    { s with registry := registry }.report (.flag removed) none
  | .resetAll => { s with registry := s.registry.resetAll }.report .done none
  | .acquire name refusal meanwhile =>
    match s.registry.lookup name with
    | .live place => s.report (.acquired (.ok (s.acquired place))) none
    | .unconfigured => s.report (.acquired (.error (.connection (.unconfigured name)))) none
    | .unconnected config =>
      let (reports, s) := between d fresh { s with reached := s.reached + 1 } meanwhile
      let driver := match refusal with
        | some text => .error (.connection (.described text))
        | none => .ok fresh
      let (result, registry) := s.registry.settle name config driver
      let s := { s with registry := registry }
      s.report (.acquired (result.map s.acquired)) reports
  | .query place sql =>
    let (result, registry) := s.registry.query d place sql .none
    { s with registry := registry }.report (.outcome result) none

def steps (d : Driver σ η) (fresh : σ) (s : Session σ η) : List Step → List Report × Session σ η
  | [] => ([], s)
  | first :: rest =>
    let (report, s) := step d fresh s first
    let (reports, s) := steps d fresh s rest
    (report :: reports, s)

def between (d : Driver σ η) (fresh : σ) (s : Session σ η) :
    Option (List Step) → Option (List Report) × Session σ η
  | none => (none, s)
  | some meanwhile =>
    let (reports, s) := steps d fresh s meanwhile
    (some reports, s)

end

end Session

end TableGateway.Registry
