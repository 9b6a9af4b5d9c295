import TableGateway.Registry

/-!
# Registries shared by several tasks

Each event happens at once.  A call for a connection is two events, which other events may come
between: it asks, and where a driver has to be reached it settles later with what was reached.
Between the two it holds the configuration that it saw when it asked.
-/

namespace TableGateway.Registry

inductive Event (σ : Type) where
  | configure (name : String) (config : Config)
  | reset (name : String)
  | resetAll
  | ask (call : Nat) (name : String)
  | settle (call : Nat) (driver : Except Error σ)

structure Pending where
  call : Nat
  name : String
  config : Config
  deriving DecidableEq, Repr

structure Shared (σ η : Type) where
  registry : Registry σ η
  pending : List Pending

structure Return where
  call : Nat
  name : String
  result : Except Error Nat

namespace Shared

variable {σ η : Type}

def empty : Shared σ η :=
  ⟨.empty, []⟩

def act (s : Shared σ η) : Event σ → Option Return × Shared σ η
  | .configure name config => (none, { s with registry := s.registry.configure name config })
  | .reset name => (none, { s with registry := (s.registry.reset name).2 })
  | .resetAll => (none, { s with registry := s.registry.resetAll })
  | .ask call name =>
    match s.registry.lookup name with
    | .live place => (some ⟨call, name, .ok place⟩, s)
    | .unconfigured => (some ⟨call, name, .error (.connection (.unconfigured name))⟩, s)
    | .unconnected config => (none, { s with pending := ⟨call, name, config⟩ :: s.pending })
  | .settle call driver =>
    match s.pending.find? (·.call == call) with
    | none => (none, s)
    | some p =>
      let (result, registry) := s.registry.settle p.name p.config driver
      (some ⟨call, p.name, result⟩, ⟨registry, s.pending.erase p⟩)

def run (s : Shared σ η) : List (Event σ) → List Return × Shared σ η
  | [] => ([], s)
  | event :: events =>
    let (ended, s) := s.act event
    let (returns, s) := run s events
    (ended.toList ++ returns, s)

end Shared

end TableGateway.Registry
