import TableGateway.Error
import TableGateway.Verb

/-!
# Drivers

What a connection needs of the thing that reaches the engine.  A driver prepares SQL into a
handle, executes a handle with arguments, and knows the last identity that was generated.  Its
state `σ` is passed through every call, failed calls included.
-/

namespace TableGateway

structure Driver (σ η : Type) where
  prepare : σ → String → Except DriverError η × σ
  execute : σ → η → Arguments → Verb → Except DriverError Output × σ
  lastInsertId : σ → UInt64

inductive Call (η : Type) where
  | prepare (sql : String) (result : Except DriverError η)
  | execute (handle : η) (arguments : Arguments) (verb : Verb)
      (result : Except DriverError Output)

/-- The driver that keeps a list of its calls, oldest first. -/
def Driver.traced {σ η : Type} (d : Driver σ η) : Driver (σ × List (Call η)) η where
  prepare s sql :=
    let (result, next) := d.prepare s.1 sql
    (result, next, s.2 ++ [.prepare sql result])
  execute s handle arguments verb :=
    let (result, next) := d.execute s.1 handle arguments verb
    (result, next, s.2 ++ [.execute handle arguments verb result])
  lastInsertId s := d.lastInsertId s.1

end TableGateway
