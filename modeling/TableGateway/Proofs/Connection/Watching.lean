import TableGateway.Proofs.Connection.Simulation

/-!
# Watching a driver

A watched driver labels its handles with the texts they were prepared from and lists its
calls, so that the texts it executes can be read off.  Nobody can tell that a driver is
watched.
-/

namespace TableGateway

variable {σ η : Type}

structure Execution where
  sql : String
  arguments : Arguments
  verb : Verb

def Call.execution? : Call (η × String) → Option Execution
  | .prepare _ _ => none
  | .execute handle arguments verb _ => some ⟨handle.2, arguments, verb⟩

/-- What was executed in a list of calls, failures included. -/
def executions (calls : List (Call (η × String))) : List Execution :=
  calls.filterMap Call.execution?

@[simp] theorem executions_nil : executions ([] : List (Call (η × String))) = [] := rfl

@[simp] theorem executions_append (calls more : List (Call (η × String))) :
    executions (calls ++ more) = executions calls ++ executions more :=
  List.filterMap_append

@[simp] theorem executions_prepare (sql : String) (result : Except DriverError (η × String)) :
    executions [.prepare sql result] = [] := rfl

@[simp] theorem executions_execute (handle : η × String) (arguments : Arguments) (verb : Verb)
    (result : Except DriverError Output) :
    executions [.execute handle arguments verb result] = [⟨handle.2, arguments, verb⟩] := rfl

namespace Driver

/-- The driver whose handles carry the texts that they were prepared from. -/
def labelled (d : Driver σ η) : Driver σ (η × String) where
  prepare s sql := ((d.prepare s sql).1.map fun handle => (handle, sql), (d.prepare s sql).2)
  execute s handle := d.execute s handle.1
  lastInsertId := d.lastInsertId

def watched (d : Driver σ η) : Driver (σ × List (Call (η × String))) (η × String) :=
  d.labelled.traced

theorem watched_prepare_of_error {d : Driver σ η} {t : σ × List (Call (η × String))}
    {sql : String} {fault : DriverError} (h : (d.prepare t.1 sql).1 = .error fault) :
    d.watched.prepare t sql =
      (.error fault, (d.prepare t.1 sql).2, t.2 ++ [.prepare sql (.error fault)]) := by
  simp [watched, traced, labelled, h, Except.map]

theorem watched_prepare_of_ok {d : Driver σ η} {t : σ × List (Call (η × String))}
    {sql : String} {handle : η} (h : (d.prepare t.1 sql).1 = .ok handle) :
    d.watched.prepare t sql = (.ok (handle, sql), (d.prepare t.1 sql).2,
      t.2 ++ [.prepare sql (.ok (handle, sql))]) := by
  simp [watched, traced, labelled, h, Except.map]

theorem watched_execute (d : Driver σ η) (t : σ × List (Call (η × String)))
    (handle : η × String) (arguments : Arguments) (verb : Verb) :
    d.watched.execute t handle arguments verb =
      ((d.execute t.1 handle.1 arguments verb).1, (d.execute t.1 handle.1 arguments verb).2,
        t.2 ++ [.execute handle arguments verb (d.execute t.1 handle.1 arguments verb).1]) :=
  rfl

end Driver

namespace Connection

theorem prepare_of_kept {d : Driver σ η} {c : Connection σ η} {sql : String} {handle : η}
    (h : (if c.config.cacheStatements then c.statements.get? sql else none) = some handle) :
    c.prepare d sql = (.ok handle, c) := by
  rw [prepare, h]

theorem prepare_of_error {d : Driver σ η} {c : Connection σ η} {sql : String}
    {fault : DriverError} {next : σ}
    (h : (if c.config.cacheStatements then c.statements.get? sql else none) = none)
    (hprepare : d.prepare c.driver sql = (.error fault, next)) :
    c.prepare d sql = (.error fault, { c with driver := next }) := by
  simp only [prepare, h, hprepare]

theorem prepare_of_ok {d : Driver σ η} {c : Connection σ η} {sql : String} {handle : η} {next : σ}
    (h : (if c.config.cacheStatements then c.statements.get? sql else none) = none)
    (hprepare : d.prepare c.driver sql = (.ok handle, next)) :
    c.prepare d sql = (.ok handle, { c with
      driver := next
      statements :=
        if c.config.cacheStatements then c.statements.insert sql handle else c.statements }) := by
  simp only [prepare, h, hprepare]

/-- A watched driver beside the driver itself, in one state and with one handle kept for
each text. -/
structure Watching (t : σ × List (Call (η × String))) (m : StatementCache (η × String)) (s : σ)
    (m' : StatementCache η) : Prop where
  state : t.1 = s
  kept : ∀ sql, m'.get? sql = (m.get? sql).map (·.1)

theorem Watching.insert {t : σ × List (Call (η × String))} {m : StatementCache (η × String)}
    {s : σ} {m' : StatementCache η} (h : Watching t m s m') (sql : String) (handle : η) :
    Watching t (m.insert sql (handle, sql)) s (m'.insert sql handle) where
  state := h.state
  kept sql' := by
    rw [StatementCache.get?_insert, StatementCache.get?_insert, h.kept]
    split <;> rfl

theorem prepare_watching {d : Driver σ η} {keeps : Bool}
    {c : Connection (σ × List (Call (η × String))) (η × String)} {c' : Connection σ η}
    (h : Paired Watching keeps keeps c c') (sql : String) :
    Alike (Paired Watching keeps keeps) (fun _ handle _ handle' => handle.1 = handle')
      (c.prepare d.watched sql) (c'.prepare d sql) := by
  have hfound : (if c'.config.cacheStatements then c'.statements.get? sql else none) =
      (if c.config.cacheStatements then c.statements.get? sql else none).map (·.1) := by
    rw [h.keeps, h.keeps', h.kept.kept]
    cases keeps <;> rfl
  cases hkept : if c.config.cacheStatements then c.statements.get? sql else none with
  | some handle =>
      rw [hkept] at hfound
      rw [prepare_of_kept hkept, prepare_of_kept hfound]
      exact .prepared h rfl
  | none =>
      rw [hkept] at hfound
      cases hresult : d.prepare c'.driver sql with
      | mk result next =>
        have hnext : d.prepare c.driver.1 sql = (result, next) := by rw [h.kept.state, hresult]
        have hwatching : Watching (next, c.driver.2 ++ [.prepare sql (result.map (·, sql))])
            c.statements next c'.statements := ⟨rfl, h.kept.kept⟩
        cases result with
        | error fault =>
            have hrefused := Driver.watched_prepare_of_error (congrArg Prod.fst hnext)
            rw [hnext] at hrefused
            rw [prepare_of_error hkept hrefused, prepare_of_error hfound hresult]
            exact .refused { h with kept := hwatching }
        | ok handle =>
            have hprepared := Driver.watched_prepare_of_ok (congrArg Prod.fst hnext)
            rw [hnext] at hprepared
            rw [prepare_of_ok hkept hprepared, prepare_of_ok hfound hresult]
            refine .prepared { h with kept := ?_ } rfl
            rw [h.keeps, h.keeps']
            cases keeps with
            | false => exact hwatching
            | true => exact hwatching.insert sql handle

def watching (d : Driver σ η) (keeps : Bool) :
    Simulation d.watched d keeps keeps fun _ => True where
  Kept := Watching
  Handed _ _ handle _ handle' := handle.1 = handle'
  prepare h _ := prepare_watching h _
  execute := by
    rintro t m s m' sql handle handle' ⟨rfl, hkept⟩ rfl arguments verb
    exact ⟨rfl, rfl, rfl, hkept⟩
  clear h := { h with kept := by simp }

theorem observed_watched (d : Driver σ η) (start : σ) (config : Config) (ops : List Operation) :
    observed (·.lastError) d.watched (ofDriver (start, []) config) ops =
      observed (·.lastError) d (ofDriver start config) ops := by
  apply (watching d config.cacheStatements).observed (fun h => h.lastError) (by simp)
  exact ⟨rfl, rfl, rfl, rfl, rfl, rfl, ⟨rfl, by simp [ofDriver]⟩⟩

end Connection

end TableGateway
