import TableGateway.Proofs.Connection.Watching

/-!
# What an operation comes to

An operation asks for a statement to be executed, or fails to build one, or has nothing to
do with statements.  Which of the three it is depends on the operation alone.  A statement
is executed with the handle that is held for its text, or else with a new one, and the
calls to the driver are listed for each operation.
-/

namespace TableGateway

/-! ## The three courses -/

def Statement.asked (statement : Statement) : String × Arguments :=
  (statement.sql, .named statement.bindings)

namespace Operation

/-- The SQL and the arguments that an operation asks for, or why it has none to ask for.
Operations on keys and handles ask for nothing. -/
def asks : Operation → Option (Except Error (String × Arguments))
  | .query sql arguments => some (.ok (sql, arguments))
  | .execute statement => some (.ok statement.asked)
  | .select table condition order limit offset =>
    some ((Statement.select table condition order limit offset).map Statement.asked)
  | .insert table values mode => some ((Statement.insert table values mode).map Statement.asked)
  | .update table values condition limit =>
    some ((Statement.update table values condition limit).map Statement.asked)
  | .delete table condition limit =>
    some ((Statement.delete table condition limit).map Statement.asked)
  | .encrypt _ => none
  | .decrypt _ => none
  | .clearStatements => none

def answer : Operation → Outcome → Answer
  | .select .. => fun o => .rows o.toRows
  | .insert .. => fun o => .count (o.insertId?.getD 0)
  | .update .. => fun o => .count (o.affected?.getD 0)
  | .delete .. => fun o => .count (o.affected?.getD 0)
  | _ => .outcome

def clears : Operation → Bool
  | .clearStatements => true
  | _ => false

variable {op : Operation} {sql : String} {arguments : Arguments}

theorem textOfBuilt_of_asked {built : Except Error Statement}
    (h : built.map Statement.asked = .ok (sql, arguments)) :
    textOfBuilt built = some (Text.trimmed sql) := by
  cases built with
  | error e => contradiction
  | ok statement =>
      cases h
      rfl

theorem text?_of_asks (h : op.asks = some (.ok (sql, arguments))) :
    op.text? = some (Text.trimmed sql) := by
  cases op with
  | query sql arguments => cases h; rfl
  | execute statement => cases h; rfl
  | select => exact textOfBuilt_of_asked (Option.some.inj h)
  | insert => exact textOfBuilt_of_asked (Option.some.inj h)
  | update => exact textOfBuilt_of_asked (Option.some.inj h)
  | delete => exact textOfBuilt_of_asked (Option.some.inj h)
  | encrypt => contradiction
  | decrypt => contradiction
  | clearStatements => contradiction

end Operation

namespace Connection

variable {σ η : Type} {d : Driver σ η} {c : Connection σ η} {op : Operation} {sql : String}
  {arguments : Arguments}

section Built

variable {built : Except Error Statement} {α β : Type}

theorem executeBuilt_of_asked (h : built.map Statement.asked = .ok (sql, arguments))
    (read : Outcome → α) (f : α → β) :
    ((c.executeBuilt d built read).1.map f, (c.executeBuilt d built read).2) =
      ((c.query d sql arguments).1.map (f ∘ read), (c.query d sql arguments).2) := by
  cases built with
  | error e => contradiction
  | ok statement =>
      cases h
      rw [executeBuilt, execute]
      generalize c.query d statement.sql (.named statement.bindings) = asked
      obtain ⟨result, k⟩ := asked
      cases result <;> rfl

theorem executeBuilt_of_rejected {e : Error} (h : built.map Statement.asked = .error e)
    (read : Outcome → α) (f : α → β) :
    ((c.executeBuilt d built read).1.map f, (c.executeBuilt d built read).2) = (.error e, c) := by
  cases built with
  | error e' =>
      cases h
      rfl
  | ok statement => contradiction

end Built

theorem perform_of_asks (h : op.asks = some (.ok (sql, arguments))) :
    c.perform d op =
      ((c.query d sql arguments).1.map op.answer, (c.query d sql arguments).2) := by
  cases op with
  | query sql arguments => cases h; rfl
  | execute statement => cases h; rfl
  | select => exact executeBuilt_of_asked (Option.some.inj h) _ _
  | insert => exact executeBuilt_of_asked (Option.some.inj h) _ _
  | update => exact executeBuilt_of_asked (Option.some.inj h) _ _
  | delete => exact executeBuilt_of_asked (Option.some.inj h) _ _
  | encrypt => contradiction
  | decrypt => contradiction
  | clearStatements => contradiction

theorem perform_of_rejected {e : Error} (h : op.asks = some (.error e)) :
    c.perform d op = (.error e, c) := by
  cases op with
  | query => cases h
  | execute => cases h
  | select => exact executeBuilt_of_rejected (Option.some.inj h) _ _
  | insert => exact executeBuilt_of_rejected (Option.some.inj h) _ _
  | update => exact executeBuilt_of_rejected (Option.some.inj h) _ _
  | delete => exact executeBuilt_of_rejected (Option.some.inj h) _ _
  | encrypt => contradiction
  | decrypt => contradiction
  | clearStatements => contradiction

theorem useCipher_snd (c : Connection σ η) :
    c.useCipher.2 = { c with cipher := c.useCipher.2.cipher } := by
  unfold useCipher
  split <;> rfl

theorem perform_of_quiet (h : op.asks = none) :
    (c.perform d op).2 =
      { c with
        statements := if op.clears then .empty else c.statements
        cipher := (c.perform d op).2.cipher } := by
  cases op with
  | query => contradiction
  | execute => contradiction
  | select => contradiction
  | insert => contradiction
  | update => contradiction
  | delete => contradiction
  | encrypt => exact useCipher_snd c
  | decrypt => exact useCipher_snd c
  | clearStatements => rfl

/-! ## Calls -/

def traced (c : Connection σ η) (calls : List (Call η)) : Connection (σ × List (Call η)) η :=
  ⟨(c.driver, calls), c.config, c.statements, c.cipher, c.lastError⟩

def callsOf (d : Driver σ η) (c : Connection σ η) (op : Operation) : List (Call η) :=
  ((c.traced []).perform d.traced op).2.driver.2

theorem useCipher_traced (c : Connection σ η) (calls : List (Call η)) :
    (c.traced calls).useCipher = (c.useCipher.1, c.useCipher.2.traced calls) := by
  obtain ⟨driver, config, statements, cipher, lastError⟩ := c
  simp only [useCipher, traced]
  split <;> rfl

theorem perform_traced_of_quiet (h : op.asks = none) (calls : List (Call η)) :
    (c.traced calls).perform d.traced op =
      ((c.perform d op).1, (c.perform d op).2.traced calls) := by
  cases op with
  | query => contradiction
  | execute => contradiction
  | select => contradiction
  | insert => contradiction
  | update => contradiction
  | delete => contradiction
  | encrypt => rw [perform, encrypt, useCipher_traced]; rfl
  | decrypt => rw [perform, decrypt, useCipher_traced]; rfl
  | clearStatements => rfl

def held? (c : Connection σ η) (sql : String) : Option η :=
  if c.config.cacheStatements then c.statements.get? sql else none

/-- What a query does besides its answer: the calls that it makes, and the handles that are
kept behind it. -/
structure Leads (d : Driver σ η) (c : Connection σ η) (sql : String) (arguments : Arguments)
    (calls : List (Call η)) (statements : StatementCache η) : Prop where
  traced : ∀ before, (c.traced before).query d.traced sql arguments =
    ((c.query d sql arguments).1, (c.query d sql arguments).2.traced (before ++ calls))
  config : (c.query d sql arguments).2.config = c.config
  statements : (c.query d sql arguments).2.statements = statements

section Leads

variable {k : Connection σ η} {calls : List (Call η)} (arguments)

theorem leads_of_refused {fault : DriverError}
    (hprepare : prepare d { c with lastError := none } (Text.trimmed sql) = (.error fault, k))
    (htraced : ∀ before,
      prepare d.traced { c.traced before with lastError := none } (Text.trimmed sql) =
        (.error fault, k.traced (before ++ calls)))
    (hconfig : k.config = c.config) : Leads d c sql arguments calls k.statements where
  traced before := by
    rw [query_of_refused (htraced before), query_of_refused hprepare]
    rfl
  config := by rw [query_of_refused hprepare, hconfig]
  statements := by rw [query_of_refused hprepare]

theorem leads_of_prepared {handle : η}
    (hprepare : prepare d { c with lastError := none } (Text.trimmed sql) = (.ok handle, k))
    (htraced : ∀ before,
      prepare d.traced { c.traced before with lastError := none } (Text.trimmed sql) =
        (.ok handle, k.traced (before ++ calls)))
    (hconfig : k.config = c.config) :
    ∃ result, Leads d c sql arguments
      (calls ++ [.execute handle arguments (Verb.classify (Text.trimmed sql)) result])
      k.statements := by
  cases hexecute : d.execute k.driver handle arguments (Verb.classify (Text.trimmed sql)) with
  | mk result next =>
      have hexecuted : ∀ before, d.traced.execute (k.traced before).driver handle arguments
          (Verb.classify (Text.trimmed sql)) = (result, next,
            before ++ [.execute handle arguments (Verb.classify (Text.trimmed sql)) result]) := by
        intro before
        simp only [Driver.traced, Connection.traced, hexecute]
      refine ⟨result, ?_⟩
      cases result with
      | error fault =>
          refine ⟨fun before => ?_, ?_, ?_⟩
          · rw [query_of_failed (htraced before) (hexecuted _), query_of_failed hprepare hexecute,
              List.append_assoc]
            rfl
          · rw [query_of_failed hprepare hexecute, hconfig]
          · rw [query_of_failed hprepare hexecute]
      | ok output =>
          refine ⟨fun before => ?_, ?_, ?_⟩
          · rw [query_of_executed (htraced before) (hexecuted _),
              query_of_executed hprepare hexecute, List.append_assoc]
            rfl
          · rw [query_of_executed hprepare hexecute, hconfig]
          · rw [query_of_executed hprepare hexecute]

/-- A query uses the handle that is held for its text.  Where none is held it prepares once,
and executes nothing if that is refused. -/
theorem leads_cases (d : Driver σ η) (c : Connection σ η) (sql : String)
    (arguments : Arguments) :
    (∃ handle result, c.held? (Text.trimmed sql) = some handle ∧
      Leads d c sql arguments
        [.execute handle arguments (Verb.classify (Text.trimmed sql)) result] c.statements) ∨
    (c.held? (Text.trimmed sql) = none ∧ ∃ fault,
      Leads d c sql arguments [.prepare (Text.trimmed sql) (.error fault)] c.statements) ∨
    (c.held? (Text.trimmed sql) = none ∧ ∃ handle result,
      Leads d c sql arguments
        [.prepare (Text.trimmed sql) (.ok handle),
          .execute handle arguments (Verb.classify (Text.trimmed sql)) result]
        (if c.config.cacheStatements then c.statements.insert (Text.trimmed sql) handle
          else c.statements)) := by
  cases hheld : c.held? (Text.trimmed sql) with
  | some handle =>
      have hkept := prepare_of_kept (d := d) (c := { c with lastError := none }) hheld
      have htraced : ∀ before,
          prepare d.traced { c.traced before with lastError := none } (Text.trimmed sql) =
            (.ok handle, traced { c with lastError := none } (before ++ [])) := by
        intro before
        rw [List.append_nil]
        exact prepare_of_kept (c := { c.traced before with lastError := none }) hheld
      obtain ⟨result, hleads⟩ := leads_of_prepared arguments hkept htraced rfl
      exact .inl ⟨handle, result, rfl, hleads⟩
  | none =>
      cases hprepare : d.prepare c.driver (Text.trimmed sql) with
      | mk result next =>
          have hprepared : ∀ before, d.traced.prepare (c.traced before).driver (Text.trimmed sql) =
              (result, next, before ++ [.prepare (Text.trimmed sql) result]) := by
            intro before
            simp only [Driver.traced, Connection.traced, hprepare]
          cases result with
          | error fault =>
              have hrefused :=
                prepare_of_error (c := { c with lastError := none }) hheld hprepare
              have hleads := leads_of_refused arguments hrefused
                (fun before => prepare_of_error (c := { c.traced before with lastError := none })
                  hheld (hprepared before)) rfl
              exact .inr (.inl ⟨rfl, fault, hleads⟩)
          | ok handle =>
              have hok := prepare_of_ok (c := { c with lastError := none }) hheld hprepare
              obtain ⟨result, hleads⟩ := leads_of_prepared arguments hok
                (fun before => prepare_of_ok (c := { c.traced before with lastError := none })
                  hheld (hprepared before)) rfl
              exact .inr (.inr ⟨rfl, handle, result, hleads⟩)

end Leads

/-! ## Operations with their calls -/

theorem callsOf_of_rejected {e : Error} (h : op.asks = some (.error e)) :
    c.callsOf d op = [] := by
  rw [callsOf, perform_of_rejected h]
  rfl

theorem callsOf_of_quiet (h : op.asks = none) : c.callsOf d op = [] := by
  rw [callsOf, perform_traced_of_quiet h]
  rfl

theorem perform_traced_of_leads {calls : List (Call η)} {statements : StatementCache η}
    (h : op.asks = some (.ok (sql, arguments)))
    (hleads : Leads d c sql arguments calls statements) (before : List (Call η)) :
    (c.traced before).perform d.traced op =
      ((c.perform d op).1, (c.perform d op).2.traced (before ++ calls)) := by
  rw [perform_of_asks h, perform_of_asks h, hleads.traced]

theorem callsOf_of_leads {calls : List (Call η)} {statements : StatementCache η}
    (h : op.asks = some (.ok (sql, arguments)))
    (hleads : Leads d c sql arguments calls statements) : c.callsOf d op = calls := by
  rw [callsOf, perform_traced_of_leads h hleads]
  rfl

theorem perform_of_leads {calls : List (Call η)} {statements : StatementCache η}
    (h : op.asks = some (.ok (sql, arguments)))
    (hleads : Leads d c sql arguments calls statements) :
    (c.perform d op).2.config = c.config ∧ (c.perform d op).2.statements = statements := by
  rw [perform_of_asks h]
  exact ⟨hleads.config, hleads.statements⟩

theorem exists_leads (d : Driver σ η) (c : Connection σ η) (sql : String)
    (arguments : Arguments) :
    ∃ calls statements, Leads d c sql arguments calls statements := by
  obtain ⟨_, _, _, hleads⟩ | ⟨_, _, hleads⟩ | ⟨_, _, _, hleads⟩ := leads_cases d c sql arguments
  all_goals exact ⟨_, _, hleads⟩

theorem perform_traced (d : Driver σ η) (c : Connection σ η) (op : Operation)
    (before : List (Call η)) :
    (c.traced before).perform d.traced op =
      ((c.perform d op).1, (c.perform d op).2.traced (before ++ c.callsOf d op)) := by
  cases hasks : op.asks with
  | none => rw [perform_traced_of_quiet hasks, callsOf_of_quiet hasks, List.append_nil]
  | some asked =>
      cases asked with
      | error e =>
          rw [perform_of_rejected hasks, perform_of_rejected hasks, callsOf_of_rejected hasks,
            List.append_nil]
      | ok asked =>
          obtain ⟨calls, statements, hleads⟩ := exists_leads d c asked.1 asked.2
          rw [perform_traced_of_leads hasks hleads, callsOf_of_leads hasks hleads]

@[simp] theorem perform_config (d : Driver σ η) (c : Connection σ η) (op : Operation) :
    (c.perform d op).2.config = c.config := by
  cases hasks : op.asks with
  | none => rw [perform_of_quiet hasks]
  | some asked =>
      cases asked with
      | error e => rw [perform_of_rejected hasks]
      | ok asked =>
          obtain ⟨calls, statements, hleads⟩ := exists_leads d c asked.1 asked.2
          exact (perform_of_leads hasks hleads).1

theorem run_cons (d : Driver σ η) (c : Connection σ η) (op : Operation) (ops : List Operation) :
    c.run d (op :: ops) = ((c.perform d op).1 :: ((c.perform d op).2.run d ops).1,
      ((c.perform d op).2.run d ops).2) := rfl

@[simp] theorem run_config (d : Driver σ η) (c : Connection σ η) (ops : List Operation) :
    (c.run d ops).2.config = c.config := by
  induction ops generalizing c with
  | nil => rfl
  | cons op ops ih => simp [run_cons, ih]

end Connection

structure Round (η : Type) where
  op : Operation
  calls : List (Call η)

namespace Connection

variable {σ η : Type}

def rounds (d : Driver σ η) (c : Connection σ η) : List Operation → List (Round η)
  | [] => []
  | op :: ops => ⟨op, c.callsOf d op⟩ :: rounds d (c.perform d op).2 ops

theorem run_traced (d : Driver σ η) (c : Connection σ η) (ops : List Operation)
    (before : List (Call η)) :
    (c.traced before).run d.traced ops =
      ((c.run d ops).1,
        (c.run d ops).2.traced (before ++ (c.rounds d ops).flatMap Round.calls)) := by
  induction ops generalizing c before with
  | nil => simp [run, rounds]
  | cons op ops ih =>
      simp only [run_cons, rounds, perform_traced, ih, List.flatMap_cons, List.append_assoc]

end Connection

end TableGateway
