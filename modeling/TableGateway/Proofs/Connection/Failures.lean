import TableGateway.Proofs.Connection.Course

/-!
# The last failure

The last failure that a connection knows of is told from what was answered so far: it is that
of the latest operation whose statement could be built, if this one failed.  An operation
whose statement cannot be built might as well not have been asked for.
-/

namespace TableGateway

namespace Operation

def reaches (op : Operation) : Bool :=
  match op.asks with
  | some (.ok _) => true
  | some (.error _) => false
  | none => false

def rejected (op : Operation) : Bool :=
  match op.asks with
  | some (.ok _) => false
  | some (.error _) => true
  | none => false

end Operation

def failure? : Except Error Answer → Option String
  | .ok _ => none
  | .error e => some e.message

def lastFailure? (history : List (Operation × Except Error Answer)) : Option String :=
  (history.filter (·.1.reaches)).getLast?.bind (failure? ·.2)

namespace Connection

variable {σ η : Type} {d : Driver σ η} {c : Connection σ η} {op : Operation} {sql : String}
  {arguments : Arguments}

/-! ## One operation -/

theorem prepare_lastError (d : Driver σ η) (c : Connection σ η) (sql : String) :
    (c.prepare d sql).2.lastError = c.lastError := by
  unfold prepare
  split
  · rfl
  · split <;> rfl

theorem query_cases (d : Driver σ η) (c : Connection σ η) (sql : String) (arguments : Arguments) :
    (∃ o, (c.query d sql arguments).1 = .ok o ∧
      (c.query d sql arguments).2.lastError = none) ∨
    (∃ cause, (c.query d sql arguments).1 = .error (.execution cause) ∧
      (c.query d sql arguments).2.lastError = some (Error.execution cause).message) := by
  have hkeeps := prepare_lastError d { c with lastError := none } (Text.trimmed sql)
  rcases hprepare : prepare d { c with lastError := none } (Text.trimmed sql) with
    ⟨fault | handle, k⟩
  · rw [query_of_refused hprepare]
    exact .inr ⟨fault, rfl, congrArg some (Error.message_execution fault).symm⟩
  · rcases hexecute : d.execute k.driver handle arguments (Verb.classify (Text.trimmed sql)) with
      ⟨fault | output, next⟩
    · rw [query_of_failed hprepare hexecute]
      exact .inr ⟨fault, rfl, congrArg some (Error.message_execution fault).symm⟩
    · rw [hprepare] at hkeeps
      rw [query_of_executed hprepare hexecute]
      exact .inl ⟨_, rfl, hkeeps⟩

/-- An operation that comes to an execution succeeds and forgets the last failure, or it fails
on the side of the driver and is the last failure itself. -/
theorem perform_cases (h : op.asks = some (.ok (sql, arguments))) :
    (∃ answer, (c.perform d op).1 = .ok answer ∧ (c.perform d op).2.lastError = none) ∨
    (∃ cause, (c.perform d op).1 = .error (.execution cause) ∧
      (c.perform d op).2.lastError = some (Error.execution cause).message) := by
  rw [perform_of_asks h]
  obtain ⟨o, hanswer, hforgets⟩ | ⟨cause, hanswer, hkeeps⟩ := query_cases d c sql arguments
  · exact .inl ⟨op.answer o, by rw [hanswer]; rfl, hforgets⟩
  · exact .inr ⟨cause, by rw [hanswer]; rfl, hkeeps⟩

theorem lastError_of_reaches (h : op.reaches) :
    (c.perform d op).2.lastError = failure? (c.perform d op).1 := by
  unfold Operation.reaches at h
  split at h
  case h_1 asked hasks =>
    obtain ⟨answer, hanswer, hlast⟩ | ⟨cause, hanswer, hlast⟩ :=
      perform_cases (d := d) (c := c) hasks
    all_goals
      rw [hanswer, hlast]
      rfl
  all_goals contradiction

theorem lastError_of_not_reaches (h : op.reaches = false) :
    (c.perform d op).2.lastError = c.lastError := by
  unfold Operation.reaches at h
  split at h
  case h_1 => contradiction
  case h_2 e hasks => rw [perform_of_rejected hasks]
  case h_3 hasks => rw [perform_of_quiet hasks]

theorem perform_snd_of_rejected (h : op.rejected) : (c.perform d op).2 = c := by
  unfold Operation.rejected at h
  split at h
  case h_2 e hasks => rw [perform_of_rejected hasks]
  all_goals contradiction

/-! ## Lists of operations -/

theorem lastError_run (d : Driver σ η) (c : Connection σ η) (ops : List Operation) :
    (c.run d ops).2.lastError =
      (((ops.zip (c.run d ops).1).filter (·.1.reaches)).getLast?).elim c.lastError
        (failure? ·.2) := by
  induction ops generalizing c with
  | nil => rfl
  | cons op ops ih =>
      simp only [run_cons, List.zip_cons_cons, ih]
      cases hreaches : op.reaches with
      | false =>
          rw [List.filter_cons_of_neg (by simp [hreaches]), lastError_of_not_reaches hreaches]
      | true =>
          rw [List.filter_cons_of_pos (by simp [hreaches]), List.getLast?_cons,
            lastError_of_reaches hreaches]
          -- The first operation only counts if none behind it comes to an execution.
          cases List.getLast? _ <;> rfl

theorem observed_filter {β : Type} (see : Connection σ η → β) (d : Driver σ η)
    (c : Connection σ η) (ops : List Operation) :
    (ops.filter (!·.rejected)).zip (observed see d c (ops.filter (!·.rejected))) =
      (ops.zip (observed see d c ops)).filter (!·.1.rejected) := by
  induction ops generalizing c with
  | nil => rfl
  | cons op ops ih =>
      cases hrejected : op.rejected with
      | true =>
          rw [List.filter_cons_of_neg (by simp [hrejected]), ih, observed, List.zip_cons_cons,
            List.filter_cons_of_neg (by simp [hrejected]), perform_snd_of_rejected hrejected]
      | false =>
          rw [List.filter_cons_of_pos (by simp [hrejected]), observed, List.zip_cons_cons, ih,
            observed, List.zip_cons_cons, List.filter_cons_of_pos (by simp [hrejected])]

theorem run_filter (d : Driver σ η) (c : Connection σ η) (ops : List Operation) :
    (c.run d (ops.filter (!·.rejected))).2 = (c.run d ops).2 := by
  induction ops generalizing c with
  | nil => rfl
  | cons op ops ih =>
      cases hrejected : op.rejected with
      | true =>
          rw [List.filter_cons_of_neg (by simp [hrejected]), ih, run_cons,
            perform_snd_of_rejected hrejected]
      | false =>
          rw [List.filter_cons_of_pos (by simp [hrejected]), run_cons, run_cons, ih]

/-- The last failure is that of the latest execution.  Operations that cannot build their
statements leave no trace, so the others come out the same without them, whatever is seen of
the connection; operations on keys and handles do not touch the driver or the last failure. -/
theorem failures_of_run (d : Driver σ η) (start : σ) (config : Config) (ops : List Operation) :
    ((ofDriver start config).run d ops).2.lastError =
      lastFailure? (ops.zip ((ofDriver start config).run d ops).1) ∧
    (∀ (c : Connection σ η) op asked, op.asks = some (.ok asked) →
      ∀ e, (c.perform d op).1 = .error e → ∃ cause, e = .execution cause) ∧
    (∀ (c : Connection σ η) op e, op.asks = some (.error e) →
      c.perform d op = (.error e, c) ∧ c.callsOf d op = []) ∧
    (∀ (c : Connection σ η) op, op.asks = none →
      (c.perform d op).2.lastError = c.lastError ∧ (c.perform d op).2.driver = c.driver ∧
      c.callsOf d op = []) ∧
    (∀ (β : Type) (see : Connection σ η → β),
      (ops.filter (!·.rejected)).zip
          (observed see d (ofDriver start config) (ops.filter (!·.rejected))) =
        (ops.zip (observed see d (ofDriver start config) ops)).filter (!·.1.rejected)) ∧
    ((ofDriver start config).run d (ops.filter (!·.rejected))).2 =
      ((ofDriver start config).run d ops).2 := by
  refine ⟨?_, fun c op asked hasks e herror => ?_, fun c op e hasks => ?_, fun c op hasks => ?_,
    fun β see => observed_filter see d _ ops, run_filter d _ ops⟩
  · rw [lastError_run, lastFailure?, ofDriver]
    cases List.getLast? _ <;> rfl
  · obtain ⟨answer, hanswer, -⟩ | ⟨cause, hanswer, -⟩ := perform_cases (d := d) (c := c) hasks
    · rw [hanswer] at herror
      cases herror
    · rw [hanswer] at herror
      cases herror
      exact ⟨cause, rfl⟩
  · exact ⟨perform_of_rejected hasks, callsOf_of_rejected hasks⟩
  · exact ⟨by rw [perform_of_quiet hasks], by rw [perform_of_quiet hasks],
      callsOf_of_quiet hasks⟩

end Connection

end TableGateway
