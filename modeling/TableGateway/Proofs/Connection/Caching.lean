import TableGateway.Proofs.Connection.Watching

/-!
# The statement cache cannot be seen

A connection that keeps its handles and one that prepares every statement afresh give the
same answers over a driver for which only the texts of its handles count, as long as no two
of these texts have one digest.
-/

namespace TableGateway

variable {σ η : Type}

def Call.issued? : Call η → Option η
  | .prepare _ result => result.toOption
  | .execute _ _ _ _ => none

def issued (calls : List (Call η)) : List η :=
  calls.filterMap Call.issued?

section Issued

variable (calls : List (Call η)) (sql : String)

@[simp] theorem issued_nil : issued ([] : List (Call η)) = [] := rfl

@[simp] theorem issued_refused (fault : DriverError) :
    issued (calls ++ [.prepare sql (.error fault)]) = issued calls := by
  simp [issued, Call.issued?, Except.toOption]

@[simp] theorem issued_prepared (handle : η) :
    issued (calls ++ [.prepare sql (.ok handle)]) = issued calls ++ [handle] := by
  simp [issued, Call.issued?, Except.toOption]

@[simp] theorem issued_executed (handle : η) (arguments : Arguments) (verb : Verb)
    (result : Except DriverError Output) :
    issued (calls ++ [.execute handle arguments verb result]) = issued calls := by
  simp [issued, Call.issued?]

end Issued

namespace Driver

variable {d : Driver σ η} {start : σ} {t u : σ × List (Call (η × String))} {sql : String}

/-- What a watched driver can come to as long as it is handed its own handles only. -/
inductive Reached (d : Driver σ η) (start : σ) : σ × List (Call (η × String)) → Prop where
  | start : Reached d start (start, [])
  | prepare {t : σ × List (Call (η × String))} (sql : String) (ht : Reached d start t) :
      Reached d start (d.watched.prepare t sql).2
  | execute {t : σ × List (Call (η × String))} {handle : η × String} (arguments : Arguments)
      (verb : Verb) (ht : Reached d start t) (hissued : handle ∈ issued t.2) :
      Reached d start (d.watched.execute t handle arguments verb).2

/-- Only texts count: whether a text is refused, and how, does not depend on what happened
before, and the reply to an execution depends on the text behind its handle and on earlier
executions, but neither on the handle nor on what was prepared. -/
structure Textual (d : Driver σ η) (start : σ) : Prop where
  refusal : ∀ {t u}, d.Reached start t → d.Reached start u → ∀ sql,
    (d.prepare t.1 sql).1.map (fun _ => ()) = (d.prepare u.1 sql).1.map (fun _ => ())
  reply : ∀ {t u}, d.Reached start t → d.Reached start u → executions t.2 = executions u.2 →
    ∀ {h k sql}, (h, sql) ∈ issued t.2 → (k, sql) ∈ issued u.2 → ∀ arguments verb,
      (d.execute t.1 h arguments verb).1 = (d.execute u.1 k arguments verb).1 ∧
      d.lastInsertId (d.execute t.1 h arguments verb).2 =
        d.lastInsertId (d.execute u.1 k arguments verb).2

theorem Textual.prepare_ok (hd : d.Textual start) (ht : d.Reached start t)
    (hu : d.Reached start u) {handle : η} (h : (d.prepare t.1 sql).1 = .ok handle) :
    ∃ handle', (d.prepare u.1 sql).1 = .ok handle' := by
  have hsame := hd.refusal ht hu sql
  rw [h] at hsame
  cases hprepare : (d.prepare u.1 sql).1 with
  | error fault => simp [hprepare, Except.map] at hsame
  | ok handle' => exact ⟨handle', rfl⟩

theorem Textual.prepare_error (hd : d.Textual start) (ht : d.Reached start t)
    (hu : d.Reached start u) {fault : DriverError} (h : (d.prepare t.1 sql).1 = .error fault) :
    (d.prepare u.1 sql).1 = .error fault := by
  have hsame := hd.refusal ht hu sql
  rw [h] at hsame
  cases hprepare : (d.prepare u.1 sql).1 with
  | error fault' => simpa [hprepare, Except.map, eq_comm] using hsame
  | ok handle => simp [hprepare, Except.map] at hsame

theorem Reached.exists_prepare (ht : d.Reached start t) {handle : η × String}
    (hissued : handle ∈ issued t.2) :
    ∃ u, d.Reached start u ∧ (d.prepare u.1 handle.2).1 = .ok handle.1 := by
  induction ht with
  | start => simp at hissued
  | @prepare t sql ht ih =>
      cases hprepare : (d.prepare t.1 sql).1 with
      | error fault =>
          rw [watched_prepare_of_error hprepare, issued_refused] at hissued
          exact ih hissued
      | ok h =>
          rw [watched_prepare_of_ok hprepare, issued_prepared, List.mem_append,
            List.mem_singleton] at hissued
          rcases hissued with hissued | rfl
          · exact ih hissued
          · exact ⟨t, ht, hprepare⟩
  | execute arguments verb ht hhanded ih =>
      rw [watched_execute, issued_executed] at hissued
      exact ih hissued

end Driver

namespace Connection

open Driver

/-- A driver `t` with the handles `m` kept from it beside a driver `t'` that has executed
the same.  What is kept for a text was prepared from this very text. -/
structure Caching (d : Driver σ η) (start : σ) (texts : String → Prop)
    (t : σ × List (Call (η × String))) (m : StatementCache (η × String))
    (t' : σ × List (Call (η × String))) : Prop where
  reached : d.Reached start t
  reached' : d.Reached start t'
  executions : executions t.2 = executions t'.2
  kept : ∀ sql, texts sql → ∀ handle, m.get? sql = some handle →
    handle.2 = sql ∧ handle ∈ issued t.2

section Caching

variable {d : Driver σ η} {start : σ} {texts : String → Prop}
  {t t' : σ × List (Call (η × String))} {m : StatementCache (η × String)} {sql : String}

theorem Caching.refused (h : Caching d start texts t m t') {fault : DriverError}
    (hprepare : (d.prepare t.1 sql).1 = .error fault)
    (hprepare' : (d.prepare t'.1 sql).1 = .error fault) :
    Caching d start texts (d.watched.prepare t sql).2 m (d.watched.prepare t' sql).2 where
  reached := h.reached.prepare sql
  reached' := h.reached'.prepare sql
  executions := by
    simp [watched_prepare_of_error hprepare, watched_prepare_of_error hprepare', h.executions]
  kept := by
    rw [watched_prepare_of_error hprepare, issued_refused]
    exact h.kept

theorem Caching.hit (h : Caching d start texts t m t') {handle' : η}
    (hprepare' : (d.prepare t'.1 sql).1 = .ok handle') :
    Caching d start texts t m (d.watched.prepare t' sql).2 where
  reached := h.reached
  reached' := h.reached'.prepare sql
  executions := by simp [watched_prepare_of_ok hprepare', h.executions]
  kept := h.kept

theorem Caching.missed (h : Caching d start texts t m t')
    (hsignature : ∀ r s, texts r → texts s → signature r = signature s → r = s)
    (hsql : texts sql) {handle handle' : η} (hprepare : (d.prepare t.1 sql).1 = .ok handle)
    (hprepare' : (d.prepare t'.1 sql).1 = .ok handle') :
    Caching d start texts (d.watched.prepare t sql).2 (m.insert sql (handle, sql))
      (d.watched.prepare t' sql).2 where
  reached := h.reached.prepare sql
  reached' := h.reached'.prepare sql
  executions := by
    simp [watched_prepare_of_ok hprepare, watched_prepare_of_ok hprepare', h.executions]
  kept := by
    intro r hr held hheld
    rw [StatementCache.get?_insert] at hheld
    rw [watched_prepare_of_ok hprepare, issued_prepared, List.mem_append, List.mem_singleton]
    split at hheld
    case isTrue hsame =>
      -- The new handle answers for `r` only if `r` is its text.
      cases hheld
      exact ⟨hsignature _ _ hsql hr hsame, .inr rfl⟩
    case isFalse =>
      obtain ⟨htext, hissued⟩ := h.kept r hr held hheld
      exact ⟨htext, .inl hissued⟩

theorem Caching.executed (h : Caching d start texts t m t') {handle handle' : η × String}
    (hissued : handle ∈ issued t.2) (hissued' : handle' ∈ issued t'.2)
    (htext : handle.2 = handle'.2) (arguments : Arguments) (verb : Verb) :
    Caching d start texts (d.watched.execute t handle arguments verb).2 m
      (d.watched.execute t' handle' arguments verb).2 where
  reached := h.reached.execute arguments verb hissued
  reached' := h.reached'.execute arguments verb hissued'
  executions := by simp [watched_execute, h.executions, htext]
  kept := by
    rw [watched_execute, issued_executed]
    exact h.kept

end Caching

structure BothIssued (sql : String) (t : σ × List (Call (η × String))) (handle : η × String)
    (t' : σ × List (Call (η × String))) (handle' : η × String) : Prop where
  text : handle.2 = sql
  text' : handle'.2 = sql
  mem : handle ∈ issued t.2
  mem' : handle' ∈ issued t'.2

section Connections

variable {d : Driver σ η} {start : σ} {texts : String → Prop}

theorem prepare_caching (hd : d.Textual start)
    (hsignature : ∀ r s, texts r → texts s → signature r = signature s → r = s)
    {c c' : Connection (σ × List (Call (η × String))) (η × String)}
    (h : Paired (fun t m t' _ => Caching d start texts t m t') true false c c') {sql : String}
    (hsql : texts sql) :
    Alike (Paired (fun t m t' _ => Caching d start texts t m t') true false) (BothIssued sql)
      (c.prepare d.watched sql) (c'.prepare d.watched sql) := by
  have hnone : (if c'.config.cacheStatements then c'.statements.get? sql else none) = none := by
    simp [h.keeps']
  have hfound : (if c.config.cacheStatements then c.statements.get? sql else none) =
      c.statements.get? sql := by
    simp [h.keeps]
  cases hget : c.statements.get? sql with
  | some handle =>
      -- The text was accepted when the handle was issued, so it still is.
      obtain ⟨htext, hissued⟩ := h.kept.kept sql hsql handle hget
      obtain ⟨u, hu, haccepted⟩ := h.kept.reached.exists_prepare hissued
      rw [htext] at haccepted
      obtain ⟨handle', hprepare'⟩ := hd.prepare_ok hu h.kept.reached' haccepted
      have hprepared' := watched_prepare_of_ok hprepare'
      have hkept := h.kept.hit hprepare'
      rw [hprepared'] at hkept
      rw [prepare_of_kept (hfound.trans hget), prepare_of_ok hnone hprepared']
      exact .prepared { h with kept := hkept } ⟨htext, rfl, hissued, by simp⟩
  | none =>
      replace hfound := hfound.trans hget
      cases hprepare : (d.prepare c.driver.1 sql).1 with
      | error fault =>
          have hprepare' := hd.prepare_error h.kept.reached h.kept.reached' hprepare
          have hkept := h.kept.refused hprepare hprepare'
          rw [watched_prepare_of_error hprepare, watched_prepare_of_error hprepare'] at hkept
          rw [prepare_of_error hfound (watched_prepare_of_error hprepare),
            prepare_of_error hnone (watched_prepare_of_error hprepare')]
          exact .refused { h with kept := hkept }
      | ok handle =>
          obtain ⟨handle', hprepare'⟩ := hd.prepare_ok h.kept.reached h.kept.reached' hprepare
          have hkept := h.kept.missed hsignature hsql hprepare hprepare'
          rw [watched_prepare_of_ok hprepare, watched_prepare_of_ok hprepare'] at hkept
          rw [prepare_of_ok hfound (watched_prepare_of_ok hprepare),
            prepare_of_ok hnone (watched_prepare_of_ok hprepare')]
          refine .prepared { h with kept := ?_ } ⟨rfl, rfl, by simp, by simp⟩
          simpa [h.keeps] using hkept

def caching (hd : d.Textual start)
    (hsignature : ∀ r s, texts r → texts s → signature r = signature s → r = s) :
    Simulation d.watched d.watched true false texts where
  Kept t m t' _ := Caching d start texts t m t'
  Handed := BothIssued
  prepare h hsql := prepare_caching hd hsignature h hsql
  execute := by
    rintro t m t' m' sql ⟨handle, _⟩ ⟨handle', _⟩ h ⟨rfl, rfl, hissued, hissued'⟩ arguments verb
    obtain ⟨hreply, hid⟩ :=
      hd.reply h.reached h.reached' h.executions hissued hissued' arguments verb
    exact ⟨hreply, hid, h.executed hissued hissued' rfl arguments verb⟩
  clear h := { h with kept := by simp }

end Connections

end Connection

namespace Operation

def texts (ops : List Operation) : List String :=
  ops.filterMap text?

theorem trimmed_textOfBuilt {built : Except Error Statement} {sql : String}
    (h : textOfBuilt built = some sql) : Text.trimmed sql = sql := by
  cases built with
  | error e => cases h
  | ok statement =>
      cases h
      exact Text.trimmed_trimmed _

theorem trimmed_text {op : Operation} {sql : String} (h : op.text? = some sql) :
    Text.trimmed sql = sql := by
  cases op with
  | query sql arguments => cases h; exact Text.trimmed_trimmed _
  | execute statement => cases h; exact Text.trimmed_trimmed _
  | select => exact trimmed_textOfBuilt h
  | insert => exact trimmed_textOfBuilt h
  | update => exact trimmed_textOfBuilt h
  | delete => exact trimmed_textOfBuilt h
  | encrypt => cases h
  | decrypt => cases h
  | clearStatements => cases h

theorem signature_injOn_texts {ops : List Operation}
    (hdigests : ∀ r ∈ texts ops, ∀ s ∈ texts ops,
      Sha256.digest (Text.utf8 r) = Sha256.digest (Text.utf8 s) → r = s)
    (r s : String) (hr : r ∈ texts ops) (hs : s ∈ texts ops)
    (h : signature r = signature s) : r = s := by
  obtain ⟨op, -, hop⟩ := List.mem_filterMap.mp hr
  obtain ⟨op', -, hop'⟩ := List.mem_filterMap.mp hs
  rw [signature_eq_iff, trimmed_text hop, trimmed_text hop'] at h
  exact hdigests r hr s hs h

end Operation

namespace Connection

/-- With the cache and without it, every operation gives the same answer and leaves the same
last failure, and the same statements have been executed after it. -/
theorem observed_caching_eq (d : Driver σ η) (start : σ) (config : Config) (ops : List Operation)
    (hd : d.Textual start)
    (hdigests : ∀ r ∈ Operation.texts ops, ∀ s ∈ Operation.texts ops,
      Sha256.digest (Text.utf8 r) = Sha256.digest (Text.utf8 s) → r = s) :
    observed (fun c => (c.lastError, executions c.driver.2)) d.watched
        (ofDriver (start, []) { config with cacheStatements := true }) ops =
      observed (fun c => (c.lastError, executions c.driver.2)) d.watched
        (ofDriver (start, []) { config with cacheStatements := false }) ops ∧
    observed (·.lastError) d (ofDriver start { config with cacheStatements := true }) ops =
      observed (·.lastError) d (ofDriver start { config with cacheStatements := false }) ops ∧
    ((ofDriver start { config with cacheStatements := true }).run d ops).1 =
      ((ofDriver start { config with cacheStatements := false }).run d ops).1 := by
  let S := caching hd (Operation.signature_injOn_texts hdigests)
  have hpaired : S.Rel (ofDriver (start, []) { config with cacheStatements := true })
      (ofDriver (start, []) { config with cacheStatements := false }) :=
    ⟨rfl, rfl, rfl, rfl, rfl, rfl, .start, .start, rfl, by simp [ofDriver]⟩
  have htexts : ∀ op ∈ ops, ∀ sql ∈ op.text?, sql ∈ Operation.texts ops :=
    fun op hop sql hsql => List.mem_filterMap.mpr ⟨op, hop, hsql⟩
  have hplain := S.observed (fun h => h.lastError) htexts hpaired
  rw [observed_watched, observed_watched] at hplain
  refine ⟨S.observed (fun h => ?_) htexts hpaired, hplain, ?_⟩
  · rw [h.lastError, h.kept.executions]
  · rw [run_eq_observed, run_eq_observed]
    exact congrArg (List.map (·.1)) hplain

end Connection

/-! ## An engine that executes nothing twice -/

structure Once where
  prepared : List String
  executed : List String

namespace Once

def fresh : Once :=
  ⟨[], []⟩

def driver : Driver Once Nat where
  prepare s sql :=
    if sql = "" then (.error ⟨"42000", "Query was empty"⟩, s)
    else (.ok s.prepared.length, { s with prepared := s.prepared ++ [sql] })
  execute s handle _ _ :=
    match s.prepared[handle]? with
    | none => (.error ⟨"HY000", "Unknown statement"⟩, s)
    | some sql =>
      (if sql ∈ s.executed then .error ⟨"23000", "Duplicate entry"⟩ else .ok (.done 1),
        { s with executed := s.executed ++ [sql] })
  lastInsertId s := .ofNat s.executed.length

theorem prepare_empty (s : Once) :
    driver.prepare s "" = (.error ⟨"42000", "Query was empty"⟩, s) := rfl

theorem prepare_of_ne {s : Once} {sql : String} (h : sql ≠ "") :
    driver.prepare s sql =
      (.ok s.prepared.length, { s with prepared := s.prepared ++ [sql] }) :=
  if_neg h

theorem execute_of_prepared {s : Once} {handle : Nat} {sql : String}
    (h : s.prepared[handle]? = some sql) (arguments : Arguments) (verb : Verb) :
    driver.execute s handle arguments verb =
      (if sql ∈ s.executed then .error ⟨"23000", "Duplicate entry"⟩ else .ok (.done 1),
        { s with executed := s.executed ++ [sql] }) := by
  simp [driver, h]

theorem executed_and_prepared {t : Once × List (Call (Nat × String))}
    (ht : driver.Reached fresh t) :
    t.1.executed = (executions t.2).map (·.sql) ∧
      ∀ handle ∈ issued t.2, t.1.prepared[handle.1]? = some handle.2 := by
  induction ht with
  | start => exact ⟨rfl, by simp⟩
  | @prepare t sql ht ih =>
      obtain ⟨hexecuted, hprepared⟩ := ih
      by_cases hsql : sql = ""
      · subst hsql
        rw [Driver.watched_prepare_of_error rfl, prepare_empty]
        exact ⟨by simpa using hexecuted, by simpa using hprepared⟩
      · have hprepare := prepare_of_ne (s := t.1) hsql
        rw [Driver.watched_prepare_of_ok (congrArg Prod.fst hprepare), hprepare]
        refine ⟨by simpa using hexecuted, fun handle hissued => ?_⟩
        rw [issued_prepared, List.mem_append, List.mem_singleton] at hissued
        rcases hissued with hissued | rfl
        · have hbefore := hprepared handle hissued
          obtain ⟨hlt, -⟩ := List.getElem?_eq_some_iff.mp hbefore
          exact (List.getElem?_append_left hlt).trans hbefore
        · simp
  | @execute t handle arguments verb ht hissued ih =>
      obtain ⟨hexecuted, hprepared⟩ := ih
      rw [Driver.watched_execute, execute_of_prepared (hprepared handle hissued)]
      exact ⟨by simp [hexecuted], by simpa using hprepared⟩

theorem textual_driver : driver.Textual fresh where
  refusal _ _ sql := by
    by_cases h : sql = "" <;> simp [driver, h, Except.map]
  reply ht hu hsame h k sql hissued hissued' arguments verb := by
    obtain ⟨hexecuted, hprepared⟩ := executed_and_prepared ht
    obtain ⟨hexecuted', hprepared'⟩ := executed_and_prepared hu
    rw [execute_of_prepared (hprepared _ hissued), execute_of_prepared (hprepared' _ hissued'),
      hexecuted, hexecuted', hsame]
    exact ⟨rfl, by simp [driver]⟩

def visits : List Operation :=
  [.query " INSERT INTO t VALUES (1) " .none, .query "INSERT INTO t VALUES (1)" .none,
    .query " " .none, .clearStatements, .query "INSERT INTO t VALUES (1)" .none,
    .delete "t" .all 1, .decrypt none]

/-- The second statement finds its handle in the cache, the same one behind the clearing
does not. -/
theorem observed_caching_eq_once :
    (Connection.observed (·.lastError) driver
        (.ofDriver fresh { Config.ofUrl "mysql://a" with cacheStatements := true }) visits).map
      (fun seen => (seen.1.toOption, seen.2)) =
    [(some (.outcome (.insertId 1)), none),
      (none, some "23000: Duplicate entry"),
      (none, some "42000: Query was empty"),
      (some .cleared, some "42000: Query was empty"),
      (none, some "23000: Duplicate entry"),
      (some (.count 1), none),
      (none, none)] := by
  have hequal := Connection.observed_caching_eq driver fresh (.ofUrl "mysql://a") visits
    textual_driver (by decide +kernel)
  rw [hequal.2.1]
  decide +kernel

end Once

end TableGateway
