import TableGateway.Proofs.Connection.Course
import TableGateway.Proofs.Statement.Verbs
import TableGateway.Server.Script

/-!
# Results on their way to the caller

An operation succeeds exactly when the driver executes its statement, and the caller then gets
what the driver gave: the rows of a selection, the identity that was generated by an insertion,
the count of a change.  Over a link, the identity is the one in the reply to this very
statement, because every reply to a statement other than a query overwrites it.
-/

namespace TableGateway

namespace Output

def toRows : Output → List Row
  | .rows list => list
  | .done _ => []

def affected : Output → UInt64
  | .rows _ => 0
  | .done count => count

end Output

def Outcome.verb : Outcome → Verb
  | .insertId _ => .insert
  | .affected _ => .modify
  | .rows _ => .query
  | .success => .other

@[simp] theorem Verb.verb_interpret (verb : Verb) (output : Output) (id : UInt64) :
    (verb.interpret output id).verb = verb := by
  cases verb <;> cases output <;> rfl

/-! ## Executions -/

namespace Connection

variable {σ η : Type} {d : Driver σ η} {c : Connection σ η} {sql : String}
  {arguments : Arguments}

/-- There is a handle for a text, and the driver executes it with these arguments; that gives
`output` and leaves the driver in the state `next`. -/
def Executes (d : Driver σ η) (c : Connection σ η) (sql : String) (arguments : Arguments)
    (output : Output) (next : σ) : Prop :=
  ∃ handle k, prepare d { c with lastError := none } (Text.trimmed sql) = (.ok handle, k) ∧
    d.execute k.driver handle arguments (Verb.classify (Text.trimmed sql)) = (.ok output, next)

theorem query_of_executes {output : Output} {next : σ}
    (h : c.Executes d sql arguments output next) :
    (c.query d sql arguments).1 =
      .ok ((Verb.classify sql).interpret output (d.lastInsertId next)) := by
  obtain ⟨handle, k, hprepare, hexecute⟩ := h
  rw [query_of_executed hprepare hexecute, Verb.classify_trimmed]

theorem exists_executes {o : Outcome} (h : (c.query d sql arguments).1 = .ok o) :
    ∃ output next, c.Executes d sql arguments output next := by
  rcases hprepare : prepare d { c with lastError := none } (Text.trimmed sql) with
    ⟨fault | handle, k⟩
  · rw [query_of_refused hprepare] at h
    contradiction
  · rcases hexecute : d.execute k.driver handle arguments (Verb.classify (Text.trimmed sql)) with
      ⟨fault | output, next⟩
    · rw [query_of_failed hprepare hexecute] at h
      contradiction
    · exact ⟨output, next, handle, k, hprepare, hexecute⟩

theorem query_eq_ok_iff {o : Outcome} :
    (c.query d sql arguments).1 = .ok o ↔
      ∃ output next, c.Executes d sql arguments output next ∧
        o = (Verb.classify sql).interpret output (d.lastInsertId next) := by
  constructor
  · intro h
    obtain ⟨output, next, hexecutes⟩ := exists_executes h
    rw [query_of_executes hexecutes] at h
    exact ⟨output, next, hexecutes, (Except.ok.inj h).symm⟩
  · rintro ⟨output, next, hexecutes, rfl⟩
    exact query_of_executes hexecutes

/-! ## Built statements -/

/-- A statement is of the kind `verb`, its outcomes have the shape for that kind, and the
answers are exactly what `read` takes from the executions that succeed. -/
structure Delivers {α : Type} (d : Driver σ η) (c : Connection σ η) (st : Statement)
    (verb : Verb) (answer : Except Error α) (read : Output → σ → α) : Prop where
  classified : Verb.classify (Text.trimmed st.sql) = verb
  shaped : ∀ o, (c.execute d st).1 = .ok o → o.verb = verb
  answered : ∀ a, answer = .ok a ↔ ∃ output next,
    c.Executes d st.sql (.named st.bindings) output next ∧ a = read output next

theorem executeBuilt_eq_ok_iff {α : Type} {st : Statement} {reading : Outcome → α} {a : α} :
    (c.executeBuilt d (.ok st) reading).1 = .ok a ↔
      ∃ o, (c.execute d st).1 = .ok o ∧ a = reading o := by
  rcases hexecute : c.execute d st with ⟨e | o, k⟩
  · simp [executeBuilt, hexecute, Except.map]
  · simp [executeBuilt, hexecute, Except.map, eq_comm]

theorem delivers_of_request {α : Type} {r : Request} {st : Statement} {reading : Outcome → α}
    {read : Output → σ → α} (hbuilt : r.statement = .ok st)
    (hread : ∀ output next, reading (r.verb.interpret output (d.lastInsertId next)) =
      read output next) :
    c.Delivers d st r.verb (c.executeBuilt d r.statement reading).1 read where
  classified := by rw [Verb.classify_trimmed, Request.classify_statement hbuilt]
  shaped o ho := by
    obtain ⟨output, next, -, rfl⟩ := query_eq_ok_iff.mp ho
    rw [Verb.verb_interpret, Request.classify_statement hbuilt]
  answered a := by
    have hverb := Request.classify_statement hbuilt
    rw [hbuilt, executeBuilt_eq_ok_iff]
    constructor
    · rintro ⟨o, ho, rfl⟩
      obtain ⟨output, next, hexecutes, rfl⟩ := query_eq_ok_iff.mp ho
      exact ⟨output, next, hexecutes, by rw [hverb, hread]⟩
    · rintro ⟨output, next, hexecutes, rfl⟩
      exact ⟨_, query_of_executes hexecutes, by rw [hverb, hread]⟩

end Connection

/-! ## Replies of a server -/

def ServerReply.lastId : ServerReply → UInt64
  | .done _ id => id
  | .resultSet _ _ => 0

namespace Link

variable {τ : Type} {s : Server τ} {l l' : Link τ} {reader : CellReader} {verb : Verb}
  {reply : ServerReply} {output : Output}

theorem read_of_query (h : l.read reader .query reply = (.ok output, l')) :
    l'.server = l.server ∧ ∃ list, output = .rows list := by
  cases reply with
  | done affected id =>
      cases h
      exact ⟨rfl, [], rfl⟩
  | resultSet columns rows =>
      change (((reader.decodeRows columns rows).mapError DriverError.ofLink).map Output.rows, l) =
        (.ok output, l') at h
      obtain ⟨houtput, rfl⟩ := Prod.mk.inj h
      cases hrows : reader.decodeRows columns rows with
      | error e =>
          rw [hrows] at houtput
          contradiction
      | ok list =>
          rw [hrows] at houtput
          exact ⟨rfl, list, (Except.ok.inj houtput).symm⟩

theorem read_of_other (hverb : verb ≠ .query) (l : Link τ) (reader : CellReader)
    (reply : ServerReply) :
    ∃ count, l.read reader verb reply = (.ok (.done count), { l with lastId := reply.lastId }) := by
  have hreturns : verb.returnsRows = false := by simpa [Verb.returnsRows] using hverb
  cases reply with
  | done affected id => exact ⟨affected, by rw [read, hreturns]; rfl⟩
  | resultSet columns rows => exact ⟨0, by rw [read, hreturns]; rfl⟩

theorem read_eq_ok (h : l.read reader verb reply = (.ok output, l')) :
    l'.server = l.server ∧ ((∃ list, output = .rows list) ↔ verb = .query) ∧
      (verb ≠ .query → l'.lastId = reply.lastId) := by
  by_cases hverb : verb = .query
  · subst hverb
    obtain ⟨hserver, hrows⟩ := read_of_query h
    exact ⟨hserver, iff_of_true hrows rfl, fun hne => absurd rfl hne⟩
  · obtain ⟨count, hread⟩ := read_of_other hverb l reader reply
    rw [hread] at h
    cases h
    refine ⟨rfl, iff_of_false ?_ hverb, fun _ => rfl⟩
    rintro ⟨list, hlist⟩
    contradiction

theorem execute_eq_ok {handle : Placeholder.Positional} {arguments : Arguments}
    (h : Link.execute s l handle arguments verb = (.ok output, l')) :
    ∃ values reply, orderedValues handle.names arguments = .ok values ∧
      s.execute l.server handle.sql values = (.ok reply, l'.server) ∧
      ((∃ list, output = .rows list) ↔ verb = .query) ∧
      (verb ≠ .query → l'.lastId = reply.lastId) := by
  rw [Link.execute] at h
  cases hvalues : orderedValues handle.names arguments with
  | error e => simp [hvalues] at h
  | ok values =>
      rcases hreply : s.execute l.server handle.sql values with ⟨e | reply, server⟩
      · simp [hvalues, hreply] at h
      · simp only [hvalues, hreply] at h
        obtain ⟨hserver, hrows, hid⟩ := read_eq_ok h
        exact ⟨values, reply, rfl, by rw [hreply, hserver], hrows, hid⟩

end Link

namespace Connection

/-- A server executes the statement that a link prepared for a text, with the values in the
order of its question marks; that gives `reply` and leaves the server in the state `after`. -/
def Replies {τ : Type} (s : Server τ) (c : Connection (Link τ) Placeholder.Positional)
    (sql : String) (arguments : Arguments) (reply : ServerReply) (after : τ) : Prop :=
  ∃ handle k values,
    prepare (Link.driver s) { c with lastError := none } (Text.trimmed sql) = (.ok handle, k) ∧
    Link.orderedValues handle.names arguments = .ok values ∧
    s.execute k.driver.server handle.sql values = (.ok reply, after)

theorem replies_of_executes {τ : Type} {s : Server τ}
    {c : Connection (Link τ) Placeholder.Positional} {sql : String} {arguments : Arguments}
    {output : Output} {next : Link τ}
    (h : c.Executes (Link.driver s) sql arguments output next) :
    ((∃ list, output = .rows list) ↔ Verb.classify sql = .query) ∧
      ∃ reply, c.Replies s sql arguments reply next.server ∧
        (Verb.classify sql ≠ .query → next.lastId = reply.lastId) := by
  obtain ⟨handle, k, hprepare, hexecute⟩ := h
  obtain ⟨values, reply, hvalues, hreply, hrows, hid⟩ := Link.execute_eq_ok hexecute
  rw [Verb.classify_trimmed] at hrows hid
  exact ⟨hrows, reply, ⟨handle, k, values, hprepare, hvalues, hreply⟩, hid⟩

/-! ## Results -/

variable {σ η τ : Type}

/-- What an operation answers is what the driver gave when it executed the statement, and the
statement is always of the kind that the operation reads.  After any run over a link, a query
gets rows exactly if its statement asks for rows, and an identity it gets is the one in the
server's reply to the statement. -/
theorem results_unaltered (d : Driver σ η) (c : Connection σ η) (s : Server τ) :
    (∀ table condition order limit offset st,
      Statement.select table condition order limit offset = .ok st →
        c.Delivers d st .query (c.select d table condition order limit offset).1
          fun output _ => output.toRows) ∧
    (∀ table values mode st, Statement.insert table values mode = .ok st →
      c.Delivers d st .insert (c.insert d table values mode).1 fun _ next => d.lastInsertId next) ∧
    (∀ table values condition limit st, Statement.update table values condition limit = .ok st →
      c.Delivers d st .modify (c.update d table values condition limit).1
        fun output _ => output.affected) ∧
    (∀ table condition limit st, Statement.delete table condition limit = .ok st →
      c.Delivers d st .modify (c.delete d table condition limit).1
        fun output _ => output.affected) ∧
    ∀ (start : Link τ) (config : Config) (ops : List Operation) k,
      ((ofDriver start config).run (Link.driver s) ops).2 = k →
      ∀ sql arguments output next, k.Executes (Link.driver s) sql arguments output next →
        ((∃ list, output = .rows list) ↔ Verb.classify (Text.trimmed sql) = .query) ∧
        ∃ reply, k.Replies s sql arguments reply next.server ∧
          ∀ id, (k.query (Link.driver s) sql arguments).1 = .ok (.insertId id) →
            id = reply.lastId := by
  refine ⟨?_, ?_, ?_, ?_, ?_⟩
  · intro table condition order limit offset st hbuilt
    apply delivers_of_request (r := .select table condition order limit offset) hbuilt
    intro output next
    cases output <;> rfl
  · intro table values mode st hbuilt
    apply delivers_of_request (r := .insert table values mode) hbuilt
    intro output next
    rfl
  · intro table values condition limit st hbuilt
    apply delivers_of_request (r := .update table values condition limit) hbuilt
    intro output next
    cases output <;> rfl
  · intro table condition limit st hbuilt
    apply delivers_of_request (r := .delete table condition limit) hbuilt
    intro output next
    cases output <;> rfl
  · rintro start config ops k - sql arguments output next hexecutes
    obtain ⟨hrows, reply, hreplies, hid⟩ := replies_of_executes hexecutes
    refine ⟨by rw [Verb.classify_trimmed, hrows], reply, hreplies, ?_⟩
    intro id hanswer
    rw [query_of_executes hexecutes] at hanswer
    -- Only insertions have an identity for their outcome, and none of them is a query, so
    -- the reply has overwritten the last identity.
    have hverb : Verb.classify sql = .insert := by
      rw [← Verb.verb_interpret (Verb.classify sql), Except.ok.inj hanswer]
      rfl
    rw [hverb] at hanswer hid
    have hgot : next.lastId = id := by
      simpa [Verb.interpret, Link.driver] using hanswer
    rw [← hgot, hid (by decide)]

def numbering : Server Nat where
  prepare n _ := (.ok (), n)
  execute n _ _ := (.ok (.done 1 (UInt64.ofNat (n + 1))), n + 1)
  reader := .plain

def numbered : Connection (Link Nat) Placeholder.Positional :=
  ofDriver ⟨3, 0⟩ { Config.ofUrl "" with cacheStatements := false }

def insertion : String :=
  " insert into t (a) values (?) "

theorem eq_ok_of_toOption {α : Type} {r : Except Error α} {a : α} (h : r.toOption = some a) :
    r = .ok a := by
  cases r with
  | error e => contradiction
  | ok b => exact congrArg Except.ok (Option.some.inj h)

theorem results_unaltered_numbering :
    (∃ st, Statement.select "t" .all none 2 0 = .ok st ∧
      numbered.Delivers (Link.driver numbering) st .query
        (numbered.select (Link.driver numbering) "t" .all none 2 0).1
        fun output _ => output.toRows) ∧
    (∃ st output next, Statement.insert "t" (Bindings.ofList [("a", .int 7)]) .plain = .ok st ∧
      numbered.Executes (Link.driver numbering) st.sql (.named st.bindings) output next ∧
      4 = next.lastId) ∧
    (∃ st, Statement.update "t" (Bindings.ofList [("a", .int 7)]) .all 0 = .ok st ∧
      numbered.Delivers (Link.driver numbering) st .modify
        (numbered.update (Link.driver numbering) "t" (Bindings.ofList [("a", .int 7)]) .all 0).1
        fun output _ => output.affected) ∧
    (∃ st, Statement.delete "t" .all 1 = .ok st ∧
      numbered.Delivers (Link.driver numbering) st .modify
        (numbered.delete (Link.driver numbering) "t" .all 1).1 fun output _ => output.affected) ∧
    ∃ reply after,
      (numbered.run (Link.driver numbering)
        [.query insertion (.positional [.int 7])]).2.Replies numbering insertion
          (.positional [.int 8]) reply after ∧ 5 = reply.lastId := by
  obtain ⟨hselect, hinsert, hupdate, hdelete, hquery⟩ :=
    results_unaltered (Link.driver numbering) numbered numbering
  refine ⟨⟨_, rfl, hselect _ _ _ _ _ _ rfl⟩, ?_, ⟨_, rfl, hupdate _ _ _ _ _ rfl⟩,
    ⟨_, rfl, hdelete _ _ _ _ rfl⟩, ?_⟩
  · have hdelivers := hinsert "t" (Bindings.ofList [("a", .int 7)]) .plain _ rfl
    obtain ⟨output, next, hexecutes, hid⟩ :=
      (hdelivers.answered 4).mp (eq_ok_of_toOption (by decide +kernel))
    exact ⟨_, output, next, rfl, hexecutes, hid⟩
  · have hanswer : ((numbered.run (Link.driver numbering)
        [.query insertion (.positional [.int 7])]).2.query (Link.driver numbering) insertion
          (.positional [.int 8])).1 = .ok (.insertId 5) :=
      eq_ok_of_toOption (by decide +kernel)
    obtain ⟨output, next, hexecutes⟩ := exists_executes hanswer
    obtain ⟨-, reply, hreplies, hid⟩ := hquery _ _ _ _ rfl _ _ output next hexecutes
    exact ⟨reply, next.server, hreplies, hid 5 hanswer⟩

end Connection

end TableGateway
