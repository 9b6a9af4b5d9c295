import TableGateway.Proofs.Connection.Failures
import TableGateway.Proofs.Connection.Sending
import TableGateway.Proofs.Server.Decoding

/-!
# Results of queries

A query over a link answers with every row of the server's reply, or, if a single cell cannot be
read, with an error that the connection remembers.  A reply to a query leaves the last identity
and the handles as they were.
-/

namespace TableGateway

open Placeholder

namespace Link

variable {τ : Type} {s : Server τ} {l : Link τ} {columns : List ResultColumn}
  {rows : List (List Cell)} {reader : CellReader}

theorem lastId_prepare (s : Server τ) (l : Link τ) (sql : String) :
    (prepare s l sql).2.lastId = l.lastId := by
  unfold prepare
  dsimp only
  split <;> rfl

theorem read_query_snd (l : Link τ) (reader : CellReader) (reply : ServerReply) :
    (l.read reader .query reply).2 = l := by
  cases reply <;> rfl

theorem read_resultSet_of_ok {list : List Row} (h : reader.decodeRows columns rows = .ok list) :
    (l.read reader .query (.resultSet columns rows)).1 = .ok (.rows list) := by
  simp [read, Verb.returnsRows, h, Except.map, Except.mapError]

theorem read_resultSet_of_error {cause : LinkError}
    (h : reader.decodeRows columns rows = .error cause) :
    (l.read reader .query (.resultSet columns rows)).1 = .error (.ofLink cause) := by
  simp [read, Verb.returnsRows, h, Except.map, Except.mapError]

theorem execute_of_reply {handle : Positional} {arguments : Arguments} {verb : Verb}
    {values : List Value} {reply : ServerReply} {after : τ}
    (hvalues : orderedValues handle.names arguments = .ok values)
    (hreply : s.execute l.server handle.sql values = (.ok reply, after)) :
    (driver s).execute l handle arguments verb =
      { l with server := after }.read s.reader verb reply := by
  simp only [driver, execute, hvalues, hreply]

end Link

namespace Connection

variable {τ : Type} {s : Server τ} {c : Connection (Link τ) Positional} {sql : String}
  {arguments : Arguments} {columns : List ResultColumn} {rows : List (List Cell)} {after : τ}

theorem lastId_prepare (s : Server τ) (c : Connection (Link τ) Positional) (sql : String) :
    (prepare (Link.driver s) c sql).2.driver.lastId = c.driver.lastId := by
  have hlink : ((Link.driver s).prepare c.driver sql).2.lastId = c.driver.lastId :=
    Link.lastId_prepare s c.driver sql
  unfold prepare
  split
  · rfl
  · split <;> simp_all

/-- Of what a query leaves behind, only the server has moved on since the statement was
prepared. -/
structure LeavesPrepared (s : Server τ) (c : Connection (Link τ) Positional) (sql : String)
    (after : τ) (next : Connection (Link τ) Positional) : Prop where
  server : next.driver.server = after
  lastId : next.driver.lastId = c.driver.lastId
  statements : next.statements =
    (prepare (Link.driver s) { c with lastError := none } (Text.trimmed sql)).2.statements

theorem leavesPrepared_of_replies {reply : ServerReply} (hverb : Verb.classify sql = .query)
    (hreply : c.Replies s sql arguments reply after) :
    c.LeavesPrepared s sql after (c.query (Link.driver s) sql arguments).2 := by
  obtain ⟨handle, k, values, hprepare, hvalues, hexecute⟩ := hreply
  have hid := lastId_prepare s { c with lastError := none } (Text.trimmed sql)
  rw [hprepare] at hid
  have hdriver : (c.query (Link.driver s) sql arguments).2.driver =
      { k.driver with server := after } := by
    rw [query_driver hprepare, Verb.classify_trimmed, hverb,
      Link.execute_of_reply hvalues hexecute, Link.read_query_snd]
  exact ⟨by rw [hdriver], by rw [hdriver, hid], query_statements⟩

theorem query_of_readable {list : List Row} (hverb : Verb.classify sql = .query)
    (hreply : c.Replies s sql arguments (.resultSet columns rows) after)
    (h : s.reader.decodeRows columns rows = .ok list) :
    (c.query (Link.driver s) sql arguments).1 = .ok (.rows list) := by
  obtain ⟨handle, k, values, hprepare, hvalues, hexecute⟩ := hreply
  have hread := Link.read_resultSet_of_ok (l := { k.driver with server := after }) h
  rw [← Link.execute_of_reply hvalues hexecute] at hread
  rw [query_of_executed hprepare (by
    rw [Verb.classify_trimmed, hverb]
    exact Prod.ext hread rfl), Verb.classify_trimmed, hverb]
  rfl

theorem query_of_unreadable {cause : LinkError} (hverb : Verb.classify sql = .query)
    (hreply : c.Replies s sql arguments (.resultSet columns rows) after)
    (h : s.reader.decodeRows columns rows = .error cause) :
    (c.query (Link.driver s) sql arguments).1 = .error (.execution (.ofLink cause)) := by
  obtain ⟨handle, k, values, hprepare, hvalues, hexecute⟩ := hreply
  have hread := Link.read_resultSet_of_error (l := { k.driver with server := after }) h
  rw [← Link.execute_of_reply hvalues hexecute] at hread
  rw [query_of_failed hprepare (by
    rw [Verb.classify_trimmed, hverb]
    exact Prod.ext hread rfl)]

/-- A query answers with one row for each row of the reply, every value read from the cell at its
place, or else one of the cells cannot be read.  Then the query fails as a whole, and the failure
is what the connection remembers.  Neither changes the last identity, or the handles behind the
preparation. -/
theorem query_reads_all_or_nothing (hverb : Verb.classify sql = .query)
    (hreply : c.Replies s sql arguments (.resultSet columns rows) after) :
    c.LeavesPrepared s sql after (c.query (Link.driver s) sql arguments).2 ∧
    (¬ s.reader.Unreadable columns rows → ∃ list,
      (c.query (Link.driver s) sql arguments).1 = .ok (.rows list) ∧
      List.Forall₂ (s.reader.RowOf columns) rows list) ∧
    (s.reader.Unreadable columns rows → ∃ cells ∈ rows, ∃ i cause,
      s.reader.FailsAt columns cells i cause ∧
      (c.query (Link.driver s) sql arguments).1 = .error (.execution (.ofLink cause)) ∧
      (c.query (Link.driver s) sql arguments).2.lastError =
        some (Error.execution (.ofLink cause)).message) := by
  refine ⟨leavesPrepared_of_replies hverb hreply, ?_, ?_⟩
  · intro hreadable
    rcases s.reader.decodeRows_cases columns rows with
      ⟨list, hlist, hrows⟩ | ⟨cells, hcells, i, cause, hfails, -⟩
    · exact ⟨list, query_of_readable hverb hreply hlist, hrows⟩
    · exact absurd ⟨cells, hcells, i, cause, hfails⟩ hreadable
  · intro hunreadable
    rcases s.reader.decodeRows_cases columns rows with
      ⟨list, -, hrows⟩ | ⟨cells, hcells, i, cause, hfails, hfault⟩
    · exact absurd hunreadable (CellReader.not_unreadable_of_rowsOf hrows)
    · have hanswer := query_of_unreadable hverb hreply hfault
      refine ⟨cells, hcells, i, cause, hfails, hanswer, ?_⟩
      rcases query_cases (Link.driver s) c sql arguments with ⟨o, ho, -⟩ | ⟨fault, hcause, herror⟩
      · rw [hanswer] at ho
        contradiction
      · rw [hanswer] at hcause
        cases hcause
        exact herror

def twins : List ResultColumn :=
  [⟨"n", "SMALLINT"⟩, ⟨"j", "JSON"⟩, ⟨"n", "TEXT"⟩]

def replying (rows : List (List Cell)) : Server Unit where
  prepare _ _ := (.ok (), ())
  execute _ _ _ := (.ok (.resultSet twins rows), ())
  reader := .plain

def newcomer : Connection (Link Unit) Positional :=
  ofDriver ⟨(), 7⟩ { Config.ofUrl "" with cacheStatements := false }

def question : String :=
  " select n, j, n from t"

/-- The last cell is no text. -/
def soundCells : List Cell :=
  [some [0xfe, 0xff], some [0x5b, 0x20, 0x31, 0x5d], some [0xff]]

def sparseCells : List Cell :=
  [none, none, some [0x61]]

def soundRows : List Row :=
  [⟨[("n", .int (-2)), ("j", .text "[1]"), ("n", .bytes [0xff])]⟩,
    ⟨[("n", .null), ("j", .null), ("n", .text "a")]⟩]

/-- The document in the middle is cut off. -/
def brokenCells : List Cell :=
  [none, some [0x7b], none]

theorem replies_newcomer (rows : List (List Cell)) :
    newcomer.Replies (replying rows) question .none (.resultSet twins rows) () := by
  have hnames : (Positional.ofSql (Text.trimmed question)).names.isEmpty = true := by
    decide +kernel
  refine ⟨Positional.ofSql (Text.trimmed question), { newcomer with lastError := none }, [], rfl,
    ?_, rfl⟩
  simp [Link.orderedValues, Arguments.none, hnames]

theorem nullAsSent_plain : CellReader.plain.NullAsSent := by
  intro type cell
  simp [CellReader.plain]

theorem query_reads_all_or_nothing_twins :
    Verb.classify question = .query ∧ CellReader.plain.NullAsSent ∧
    (newcomer.Replies (replying [soundCells, sparseCells]) question .none
        (.resultSet twins [soundCells, sparseCells]) () ∧
      (newcomer.query (Link.driver (replying [soundCells, sparseCells])) question .none).1 =
        .ok (.rows soundRows) ∧
      List.Forall₂ (CellReader.plain.RowOf twins) [soundCells, sparseCells] soundRows) ∧
    newcomer.Replies (replying [soundCells, brokenCells]) question .none
        (.resultSet twins [soundCells, brokenCells]) () ∧
      ∃ cause, (newcomer.query (Link.driver (replying [soundCells, brokenCells])) question
        .none).1 = .error (.execution cause) := by
  have hverb : Verb.classify question = .query := by decide +kernel
  have hsound := query_reads_all_or_nothing hverb (replies_newcomer [soundCells, sparseCells])
  have hbroken := query_reads_all_or_nothing hverb (replies_newcomer [soundCells, brokenCells])
  have hread : (newcomer.query (Link.driver (replying [soundCells, sparseCells])) question
      .none).1 = .ok (.rows soundRows) :=
    eq_ok_of_toOption (by decide +kernel)
  refine ⟨hverb, nullAsSent_plain, ⟨replies_newcomer _, hread, ?_⟩, replies_newcomer _, ?_⟩
  · have hreadable : ¬ CellReader.plain.Unreadable twins [soundCells, sparseCells] := by
      rw [CellReader.unreadable_iff]
      decide +kernel
    obtain ⟨list, hanswer, hrows⟩ := hsound.2.1 hreadable
    rw [hread] at hanswer
    cases hanswer
    exact hrows
  · have hunreadable : CellReader.plain.Unreadable twins [soundCells, brokenCells] := by
      rw [CellReader.unreadable_iff]
      decide +kernel
    obtain ⟨cells, -, i, cause, -, hanswer, -⟩ := hbroken.2.2 hunreadable
    exact ⟨_, hanswer⟩

end Connection

end TableGateway
