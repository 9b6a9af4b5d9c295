import TableGateway.Proofs.Connection.Caching
import TableGateway.Proofs.Connection.Delivery
import TableGateway.Proofs.Sql.Echo

/-!
# What a server gets to execute

A server gets the values of a statement in the order of its question marks, so it gets for
every name in the SQL the value that is bound to it, and nothing else of the bindings matters.
Where a name has no value, or values without names are given for names, nothing is sent.  The
names are known from the handle, which may have been prepared long before.
-/

namespace TableGateway

open Placeholder

/-- The server that keeps a list of what it gets to execute, oldest first. -/
def Server.receiving {τ : Type} (s : Server τ) : Server (τ × List (String × List Value)) where
  prepare t sql := ((s.prepare t.1 sql).1, (s.prepare t.1 sql).2, t.2)
  execute t sql values :=
    ((s.execute t.1 sql values).1, (s.execute t.1 sql values).2, t.2 ++ [(sql, values)])
  reader := s.reader

abbrev Receiver (τ : Type) := Connection (Link (τ × List (String × List Value))) Positional

/-! ## Blanks around a text -/

namespace Text

theorem isPlain_of_isBlank {c : Char} (h : isBlank c = true) : isPlain c = true := by
  by_contra hplain
  simp only [isPlain, Bool.not_eq_true, Bool.not_eq_false', List.contains_eq_mem, List.mem_cons,
    List.not_mem_nil, or_false, decide_eq_true_eq] at hplain
  rcases hplain with rfl | rfl | rfl | rfl | rfl | rfl | rfl <;> exact absurd h (by decide)

theorem isBlank_of_isDigit {c : Char} (h : c.isDigit = true) : isBlank c = false := by
  have hdigit : 48 ≤ c.toNat ∧ c.toNat ≤ 57 := by
    obtain ⟨hle, hge⟩ := Bool.and_eq_true_iff.mp h
    exact ⟨of_decide_eq_true hle, of_decide_eq_true hge⟩
  simp only [isBlank, Bool.or_eq_false_iff, Bool.and_eq_false_iff, decide_eq_false_iff_not,
    beq_eq_false_iff_ne]
  omega

theorem isWordPart_of_isBlank {c : Char} (h : isBlank c = true) :
    Identifier.isWordPart c = false := by
  by_contra hword
  simp only [Identifier.isWordPart, Char.isAlphanum, Bool.not_eq_false, Bool.or_eq_true,
    beq_iff_eq] at hword
  rcases hword with (halpha | hdigit) | rfl
  · rw [isBlank_of_isAlpha halpha] at h
    contradiction
  · rw [isBlank_of_isDigit hdigit] at h
    contradiction
  · contradiction

theorem names_trimStart (cs : List Char) :
    (lexemes (trimStart cs)).filterMap Lexeme.name? = (lexemes cs).filterMap Lexeme.name? := by
  have hplain : ∀ c ∈ cs.takeWhile isBlank, isPlain c = true :=
    fun c hc => isPlain_of_isBlank (List.mem_takeWhile_imp hc)
  have hsplit : cs.takeWhile isBlank ++ trimStart cs = cs := List.takeWhile_append_dropWhile
  conv_rhs => rw [← hsplit, lexemes_plain_append hplain, List.filterMap_append]
  simp [Lexeme.name?]

theorem names_trimEnd (cs : List Char) :
    (lexemes (trimEnd cs)).filterMap Lexeme.name? = (lexemes cs).filterMap Lexeme.name? := by
  have hblank : ∀ c ∈ cs.rtakeWhile isBlank, isBlank c = true :=
    fun c hc => List.mem_rtakeWhile_imp hc
  have hsplit : trimEnd cs ++ cs.rtakeWhile isBlank = cs := List.rdropWhile_append_rtakeWhile
  conv_rhs => rw [← hsplit]
  symm
  apply names_append_plain
  · exact fun c hc => isPlain_of_isBlank (hblank c hc)
  · exact fun c hc => isWordPart_of_isBlank (hblank c (List.mem_of_mem_head? hc))

theorem names_trimmed (sql : String) :
    (Positional.ofSql (trimmed sql)).names = (Positional.ofSql sql).names := by
  simp only [Positional.ofSql, trimmed, String.toList_ofList, trim, names_trimEnd, names_trimStart]

end Text

/-! ## Values by name -/

def Bindings.firstMissing? (m : Bindings) (names : List String) : Option String :=
  names.find? fun name => (m.get? name).isNone

namespace Link

variable {m m' : Bindings} {names : List String}

theorem exists_namedValues (h : m.firstMissing? names = none) :
    ∃ values, names.map m.get? = values.map some ∧ namedValues m names = .ok values := by
  unfold Bindings.firstMissing? at h
  induction names with
  | nil => exact ⟨[], rfl, rfl⟩
  | cons name names ih =>
      cases hvalue : m.get? name with
      | none => simp [hvalue] at h
      | some value =>
          rw [List.find?_cons_of_neg (by simp [hvalue])] at h
          obtain ⟨values, hvalues, hok⟩ := ih h
          refine ⟨value :: values, by simp [hvalue, hvalues], ?_⟩
          simp only [namedValues, hvalue, hok]
          rfl

theorem namedValues_of_missing {name : String} (h : m.firstMissing? names = some name) :
    namedValues m names =
      .error ⟨DriverError.parameterCode, "no value bound for parameter :" ++ name⟩ := by
  unfold Bindings.firstMissing? at h
  induction names with
  | nil => contradiction
  | cons first names ih =>
      cases hvalue : m.get? first with
      | none =>
          rw [List.find?_cons_of_pos (by simp [hvalue])] at h
          cases h
          simp only [namedValues, hvalue]
      | some value =>
          rw [List.find?_cons_of_neg (by simp [hvalue])] at h
          simp only [namedValues, hvalue, ih h]
          rfl

theorem namedValues_congr (h : ∀ name ∈ names, m.get? name = m'.get? name) :
    namedValues m names = namedValues m' names := by
  induction names with
  | nil => rfl
  | cons name names ih =>
      rw [List.forall_mem_cons] at h
      rw [namedValues, namedValues, h.1, ih h.2]

/-! ## Links to a server that keeps what it gets -/

variable {τ : Type} {s : Server τ} {l : Link (τ × List (String × List Value))}
  {handle : Positional} {arguments : Arguments} {verb : Verb}

@[simp] theorem server_read {τ : Type} (l : Link τ) (reader : CellReader) (verb : Verb)
    (reply : ServerReply) : (l.read reader verb reply).2.server = l.server := by
  unfold read
  split
  · cases reply <;> rfl
  · cases reply <;> rfl

theorem received_of_ordered {values : List Value}
    (h : orderedValues handle.names arguments = .ok values) :
    (Link.execute s.receiving l handle arguments verb).2.server.2 =
      l.server.2 ++ [(handle.sql, values)] := by
  simp only [Link.execute, h, Server.receiving]
  cases (s.execute l.server.1 handle.sql values).1 with
  | error e => rfl
  | ok reply => simp

theorem execute_of_unordered {fault : DriverError}
    (h : orderedValues handle.names arguments = .error fault) :
    Link.execute s.receiving l handle arguments verb = (.error fault, l) := by
  simp [Link.execute, h]

theorem prepare_cases (s : Server τ) (l : Link (τ × List (String × List Value))) (sql : String) :
    ∃ next : Link (τ × List (String × List Value)),
      next.server.2 = l.server.2 ∧ next.lastId = l.lastId ∧
      (((s.prepare l.server.1 (Positional.ofSql sql).sql).1 = .ok () ∧
          (driver s.receiving).prepare l sql = (.ok (.ofSql sql), next)) ∨
        ∃ e, (s.prepare l.server.1 (Positional.ofSql sql).sql).1 = .error e ∧
          (driver s.receiving).prepare l sql = (.error (.ofLink e), next)) := by
  refine ⟨⟨((s.prepare l.server.1 (Positional.ofSql sql).sql).2, l.server.2), l.lastId⟩,
    rfl, rfl, ?_⟩
  simp only [driver, prepare, Server.receiving]
  cases (s.prepare l.server.1 (Positional.ofSql sql).sql).1 with
  | error e => exact .inr ⟨e, rfl, rfl⟩
  | ok accepted => exact .inl ⟨rfl, rfl⟩

end Link

namespace Connection

/-! ## Handles and their texts -/

section Query

variable {σ η : Type} {d : Driver σ η} {c k : Connection σ η} {sql : String}
  {arguments arguments' : Arguments} {handle : η}

theorem query_statements :
    (c.query d sql arguments).2.statements =
      (prepare d { c with lastError := none } (Text.trimmed sql)).2.statements := by
  rcases hprepare : prepare d { c with lastError := none } (Text.trimmed sql) with
    ⟨fault | handle, k⟩
  · rw [query_of_refused hprepare]
  · rcases hexecute : d.execute k.driver handle arguments (Verb.classify (Text.trimmed sql)) with
      ⟨fault | output, next⟩
    · rw [query_of_failed hprepare hexecute]
    · rw [query_of_executed hprepare hexecute]

theorem query_driver
    (h : prepare d { c with lastError := none } (Text.trimmed sql) = (.ok handle, k)) :
    (c.query d sql arguments).2.driver =
      (d.execute k.driver handle arguments (Verb.classify (Text.trimmed sql))).2 := by
  rcases hexecute : d.execute k.driver handle arguments (Verb.classify (Text.trimmed sql)) with
    ⟨fault | output, next⟩
  · rw [query_of_failed h hexecute]
  · rw [query_of_executed h hexecute]

theorem query_congr
    (h : prepare d { c with lastError := none } (Text.trimmed sql) = (.ok handle, k))
    (hsame : d.execute k.driver handle arguments = d.execute k.driver handle arguments') :
    c.query d sql arguments = c.query d sql arguments' := by
  rcases hexecute : d.execute k.driver handle arguments (Verb.classify (Text.trimmed sql)) with
    ⟨fault | output, next⟩
  · rw [query_of_failed h hexecute]
    rw [hsame] at hexecute
    rw [query_of_failed h hexecute]
  · rw [query_of_executed h hexecute]
    rw [hsame] at hexecute
    rw [query_of_executed h hexecute]

end Query

variable {τ : Type} {s : Server τ} {c : Receiver τ}

def received (c : Receiver τ) : List (String × List Value) :=
  c.driver.server.2

/-- Every handle that is kept for a text was prepared from one of `texts` with the same
signature. -/
def HandlesFrom (texts : String → Prop) (statements : StatementCache Positional) : Prop :=
  ∀ sql handle, statements.get? sql = some handle →
    ∃ r, texts r ∧ signature r = signature sql ∧ handle = Positional.ofSql r

section Handles

variable {texts : String → Prop} {statements : StatementCache Positional} {sql : String}

theorem handlesFrom_empty : HandlesFrom texts .empty := by
  intro sql handle h
  simp at h

theorem HandlesFrom.insert (h : HandlesFrom texts statements) (hsql : texts sql) :
    HandlesFrom texts (statements.insert sql (.ofSql sql)) := by
  intro r handle hr
  rw [StatementCache.get?_insert] at hr
  split at hr
  · rename_i hsame
    cases hr
    exact ⟨sql, hsql, hsame, rfl⟩
  · exact h r handle hr

theorem HandlesFrom.prepare (h : HandlesFrom texts c.statements) (hsql : texts sql) :
    HandlesFrom texts (c.prepare (Link.driver s.receiving) sql).2.statements := by
  cases hheld : if c.config.cacheStatements then c.statements.get? sql else none with
  | some handle =>
      rw [prepare_of_kept hheld]
      exact h
  | none =>
      obtain ⟨next, -, -, ⟨-, hprepare⟩ | ⟨e, -, hprepare⟩⟩ := Link.prepare_cases s c.driver sql
      · rw [prepare_of_ok hheld hprepare]
        simp only
        split
        · exact h.insert hsql
        · exact h
      · rw [prepare_of_error hheld hprepare]
        exact h

theorem HandlesFrom.perform (h : HandlesFrom texts c.statements) {op : Operation}
    (htext : ∀ sql ∈ op.text?, texts sql) :
    HandlesFrom texts (c.perform (Link.driver s.receiving) op).2.statements := by
  cases hasks : op.asks with
  | none =>
      rw [perform_of_quiet hasks]
      simp only
      split
      · exact handlesFrom_empty
      · exact h
  | some asked =>
      cases asked with
      | error e =>
          rw [perform_of_rejected hasks]
          exact h
      | ok asked =>
          rw [perform_of_asks hasks, query_statements]
          exact HandlesFrom.prepare h (htext _ (Operation.text?_of_asks hasks))

theorem HandlesFrom.run (h : HandlesFrom texts c.statements) {ops : List Operation}
    (htexts : ∀ op ∈ ops, ∀ sql ∈ op.text?, texts sql) :
    HandlesFrom texts (c.run (Link.driver s.receiving) ops).2.statements := by
  induction ops generalizing c with
  | nil => exact h
  | cons op ops ih =>
      rw [List.forall_mem_cons] at htexts
      rw [run_cons]
      exact ih (h.perform htexts.1) htexts.2

end Handles

/-! ## One statement -/

def Accepts (s : Server τ) (c : Receiver τ) (sql : String) : Prop :=
  (c.held? (Text.trimmed sql)).isSome ∨
    (s.prepare c.driver.server.1 (Positional.ofSql (Text.trimmed sql)).sql).1 = .ok ()

structure Untouched (c k : Receiver τ) : Prop where
  received : k.received = c.received
  lastId : k.driver.lastId = c.driver.lastId

def Sends (s : Server τ) (c : Receiver τ) (sql : String) (arguments : Arguments)
    (values : List Value) : Prop :=
  (c.query (Link.driver s.receiving) sql arguments).2.received =
    c.received ++ [((Positional.ofSql (Text.trimmed sql)).sql, values)]

structure Refuses (s : Server τ) (c : Receiver τ) (sql : String) (arguments : Arguments)
    (fault : DriverError) : Prop where
  answer : (c.query (Link.driver s.receiving) sql arguments).1 = .error (.execution fault)
  untouched : c.Untouched (c.query (Link.driver s.receiving) sql arguments).2

section Statement

variable {sql : String} {arguments : Arguments}
  (hhandle : ∀ handle, c.held? (Text.trimmed sql) = some handle →
    handle = Positional.ofSql (Text.trimmed sql))

include hhandle

theorem prepare_cases :
    ∃ k, c.Untouched k ∧
      ((c.Accepts s sql ∧
          prepare (Link.driver s.receiving) { c with lastError := none } (Text.trimmed sql) =
            (.ok (.ofSql (Text.trimmed sql)), k)) ∨
        ¬ c.Accepts s sql ∧ ∃ e,
          (s.prepare c.driver.server.1 (Positional.ofSql (Text.trimmed sql)).sql).1 = .error e ∧
          prepare (Link.driver s.receiving) { c with lastError := none } (Text.trimmed sql) =
            (.error (.ofLink e), k)) := by
  cases hheld : c.held? (Text.trimmed sql) with
  | some handle =>
      obtain rfl := hhandle handle hheld
      have hprepare := prepare_of_kept (d := Link.driver s.receiving)
        (c := { c with lastError := none }) hheld
      exact ⟨{ c with lastError := none }, ⟨rfl, rfl⟩, .inl ⟨.inl (by simp [hheld]), hprepare⟩⟩
  | none =>
      obtain ⟨next, hserver, hid, ⟨haccepted, hprepare⟩ | ⟨e, hrefused, hprepare⟩⟩ :=
        Link.prepare_cases s c.driver (Text.trimmed sql)
      · refine ⟨_, ?_, .inl ⟨.inr haccepted,
          prepare_of_ok (c := { c with lastError := none }) hheld hprepare⟩⟩
        exact ⟨hserver, hid⟩
      · refine ⟨_, ?_, .inr ⟨?_, e, hrefused,
          prepare_of_error (c := { c with lastError := none }) hheld hprepare⟩⟩
        · exact ⟨hserver, hid⟩
        · simp [Accepts, hheld, hrefused]

theorem sends_of_ordered {values : List Value} (haccepts : c.Accepts s sql)
    (hvalues : Link.orderedValues (Positional.ofSql (Text.trimmed sql)).names arguments =
      .ok values) :
    c.Sends s sql arguments values := by
  obtain ⟨k, hsame, ⟨-, hprepare⟩ | ⟨hnot, -⟩⟩ := prepare_cases (s := s) hhandle
  · unfold Sends
    rw [received, query_driver hprepare, ← hsame.received]
    exact Link.received_of_ordered hvalues
  · contradiction

theorem refuses_of_unordered {fault : DriverError} (haccepts : c.Accepts s sql)
    (hfault : Link.orderedValues (Positional.ofSql (Text.trimmed sql)).names arguments =
      .error fault) :
    c.Refuses s sql arguments fault := by
  obtain ⟨k, hsame, ⟨-, hprepare⟩ | ⟨hnot, -⟩⟩ := prepare_cases (s := s) hhandle
  · have hquery := query_of_failed hprepare (Link.execute_of_unordered hfault)
    refine ⟨?_, ?_⟩
    · rw [hquery]
    · rw [hquery]
      exact ⟨hsame.received, hsame.lastId⟩
  · contradiction

theorem refuses_of_not_accepts (haccepts : ¬ c.Accepts s sql) :
    ∃ e, (s.prepare c.driver.server.1 (Positional.ofSql (Text.trimmed sql)).sql).1 = .error e ∧
      ∀ arguments, c.Refuses s sql arguments (.ofLink e) := by
  obtain ⟨k, hsame, ⟨hnot, -⟩ | ⟨-, e, hrefused, hprepare⟩⟩ := prepare_cases (s := s) hhandle
  · contradiction
  · refine ⟨e, hrefused, fun arguments => ⟨?_, ?_⟩⟩
    · rw [query_of_refused hprepare]
    · rw [query_of_refused hprepare]
      exact ⟨hsame.received, hsame.lastId⟩

theorem query_of_same_values {arguments' : Arguments}
    (hsame : Link.orderedValues (Positional.ofSql (Text.trimmed sql)).names arguments =
      Link.orderedValues (Positional.ofSql (Text.trimmed sql)).names arguments') :
    c.query (Link.driver s.receiving) sql arguments =
      c.query (Link.driver s.receiving) sql arguments' := by
  obtain ⟨k, -, ⟨-, hprepare⟩ | ⟨-, e, -, hprepare⟩⟩ := prepare_cases (s := s) hhandle
  · apply query_congr hprepare
    funext verb
    simp only [Link.driver, Link.execute, hsame]
  · rw [query_of_refused hprepare, query_of_refused hprepare]

end Statement

/-- After any run, the values of a statement depend on what is bound to the names in its SQL
and on nothing else of the bindings.  A server that accepts the text gets them in the order of
the names, or nothing at all if there is a name without a value. -/
theorem sends_values_by_name (s : Server τ) (start : Link (τ × List (String × List Value)))
    (config : Config) (ops : List Operation) (sql : String)
    (hsignature : config.cacheStatements = true →
      ∀ r ∈ Operation.texts ops, signature r = signature sql → r = Text.trimmed sql) :
    ∀ c, c = ((ofDriver start config).run (Link.driver s.receiving) ops).2 →
      (c.Accepts s sql →
        (∀ m : Bindings,
          (m.firstMissing? (Positional.ofSql sql).names = none →
            ∃ values, (Positional.ofSql sql).names.map m.get? = values.map some ∧
              c.Sends s sql (.named m) values) ∧
          ∀ name, m.firstMissing? (Positional.ofSql sql).names = some name →
            c.Refuses s sql (.named m) ⟨"HY093", "no value bound for parameter :" ++ name⟩) ∧
        ∀ values,
          ((Positional.ofSql sql).names = [] → c.Sends s sql (.positional values) values) ∧
          ((Positional.ofSql sql).names ≠ [] → c.Refuses s sql (.positional values)
            ⟨"HY093", "positional parameters given for a statement with named placeholders"⟩)) ∧
      (¬ c.Accepts s sql → ∃ e,
        (s.prepare c.driver.server.1 (Positional.ofSql (Text.trimmed sql)).sql).1 = .error e ∧
        ∀ arguments, c.Refuses s sql arguments (.ofLink e)) ∧
      ∀ m m' : Bindings, (∀ name ∈ (Positional.ofSql sql).names, m.get? name = m'.get? name) →
        c.query (Link.driver s.receiving) sql (.named m) =
          c.query (Link.driver s.receiving) sql (.named m') := by
  rintro c rfl
  have hhandles : HandlesFrom (· ∈ Operation.texts ops)
      ((ofDriver start config).run (Link.driver s.receiving) ops).2.statements := by
    apply HandlesFrom.run handlesFrom_empty
    exact fun op hop sql hsql => List.mem_filterMap.mpr ⟨op, hop, hsql⟩
  have hconfig : ((ofDriver start config).run (Link.driver s.receiving) ops).2.config = config :=
    run_config _ _ _
  generalize ((ofDriver start config).run (Link.driver s.receiving) ops).2 = c
    at hhandles hconfig ⊢
  have hhandle : ∀ handle, c.held? (Text.trimmed sql) = some handle →
      handle = Positional.ofSql (Text.trimmed sql) := by
    intro handle hheld
    unfold held? at hheld
    split at hheld
    · rename_i hcaching
      rw [hconfig] at hcaching
      obtain ⟨r, hr, hsame, rfl⟩ := hhandles _ _ hheld
      rw [hsignature hcaching r hr (by simpa [signature_eq_iff] using hsame)]
    · contradiction
  rw [← Text.names_trimmed]
  refine ⟨fun haccepts => ⟨fun m => ⟨fun hall => ?_, fun name hmissing => ?_⟩,
    fun values => ⟨fun hnames => ?_, fun hnames => ?_⟩⟩,
    refuses_of_not_accepts hhandle, fun m m' hsame => ?_⟩
  · obtain ⟨values, hvalues, hok⟩ := Link.exists_namedValues hall
    exact ⟨values, hvalues, sends_of_ordered hhandle haccepts hok⟩
  · exact refuses_of_unordered hhandle haccepts (Link.namedValues_of_missing hmissing)
  · apply sends_of_ordered hhandle haccepts
    simp [Link.orderedValues, hnames]
  · apply refuses_of_unordered hhandle haccepts
    simp [Link.orderedValues, hnames, DriverError.parameterCode]
  · exact query_of_same_values hhandle (Link.namedValues_congr hsame)

def twiceNamed : String :=
  "INSERT INTO t VALUES (:b, ':c', :a, :b)"

def rehearsal : List Operation :=
  [.query (" " ++ twiceNamed ++ "\n") (.named (.ofList [("a", .int 1), ("b", .int 2)]))]

def rehearsed : Receiver Nat :=
  ((ofDriver ⟨(3, []), 0⟩ { Config.ofUrl "" with cacheStatements := true }).run
    (Link.driver numbering.receiving) rehearsal).2

def allBound : Bindings :=
  .ofList [("c", .null), ("b", .int 5), ("a", .int 4)]

def oneMissing : Bindings :=
  .ofList [("b", .int 5), ("c", .null)]

/-- The handle is the one that was prepared for the text with blanks. -/
theorem sends_values_by_name_rehearsed :
    (∀ r ∈ Operation.texts rehearsal, signature r = signature twiceNamed →
        r = Text.trimmed twiceNamed) ∧
      (rehearsed.held? (Text.trimmed twiceNamed)).isSome = true ∧
      rehearsed.Sends numbering twiceNamed (.named allBound) [.int 5, .int 4, .int 5] ∧
      rehearsed.Refuses numbering twiceNamed (.named oneMissing)
        ⟨"HY093", "no value bound for parameter :a"⟩ := by
  have hsignature : ∀ r ∈ Operation.texts rehearsal, signature r = signature twiceNamed →
      r = Text.trimmed twiceNamed := by
    decide +kernel
  have hheld : (rehearsed.held? (Text.trimmed twiceNamed)).isSome = true := by decide +kernel
  obtain ⟨haccepted, -, -⟩ := sends_values_by_name numbering ⟨(3, []), 0⟩
    { Config.ofUrl "" with cacheStatements := true } rehearsal twiceNamed (fun _ => hsignature)
    rehearsed rfl
  have hnamed := (haccepted (.inl hheld)).1
  refine ⟨hsignature, hheld, ?_, (hnamed oneMissing).2 "a" (by decide +kernel)⟩
  obtain ⟨values, hvalues, hsends⟩ := (hnamed allBound).1 (by decide +kernel)
  have hfound : (Positional.ofSql twiceNamed).names.map allBound.get? =
      [Value.int 5, .int 4, .int 5].map some := by
    decide +kernel
  rw [hfound] at hvalues
  have hsame := List.map_injective_iff.mpr (fun _ _ => Option.some.inj) hvalues
  rwa [← hsame] at hsends

end Connection

end TableGateway
