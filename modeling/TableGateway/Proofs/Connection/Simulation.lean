import TableGateway.Connection
import TableGateway.Proofs.Digest.Signature

/-!
# Connections that cannot be told apart

Two connections, perhaps over different drivers, are paired when they agree on all that is
not about handles.  If preparing and executing a statement keeps a pair and gives the same
answers, then so does every operation, and so does every list of operations.
-/

namespace TableGateway

namespace Operation

def textOfBuilt : Except Error Statement → Option String
  | .ok statement => some (Text.trimmed statement.sql)
  | .error _ => none

def text? : Operation → Option String
  | .query sql _ => some (Text.trimmed sql)
  | .execute statement => some (Text.trimmed statement.sql)
  | .select table condition order limit offset =>
    textOfBuilt (Statement.select table condition order limit offset)
  | .insert table values mode => textOfBuilt (Statement.insert table values mode)
  | .update table values condition limit =>
    textOfBuilt (Statement.update table values condition limit)
  | .delete table condition limit => textOfBuilt (Statement.delete table condition limit)
  | .encrypt _ => none
  | .decrypt _ => none
  | .clearStatements => none

end Operation

namespace Connection

variable {σ η σ' η' : Type}

/-! ## One statement -/

section Query

variable {d : Driver σ η} {c k : Connection σ η} {sql : String} {arguments : Arguments}
  {handle : η} {fault : DriverError} {output : Output} {next : σ}

theorem query_of_refused
    (h : prepare d { c with lastError := none } (Text.trimmed sql) = (.error fault, k)) :
    c.query d sql arguments =
      (.error (.execution fault), { k with lastError := some fault.message }) := by
  rw [Text.trimmed] at h
  simp [query, h, recordFailure]

theorem query_of_failed
    (h : prepare d { c with lastError := none } (Text.trimmed sql) = (.ok handle, k))
    (hexecute : d.execute k.driver handle arguments (Verb.classify (Text.trimmed sql)) =
      (.error fault, next)) :
    c.query d sql arguments = (.error (.execution fault),
      { k with driver := next, lastError := some fault.message }) := by
  rw [Text.trimmed] at h hexecute
  simp [query, h, hexecute, recordFailure]

theorem query_of_executed
    (h : prepare d { c with lastError := none } (Text.trimmed sql) = (.ok handle, k))
    (hexecute : d.execute k.driver handle arguments (Verb.classify (Text.trimmed sql)) =
      (.ok output, next)) :
    c.query d sql arguments =
      (.ok ((Verb.classify (Text.trimmed sql)).interpret output (d.lastInsertId next)),
        { k with driver := next }) := by
  rw [Text.trimmed] at h hexecute ⊢
  simp [query, h, hexecute]

end Query

/-! ## Pairs of connections -/

/-- Two connections whose drivers and handles are in the relation `Kept` and that agree on
everything else; `keeps` and `keeps'` tell which of them keep handles. -/
structure Paired (Kept : σ → StatementCache η → σ' → StatementCache η' → Prop)
    (keeps keeps' : Bool) (c : Connection σ η) (c' : Connection σ' η') : Prop where
  keeps : c.config.cacheStatements = keeps
  keeps' : c'.config.cacheStatements = keeps'
  cipherKey : c.config.cipherKey = c'.config.cipherKey
  padding : c.config.padding = c'.config.padding
  cipher : c.cipher = c'.cipher
  lastError : c.lastError = c'.lastError
  kept : Kept c.driver c.statements c'.driver c'.statements

inductive Alike (R : Connection σ η → Connection σ' η' → Prop)
    (Handed : σ → η → σ' → η' → Prop) :
    Except DriverError η × Connection σ η → Except DriverError η' × Connection σ' η' → Prop where
  | refused {fault : DriverError} {k : Connection σ η} {k' : Connection σ' η'} (h : R k k') :
    Alike R Handed (.error fault, k) (.error fault, k')
  | prepared {handle : η} {handle' : η'} {k : Connection σ η} {k' : Connection σ' η'}
    (h : R k k') (hhanded : Handed k.driver handle k'.driver handle') :
    Alike R Handed (.ok handle, k) (.ok handle', k')

/-- What it takes that no operation tells paired connections apart, as long as the texts
that are executed are in `texts`.  `Handed` relates the handles for a text. -/
structure Simulation (d : Driver σ η) (d' : Driver σ' η') (keeps keeps' : Bool)
    (texts : String → Prop) where
  Kept : σ → StatementCache η → σ' → StatementCache η' → Prop
  Handed : String → σ → η → σ' → η' → Prop
  prepare : ∀ {c c' sql}, Paired Kept keeps keeps' c c' → texts sql →
    Alike (Paired Kept keeps keeps') (Handed sql) (c.prepare d sql) (c'.prepare d' sql)
  execute : ∀ {s m s' m' sql handle handle'}, Kept s m s' m' → Handed sql s handle s' handle' →
    ∀ arguments verb,
      (d.execute s handle arguments verb).1 = (d'.execute s' handle' arguments verb).1 ∧
      d.lastInsertId (d.execute s handle arguments verb).2 =
        d'.lastInsertId (d'.execute s' handle' arguments verb).2 ∧
      Kept (d.execute s handle arguments verb).2 m (d'.execute s' handle' arguments verb).2 m'
  clear : ∀ {s m s' m'}, Kept s m s' m' → Kept s .empty s' .empty

def Matched {α : Type} (R : Connection σ η → Connection σ' η' → Prop)
    (r : Except Error α × Connection σ η) (r' : Except Error α × Connection σ' η') : Prop :=
  r.1 = r'.1 ∧ R r.2 r'.2

theorem Matched.map {α β : Type} {R : Connection σ η → Connection σ' η' → Prop}
    {r : Except Error α × Connection σ η} {r' : Except Error α × Connection σ' η'}
    (h : Matched R r r') (f : α → β) : Matched R (r.1.map f, r.2) (r'.1.map f, r'.2) :=
  ⟨congrArg (Except.map f) h.1, h.2⟩

theorem Matched.bind {α β : Type} {R : Connection σ η → Connection σ' η' → Prop}
    {r : Except Error α × Connection σ η} {r' : Except Error α × Connection σ' η'}
    (h : Matched R r r') (f : α → Except Error β) :
    Matched R (r.1.bind f, r.2) (r'.1.bind f, r'.2) :=
  ⟨congrArg (Except.bind · f) h.1, h.2⟩

section Paired

variable {Kept : σ → StatementCache η → σ' → StatementCache η' → Prop} {keeps keeps' : Bool}
  {c : Connection σ η} {c' : Connection σ' η'}

theorem Paired.setLastError (h : Paired Kept keeps keeps' c c') (message : Option String) :
    Paired Kept keeps keeps' { c with lastError := message } { c' with lastError := message } :=
  { h with lastError := rfl }

theorem Paired.setDriver (h : Paired Kept keeps keeps' c c') {s : σ} {s' : σ'}
    (hkept : Kept s c.statements s' c'.statements) :
    Paired Kept keeps keeps' { c with driver := s } { c' with driver := s' } :=
  { h with kept := hkept }

theorem Paired.useCipher (h : Paired Kept keeps keeps' c c') :
    Matched (Paired Kept keeps keeps') c.useCipher c'.useCipher := by
  rw [Connection.useCipher, Connection.useCipher, ← h.cipher, ← h.cipherKey, ← h.padding]
  cases c.cipher with
  | some cipher => exact ⟨rfl, h⟩
  | none =>
      cases c.config.cipherKey with
      | none => exact ⟨rfl, h⟩
      | some raw => exact ⟨rfl, { h with cipher := rfl }⟩

end Paired

namespace Simulation

variable {d : Driver σ η} {d' : Driver σ' η'} {keeps keeps' : Bool} {texts : String → Prop}
  (S : Simulation d d' keeps keeps' texts) {c : Connection σ η} {c' : Connection σ' η'}

abbrev Rel : Connection σ η → Connection σ' η' → Prop :=
  Paired S.Kept keeps keeps'

include S

theorem query (h : S.Rel c c') {sql : String} (htext : texts (Text.trimmed sql))
    (arguments : Arguments) :
    Matched S.Rel (c.query d sql arguments) (c'.query d' sql arguments) := by
  have halike := S.prepare (h.setLastError none) htext
  generalize hk : Connection.prepare d _ _ = result at halike
  generalize hk' : Connection.prepare d' _ _ = result' at halike
  cases halike with
  | @refused fault k k' hpaired =>
      rw [query_of_refused hk, query_of_refused hk']
      exact ⟨rfl, hpaired.setLastError (some fault.message)⟩
  | @prepared handle handle' k k' hpaired hhanded =>
      obtain ⟨hreply, hid, hkept⟩ :=
        S.execute hpaired.kept hhanded arguments (Verb.classify (Text.trimmed sql))
      generalize hrun : d.execute k.driver handle arguments _ = result at hreply hid hkept
      generalize hrun' : d'.execute k'.driver handle' arguments _ = result' at hreply hid hkept
      obtain ⟨reply, next⟩ := result
      obtain ⟨reply', next'⟩ := result'
      cases hreply
      cases reply with
      | error fault =>
          rw [query_of_failed hk hrun, query_of_failed hk' hrun']
          exact ⟨rfl, (hpaired.setDriver hkept).setLastError (some fault.message)⟩
      | ok output =>
          rw [query_of_executed hk hrun, query_of_executed hk' hrun']
          exact ⟨by rw [hid], hpaired.setDriver hkept⟩

theorem executeBuilt (h : S.Rel c c') {built : Except Error Statement}
    (htext : ∀ sql ∈ Operation.textOfBuilt built, texts sql) {α : Type} (read : Outcome → α) :
    Matched S.Rel (c.executeBuilt d built read) (c'.executeBuilt d' built read) := by
  cases built with
  | error e => exact ⟨rfl, h⟩
  | ok statement =>
      exact (S.query h (htext _ rfl) (.named statement.bindings)).map read

theorem perform (h : S.Rel c c') {op : Operation} (htext : ∀ sql ∈ op.text?, texts sql) :
    Matched S.Rel (c.perform d op) (c'.perform d' op) := by
  cases op with
  | query sql arguments => exact (S.query h (htext _ rfl) arguments).map Answer.outcome
  | execute statement =>
      exact (S.query h (htext _ rfl) (.named statement.bindings)).map Answer.outcome
  | select table condition order limit offset => exact (S.executeBuilt h htext _).map Answer.rows
  | insert table values mode => exact (S.executeBuilt h htext _).map Answer.count
  | update table values condition limit => exact (S.executeBuilt h htext _).map Answer.count
  | delete table condition limit => exact (S.executeBuilt h htext _).map Answer.count
  | encrypt plain => exact (h.useCipher.map (·.encrypt plain)).map Answer.bytes
  | decrypt bytes => exact (h.useCipher.bind (·.decrypt bytes)).map Answer.bytes
  | clearStatements => exact ⟨rfl, { h with kept := S.clear h.kept }⟩

end Simulation

/-! ## Lists of operations -/

/-- The answers to a list of operations, each with what `see` shows of the connection
behind it. -/
def observed {β : Type} (see : Connection σ η → β) (d : Driver σ η) (c : Connection σ η) :
    List Operation → List (Except Error Answer × β)
  | [] => []
  | op :: ops =>
    ((c.perform d op).1, see (c.perform d op).2) :: observed see d (c.perform d op).2 ops

theorem run_eq_observed (d : Driver σ η) (c : Connection σ η) (ops : List Operation) :
    (c.run d ops).1 = (observed (·.lastError) d c ops).map (·.1) := by
  induction ops generalizing c with
  | nil => rfl
  | cons op ops ih => simp [run, observed, ih]

theorem Simulation.observed {d : Driver σ η} {d' : Driver σ' η'} {keeps keeps' : Bool}
    {texts : String → Prop} (S : Simulation d d' keeps keeps' texts) {β : Type}
    {see : Connection σ η → β} {see' : Connection σ' η' → β}
    (hsee : ∀ {c c'}, S.Rel c c' → see c = see' c') {ops : List Operation}
    (htexts : ∀ op ∈ ops, ∀ sql ∈ op.text?, texts sql) {c : Connection σ η}
    {c' : Connection σ' η'} (h : S.Rel c c') :
    Connection.observed see d c ops = Connection.observed see' d' c' ops := by
  induction ops generalizing c c' with
  | nil => rfl
  | cons op ops ih =>
      rw [List.forall_mem_cons] at htexts
      obtain ⟨hanswer, hpaired⟩ := S.perform h htexts.1
      rw [Connection.observed, Connection.observed, hanswer, hsee hpaired, ih htexts.2 hpaired]

end Connection

end TableGateway
