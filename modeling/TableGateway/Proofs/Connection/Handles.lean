import Mathlib.Data.List.Dedup
import TableGateway.Proofs.Connection.Caching
import TableGateway.Proofs.Connection.Course

/-!
# Where handles come from

The handles at hand are told from the calls made so far: those that were prepared since the
handles were last dropped.  A statement is executed once with the handle that was prepared
for its very text, and it is prepared only if there is none.
-/

namespace TableGateway

variable {σ η : Type}

/-! ## The handles behind some rounds -/

def Call.prepared? : Call η → Option (String × η)
  | .prepare sql (.ok handle) => some (sql, handle)
  | .prepare _ (.error _) => none
  | .execute _ _ _ _ => none

def Call.isPrepare : Call η → Bool
  | .prepare _ _ => true
  | .execute _ _ _ _ => false

def remember (kept : List (String × η)) (round : Round η) : List (String × η) :=
  if round.op.clears then [] else kept ++ round.calls.filterMap Call.prepared?

/-- What was prepared since the handles were last dropped. -/
def prepared (rounds : List (Round η)) : List (String × η) :=
  rounds.foldl remember []

def atHand (keeps : Bool) (rounds : List (Round η)) : List (String × η) :=
  if keeps then prepared rounds else []

section AtHand

variable {keeps : Bool} {prior : List (Round η)} {round : Round η}

theorem atHand_of_clears (h : round.op.clears) : atHand keeps (prior ++ [round]) = [] := by
  simp [atHand, prepared, remember, h]

theorem atHand_of_not_clears (h : round.op.clears = false) :
    atHand keeps (prior ++ [round]) = atHand keeps prior ++
      if keeps then round.calls.filterMap Call.prepared? else [] := by
  cases keeps <;> simp [atHand, prepared, remember, h]

end AtHand

/-- What may be called for a text that is asked for while some handles are kept. -/
inductive Served (kept : List (String × η)) (sql : String) (arguments : Arguments) :
    List (Call η) → Prop where
  | reused {handle : η} {result : Except DriverError Output} (h : (sql, handle) ∈ kept) :
      Served kept sql arguments [.execute handle arguments (Verb.classify sql) result]
  | refused {fault : DriverError} (h : ∀ handle, (sql, handle) ∉ kept) :
      Served kept sql arguments [.prepare sql (.error fault)]
  | prepared {handle : η} {result : Except DriverError Output}
      (h : ∀ handle, (sql, handle) ∉ kept) :
      Served kept sql arguments
        [.prepare sql (.ok handle), .execute handle arguments (Verb.classify sql) result]

theorem Served.countP_isPrepare {sql : String} {arguments : Arguments} {calls : List (Call η)}
    (h : Served [] sql arguments calls) : calls.countP Call.isPrepare = 1 := by
  cases h with
  | reused h => cases h
  | refused => rfl
  | prepared => rfl

def Operation.Serves (op : Operation) (kept : List (String × η)) (calls : List (Call η)) : Prop :=
  match op.asks with
  | some (.ok (sql, arguments)) => Served kept (Text.trimmed sql) arguments calls
  | some (.error _) => calls = []
  | none => calls = []

namespace StatementCache

structure Holds (texts : String → Prop) (m : StatementCache η) (kept : List (String × η)) :
    Prop where
  get?_eq : ∀ sql, texts sql → ∀ handle, m.get? sql = some handle ↔ (sql, handle) ∈ kept
  nodup : (kept.map Prod.fst).Nodup
  size_eq : m.size = kept.length

variable {texts : String → Prop} {m : StatementCache η} {kept : List (String × η)} {sql : String}

theorem holds_empty : (empty : StatementCache η).Holds texts [] where
  get?_eq := by simp
  nodup := List.nodup_nil
  size_eq := rfl

theorem Holds.notMem (h : m.Holds texts kept) (hsql : texts sql) (hnew : m.get? sql = none)
    (handle : η) : (sql, handle) ∉ kept := by
  intro hmem
  rw [← h.get?_eq sql hsql, hnew] at hmem
  cases hmem

theorem size_insert (h : m.get? sql = none) (handle : η) :
    (m.insert sql handle).size = m.size + 1 := by
  have hnew : signature sql ∉ m.handles := by
    rw [Std.TreeMap.mem_iff_isSome_getElem?]
    simpa [get?] using h
  simp [size, insert, Std.TreeMap.size_insert, hnew]

theorem Holds.insert
    (hsignature : ∀ r s, texts r → texts s → signature r = signature s → r = s)
    (h : m.Holds texts kept) (hsql : texts sql) (hnew : m.get? sql = none) (handle : η) :
    (m.insert sql handle).Holds texts (kept ++ [(sql, handle)]) where
  get?_eq sql' hsql' handle' := by
    rw [get?_insert, List.mem_append, List.mem_singleton, ← h.get?_eq sql' hsql']
    by_cases hsame : sql = sql'
    · subst hsame
      simp [hnew, eq_comm]
    · have hother : signature sql ≠ signature sql' :=
        fun heq => hsame (hsignature sql sql' hsql hsql' heq)
      simp [hother, Ne.symm hsame]
  nodup := by
    have hfresh : sql ∉ kept.map Prod.fst := by
      intro hmem
      obtain ⟨⟨_, held⟩, hheld, rfl⟩ := List.mem_map.mp hmem
      exact h.notMem hsql hnew held hheld
    rw [List.map_append, List.map_singleton, ← List.concat_eq_append, List.nodup_concat]
    exact ⟨hfresh, h.nodup⟩
  size_eq := by rw [size_insert hnew, h.size_eq, List.length_append, List.length_singleton]

end StatementCache

namespace Operation

variable {op : Operation} {asked : Except Error (String × Arguments)}

theorem clears_of_asks (h : op.asks = some asked) : op.clears = false := by
  cases op with
  | clearStatements => contradiction
  | _ => rfl

end Operation

namespace Connection

variable {d : Driver σ η} {c : Connection σ η} {op : Operation} {sql : String}
  {arguments : Arguments} {texts : String → Prop} {prior : List (Round η)}

def Recalls (texts : String → Prop) (c : Connection σ η) (prior : List (Round η)) : Prop :=
  c.statements.Holds texts (atHand c.config.cacheStatements prior)

theorem Recalls.held?_eq (h : c.Recalls texts prior) (hsql : texts sql) (handle : η) :
    c.held? sql = some handle ↔ (sql, handle) ∈ atHand c.config.cacheStatements prior := by
  cases hkeeps : c.config.cacheStatements with
  | false => simp [held?, atHand, hkeeps]
  | true =>
      rw [Recalls, hkeeps] at h
      rw [← h.get?_eq sql hsql, held?, hkeeps, if_pos rfl]

theorem Recalls.notMem (h : c.Recalls texts prior) (hsql : texts sql) (hnone : c.held? sql = none)
    (handle : η) : (sql, handle) ∉ atHand c.config.cacheStatements prior := by
  intro hmem
  rw [← h.held?_eq hsql, hnone] at hmem
  cases hmem

theorem Recalls.unchanged (h : c.Recalls texts prior) {k : Connection σ η} {round : Round η}
    (hconfig : k.config = c.config) (hstatements : k.statements = c.statements)
    (hclears : round.op.clears = false)
    (hcalls : (if c.config.cacheStatements then round.calls.filterMap Call.prepared? else []) =
      []) : k.Recalls texts (prior ++ [round]) := by
  rw [Recalls, hconfig, hstatements, atHand_of_not_clears hclears, hcalls, List.append_nil]
  exact h

theorem Recalls.quiet (h : c.Recalls texts prior) (hasks : op.asks = none) :
    (c.perform d op).2.Recalls texts (prior ++ [⟨op, []⟩]) := by
  have hbehind := perform_of_quiet (d := d) (c := c) hasks
  cases hclears : op.clears with
  | false =>
      rw [hclears] at hbehind
      exact h.unchanged (by rw [hbehind]) (by rw [hbehind]; rfl) hclears (by simp)
  | true =>
      rw [hclears] at hbehind
      rw [Recalls, atHand_of_clears hclears, hbehind]
      exact StatementCache.holds_empty

theorem Recalls.prepared
    (hsignature : ∀ r s, texts r → texts s → signature r = signature s → r = s)
    (h : c.Recalls texts prior) (hsql : texts sql) (hnone : c.held? sql = none)
    {k : Connection σ η} {round : Round η} {handle : η} (hconfig : k.config = c.config)
    (hstatements : k.statements =
      if c.config.cacheStatements then c.statements.insert sql handle else c.statements)
    (hclears : round.op.clears = false)
    (hcalls : round.calls.filterMap Call.prepared? = [(sql, handle)]) :
    k.Recalls texts (prior ++ [round]) := by
  cases hkeeps : c.config.cacheStatements with
  | false =>
      rw [hkeeps] at hstatements
      exact h.unchanged hconfig hstatements hclears (by simp [hkeeps])
  | true =>
      rw [hkeeps] at hstatements
      rw [held?, hkeeps] at hnone
      rw [Recalls, hkeeps] at h
      rw [Recalls, hconfig, hkeeps, hstatements, atHand_of_not_clears hclears, hcalls]
      exact h.insert hsignature hsql hnone handle

theorem Recalls.perform
    (hsignature : ∀ r s, texts r → texts s → signature r = signature s → r = s)
    (h : c.Recalls texts prior) (htext : ∀ sql ∈ op.text?, texts sql) :
    (c.perform d op).2.Recalls texts (prior ++ [⟨op, c.callsOf d op⟩]) ∧
      op.Serves (atHand c.config.cacheStatements prior) (c.callsOf d op) := by
  unfold Operation.Serves
  cases hasks : op.asks with
  | none =>
      rw [callsOf_of_quiet hasks]
      exact ⟨h.quiet hasks, rfl⟩
  | some asked =>
      have hclears := Operation.clears_of_asks hasks
      cases asked with
      | error e =>
          rw [callsOf_of_rejected hasks, perform_of_rejected hasks]
          exact ⟨h.unchanged rfl rfl hclears (by simp), rfl⟩
      | ok asked =>
          obtain ⟨sql, arguments⟩ := asked
          have hsql := htext _ (Operation.text?_of_asks hasks)
          obtain ⟨handle, result, hheld, hleads⟩ | ⟨hnone, fault, hleads⟩ |
            ⟨hnone, handle, result, hleads⟩ := leads_cases d c sql arguments
          -- Only the last case has a handle prepared, so only there something is kept anew.
          all_goals
            obtain ⟨hconfig, hstatements⟩ := perform_of_leads hasks hleads
            rw [callsOf_of_leads hasks hleads]
          · exact ⟨h.unchanged hconfig hstatements hclears (by simp [Call.prepared?]),
              .reused ((h.held?_eq hsql handle).mp hheld)⟩
          · exact ⟨h.unchanged hconfig hstatements hclears (by simp [Call.prepared?]),
              .refused (h.notMem hsql hnone)⟩
          · exact ⟨h.prepared hsignature hsql hnone hconfig hstatements hclears rfl,
              .prepared (h.notMem hsql hnone)⟩

/-! ## Lists of operations -/

theorem recalls_ofDriver (start : σ) (config : Config) :
    (ofDriver start config : Connection σ η).Recalls texts [] := by
  have hnone : atHand config.cacheStatements ([] : List (Round η)) = [] := ite_self []
  rw [Recalls]
  exact hnone ▸ StatementCache.holds_empty

theorem Recalls.run
    (hsignature : ∀ r s, texts r → texts s → signature r = signature s → r = s)
    (h : c.Recalls texts prior) {ops : List Operation}
    (htexts : ∀ op ∈ ops, ∀ sql ∈ op.text?, texts sql) :
    (c.run d ops).2.Recalls texts (prior ++ c.rounds d ops) := by
  induction ops generalizing c prior with
  | nil => simpa [Connection.run, rounds] using h
  | cons op ops ih =>
      rw [List.forall_mem_cons] at htexts
      have hnext := (h.perform (d := d) hsignature htexts.1).1
      simpa [Connection.run, rounds] using ih hnext htexts.2

section Prefix

variable (d) (start : σ) (config : Config) {ops first : List Operation}
  (hdigests : ∀ r ∈ Operation.texts ops, ∀ s ∈ Operation.texts ops,
    Sha256.digest (Text.utf8 r) = Sha256.digest (Text.utf8 s) → r = s)

include hdigests

theorem recalls_of_prefix (hfirst : first <+: ops) :
    ((ofDriver start config).run d first).2.Recalls (· ∈ Operation.texts ops)
      (rounds d (ofDriver start config) first) := by
  have hstart : (ofDriver start config : Connection σ η).Recalls (· ∈ Operation.texts ops) [] :=
    recalls_ofDriver start config
  exact hstart.run (Operation.signature_injOn_texts hdigests) fun op hop sql hsql =>
    List.mem_filterMap.mpr ⟨op, hfirst.subset hop, hsql⟩

theorem holds_of_prefix (hfirst : first <+: ops) :
    ((ofDriver start config).run d first).2.statements.Holds (· ∈ Operation.texts ops)
      (atHand config.cacheStatements (rounds d (ofDriver start config) first)) := by
  have hrecalls := recalls_of_prefix d start config hdigests hfirst
  rw [Recalls, run_config] at hrecalls
  exact hrecalls

theorem serves_of_prefix (hfirst : first ++ [op] <+: ops) :
    op.Serves (atHand config.cacheStatements (rounds d (ofDriver start config) first))
      (callsOf d ((ofDriver start config).run d first).2 op) := by
  have hop : op ∈ ops := hfirst.subset (by simp)
  have hrecalls := recalls_of_prefix d start config hdigests
    ((List.prefix_append first [op]).trans hfirst)
  have hnext := hrecalls.perform (d := d) (Operation.signature_injOn_texts hdigests)
    fun sql hsql => List.mem_filterMap.mpr ⟨op, hop, hsql⟩
  rw [run_config] at hnext
  exact hnext.2

end Prefix

/-- At every point of a list of operations, what is called is told from the handles that were
prepared since they were last dropped, and these are the handles that are kept. -/
theorem serves_and_keeps (d : Driver σ η) (start : σ) (config : Config) (ops : List Operation)
    (hdigests : ∀ r ∈ Operation.texts ops, ∀ s ∈ Operation.texts ops,
      Sha256.digest (Text.utf8 r) = Sha256.digest (Text.utf8 s) → r = s) :
    (∀ first op, first ++ [op] <+: ops →
      op.Serves (atHand config.cacheStatements (rounds d (ofDriver start config) first))
        (callsOf d ((ofDriver start config).run d first).2 op)) ∧
    (config.cacheStatements = true → ∀ first, first <+: ops →
      ((prepared (rounds d (ofDriver start config) first)).map Prod.fst).Nodup ∧
      ((ofDriver start config).run d first).2.cachedStatements =
        ((prepared (rounds d (ofDriver start config) first)).map Prod.fst).dedup.length) ∧
    (config.cacheStatements = false →
      (∀ first, first <+: ops →
        ((ofDriver start config).run d first).2.cachedStatements = 0) ∧
      ∀ first op asked, first ++ [op] <+: ops → op.asks = some (.ok asked) →
        (callsOf d ((ofDriver start config).run d first).2 op).countP Call.isPrepare = 1) ∧
    ((ofDriver (start, []) config).run d.traced ops).2.driver.2 =
      (rounds d (ofDriver start config) ops).flatMap Round.calls := by
  refine ⟨fun first op hfirst => serves_of_prefix d start config hdigests hfirst,
    fun hkeeps first hfirst => ?_,
    fun hkeeps => ⟨fun first hfirst => ?_, fun first op asked hfirst hasks => ?_⟩, ?_⟩
  · have hholds := holds_of_prefix d start config hdigests hfirst
    rw [hkeeps] at hholds
    have hnodup : ((prepared (rounds d (ofDriver start config) first)).map Prod.fst).Nodup :=
      hholds.nodup
    rw [hnodup.dedup, List.length_map]
    exact ⟨hnodup, hholds.size_eq⟩
  · have hholds := holds_of_prefix d start config hdigests hfirst
    rw [hkeeps] at hholds
    exact hholds.size_eq
  · have hserves := serves_of_prefix d start config hdigests hfirst
    rw [Operation.Serves, hasks, hkeeps] at hserves
    exact hserves.countP_isPrepare
  · exact congrArg (fun r => r.2.driver.2) (run_traced d (ofDriver start config) ops [])

/-- One handle serves a text with blanks and without, and the empty text is refused. -/
theorem serves_and_keeps_once :
    ((ofDriver Once.fresh { Config.ofUrl "mysql://a" with cacheStatements := true }).run
      Once.driver (Once.visits.take 3)).2.cachedStatements = 1 := by
  obtain ⟨-, hkeeps, -⟩ := serves_and_keeps Once.driver Once.fresh
    { Config.ofUrl "mysql://a" with cacheStatements := true } (Once.visits.take 3)
    (by decide +kernel)
  rw [(hkeeps rfl _ List.prefix_rfl).2]
  decide +kernel

end Connection

end TableGateway
