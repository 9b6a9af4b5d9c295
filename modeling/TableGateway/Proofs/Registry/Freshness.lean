import TableGateway.Proofs.Registry.Events

/-!
# Connections and the configurations they were made with

A connection is fresh while it has the configuration of its name.  Setting a configuration
lets go of a connection, but not of the calls on their way: one that settles late, with
a configuration that is no longer the one of its name, stores a connection that is not
fresh.  Nothing else does.
-/

namespace TableGateway.Registry

variable {σ η : Type}

namespace Shared

/-- The connection of a name, if there is one, was made with the configuration of the name. -/
def Fresh (s : Shared σ η) (name : String) : Prop :=
  ∀ place : Nat, s.registry.live[name]? = some place →
    ∃ connection, s.registry.pool[place]? = some connection ∧
      s.registry.config? name = some connection.config

def Stale (s : Shared σ η) (name : String) : Prop :=
  ∃ (place : Nat) (connection : Connection σ η), s.registry.live[name]? = some place ∧
    s.registry.pool[place]? = some connection ∧ s.registry.config? name ≠ some connection.config

theorem fresh_iff_not_stale {s : Shared σ η} (h : s.Pooled) (name : String) :
    s.Fresh name ↔ ¬ s.Stale name := by
  constructor
  · rintro hfresh ⟨place, connection, hlive, hpool, hconfig⟩
    obtain ⟨connection', hpool', hconfig'⟩ := hfresh place hlive
    rw [hpool] at hpool'
    cases hpool'
    exact hconfig hconfig'
  · intro hstale place hlive
    obtain ⟨connection, hpool⟩ := h name place hlive
    refine ⟨connection, hpool, ?_⟩
    by_cases hconfig : s.registry.config? name = some connection.config
    · exact hconfig
    · exact absurd ⟨place, connection, hlive, hpool, hconfig⟩ hstale

/-! ## Calls that settle late -/

/-- Whether `e` settles a call for a name with a configuration that the call saw when it
asked, and that is no longer the one of the name, while no connection is live. -/
def SettlesLate (η : Type) (past : List (Event σ)) (e : Event σ) (name : String) : Prop :=
  ∃ before between call driver seen current,
    past = before ++ .ask call name :: between ∧ e = .settle call (.ok driver) ∧
    (after η before).registry.lookup name = .unconnected seen ∧
    (after η past).pending.find? (·.call == call) = some ⟨call, name, seen⟩ ∧
    (after η past).registry.lookup name = .unconnected current ∧ current ≠ seen

/-- Whether the connection of a name is that of a call that settled late. -/
def Overtaken (η : Type) (events : List (Event σ)) (name : String) : Prop :=
  ∃ past e rest, events = past ++ e :: rest ∧ SettlesLate η past e name ∧
    ∀ e' ∈ rest, e'.releases name = false

theorem lookup_eq_unconnected {r : Registry σ η} {name : String} {config : Config} :
    r.lookup name = .unconnected config ↔ r.live[name]? = none ∧ r.config? name = some config := by
  rw [Registry.lookup, Registry.config?]
  cases r.live[name]? with
  | some place => simp
  | none => cases r.configs[name]? <;> simp

theorem config_of_prefix {before : List (Event σ)} {name : String} {config : Config}
    (h : (after η before).registry.config? name = some config) (rest : List (Event σ)) :
    ∃ current, (after η (before ++ rest)).registry.config? name = some current := by
  rw [config_after] at h
  rw [config_after, lastConfigured_append, h]
  cases lastConfigured name rest with
  | none => exact ⟨config, rfl⟩
  | some current => exact ⟨current, rfl⟩

theorem settlesLate_iff {past : List (Event σ)} {e : Event σ} {name : String} :
    SettlesLate η past e name ↔ ∃ config, (after η past).Stores e name config ∧
      (after η past).registry.config? name ≠ some config := by
  constructor
  · rintro ⟨before, between, call, driver, seen, current, -, he, -, hfound, hlookup, hchanged⟩
    obtain ⟨hlive, hconfig⟩ := lookup_eq_unconnected.mp hlookup
    refine ⟨seen, ⟨call, driver, he, hfound, hlive⟩, ?_⟩
    rw [hconfig]
    exact fun heq => hchanged (Option.some.inj heq)
  · rintro ⟨config, ⟨call, driver, he, hfound, hlive⟩, hchanged⟩
    -- Configurations are never taken back, so the name still has one when the call settles.
    obtain ⟨before, between, hsplit, hlookup⟩ :=
      exists_ask_of_pending (List.mem_of_find?_eq_some hfound)
    have hseen := (lookup_eq_unconnected.mp hlookup).2
    obtain ⟨current, hcurrent⟩ := config_of_prefix hseen (.ask call name :: between)
    rw [← hsplit] at hcurrent
    refine ⟨before, between, call, driver, config, current, hsplit, he, hlookup, hfound,
      lookup_eq_unconnected.mpr ⟨hlive, hcurrent⟩, ?_⟩
    rintro rfl
    exact hchanged hcurrent

theorem SettlesLate.exists_configure {past : List (Event σ)} {e : Event σ} {name : String}
    (h : SettlesLate η past e name) :
    ∃ before between call current, past = before ++ .ask call name :: between ∧
      .configure name current ∈ between := by
  obtain ⟨before, between, call, driver, seen, current, rfl, -, hasked, -, hlookup, hchanged⟩ := h
  have hseen := (lookup_eq_unconnected.mp hasked).2
  have hcurrent := (lookup_eq_unconnected.mp hlookup).2
  rw [config_after] at hseen hcurrent
  refine ⟨before, between, call, current, rfl, exists_configure_of_lastConfigured ?_⟩
  rw [lastConfigured_append, hseen] at hcurrent
  have hask : lastConfigured name (.ask call name :: between) = lastConfigured name between := rfl
  rw [hask] at hcurrent
  cases hbetween : lastConfigured name between with
  | none =>
      rw [hbetween] at hcurrent
      exact absurd (Option.some.inj hcurrent).symm hchanged
  | some config =>
      rw [hbetween] at hcurrent
      exact hcurrent

/-! ## One event more -/

theorem overtaken_concat {events : List (Event σ)} {e : Event σ} {name : String} :
    Overtaken η (events ++ [e]) name ↔
      (Overtaken η events name ∧ e.releases name = false) ∨ SettlesLate η events e name := by
  constructor
  · rintro ⟨past, e', rest, hsplit, hlate, hkept⟩
    rcases List.eq_nil_or_concat rest with rfl | ⟨rest, last, rfl⟩
    · obtain ⟨rfl, rfl⟩ := List.append_singleton_inj.mp hsplit
      exact .inr hlate
    · rw [List.concat_eq_append] at hsplit hkept
      have hsplit' : events ++ [e] = (past ++ e' :: rest) ++ [last] := by
        rw [hsplit, List.append_assoc, List.cons_append]
      obtain ⟨rfl, rfl⟩ := List.append_singleton_inj.mp hsplit'
      refine .inl ⟨⟨past, e', rest, rfl, hlate, ?_⟩, hkept e (by simp)⟩
      exact fun d hd => hkept d (List.mem_append_left _ hd)
  · rintro (⟨⟨past, e', rest, rfl, hlate, hkept⟩, hkeeps⟩ | hlate)
    · refine ⟨past, e', rest ++ [e], by simp, hlate, ?_⟩
      intro d hd
      rcases List.mem_append.mp hd with hd | hd
      · exact hkept d hd
      · rwa [List.mem_singleton.mp hd]
    · exact ⟨events, e, [], rfl, hlate, fun d hd => absurd hd List.not_mem_nil⟩

theorem stale_act_of_keeps {s : Shared σ η} (hpooled : s.Pooled) {e : Event σ} {name : String}
    (hreleases : e.releases name = false)
    (hlive : (s.act e).2.registry.live[name]? = s.registry.live[name]?) :
    (s.act e).2.Stale name ↔ s.Stale name := by
  have hconfig : (s.act e).2.registry.config? name = s.registry.config? name := by
    rw [config_act, Event.configured?_eq_none hreleases, Option.none_or]
  constructor
  · rintro ⟨place, connection, hplace, hpool, hstale⟩
    rw [hlive] at hplace
    rw [hconfig] at hstale
    obtain ⟨connection', hpool'⟩ := hpooled name place hplace
    rw [pool_act s e hpool'] at hpool
    cases hpool
    exact ⟨place, connection, hplace, hpool', hstale⟩
  · rintro ⟨place, connection, hplace, hpool, hstale⟩
    rw [← hlive] at hplace
    rw [← hconfig] at hstale
    exact ⟨place, connection, hplace, pool_act s e hpool, hstale⟩

theorem stale_act_of_stores {s : Shared σ η} {e : Event σ} {name : String} {config : Config}
    (hstores : s.Stores e name config) :
    (s.act e).2.Stale name ↔ s.registry.config? name ≠ some config := by
  obtain ⟨hlive, hpool⟩ := act_of_stores hstores
  have hconfig : (s.act e).2.registry.config? name = s.registry.config? name := by
    rw [config_act, Event.configured?_eq_none hstores.releases_eq_false, Option.none_or]
  obtain ⟨connection, hconnection, hmade⟩ := Option.map_eq_some_iff.mp hpool
  constructor
  · rintro ⟨place, connection', hplace, hpool', hstale⟩
    rw [hlive] at hplace
    cases hplace
    rw [hconnection] at hpool'
    cases hpool'
    rwa [hconfig, hmade] at hstale
  · intro hstale
    refine ⟨s.registry.pool.size, connection, hlive, hconnection, ?_⟩
    rwa [hconfig, hmade]

theorem stale_concat {events : List (Event σ)} {e : Event σ} {name : String} :
    (after η (events ++ [e])).Stale name ↔
      ((after η events).Stale name ∧ e.releases name = false) ∨ SettlesLate η events e name := by
  rw [after_concat, settlesLate_iff]
  have hpooled : (after η events).Pooled := pooled_after events
  generalize after η events = s at hpooled ⊢
  -- A name whose connection is let go of is not stale, and one that gets a connection was
  -- not stale before, since nothing was live.
  rcases live_act_cases s e name with
    ⟨hreleases, hlive⟩ | ⟨config, hstores, -⟩ | ⟨hreleases, hnot, hlive⟩
  · constructor
    · rintro ⟨place, connection, hplace, -⟩
      rw [hlive] at hplace
      contradiction
    · rintro (⟨-, hkeeps⟩ | ⟨config, hstores, -⟩)
      · rw [hreleases] at hkeeps
        contradiction
      · rw [hstores.releases_eq_false] at hreleases
        contradiction
  · rw [stale_act_of_stores hstores]
    constructor
    · intro hstale
      exact .inr ⟨config, hstores, hstale⟩
    · rintro (⟨⟨place, connection, hplace, -⟩, -⟩ | ⟨config', hstores', hstale⟩)
      · obtain ⟨call, driver, -, -, hnone⟩ := hstores
        rw [hnone] at hplace
        contradiction
      · rwa [hstores.config_unique hstores']
  · rw [stale_act_of_keeps hpooled hreleases hlive]
    constructor
    · intro hstale
      exact .inl ⟨hstale, hreleases⟩
    · rintro (⟨hstale, -⟩ | ⟨config, hstores, -⟩)
      · exact hstale
      · exact absurd hstores (hnot config)

/-! ## Runs -/

theorem stale_after_iff (events : List (Event σ)) (name : String) :
    (after η events).Stale name ↔ Overtaken η events name := by
  induction events using List.reverseRecOn with
  | nil =>
      constructor
      · rintro ⟨place, connection, hplace, -⟩
        simp [after, run, empty, Registry.empty] at hplace
      · rintro ⟨past, e, rest, hsplit, -⟩
        simp at hsplit
  | append_singleton events e ih => rw [stale_concat, overtaken_concat, ih]

theorem fresh_after_iff (events : List (Event σ)) (name : String) :
    (after η events).Fresh name ↔ ¬ Overtaken η events name := by
  rw [fresh_iff_not_stale (pooled_after events), stale_after_iff]

theorem fresh_iff_of_live {s : Shared σ η} {name : String} {place : Nat}
    {connection : Connection σ η} (hlive : s.registry.live[name]? = some place)
    (hpool : s.registry.pool[place]? = some connection) :
    s.Fresh name ↔ s.registry.config? name = some connection.config := by
  constructor
  · intro hfresh
    obtain ⟨connection', hpool', hconfig⟩ := hfresh place hlive
    rw [hpool] at hpool'
    cases hpool'
    exact hconfig
  · intro hconfig place' hlive'
    rw [hlive] at hlive'
    cases hlive'
    exact ⟨connection, hpool, hconfig⟩

/-- The connection of a name has the configuration of the name, and whoever is given a
connection is given one with the configuration that was set last, unless a call that
settled late overtook that configuration. -/
theorem fresh_iff_not_overtaken (events : List (Event σ)) (name : String) :
    ((after η events).Fresh name ↔ ¬ Overtaken η events name) ∧
      ∀ e call place, ((after η events).act e).1 = some ⟨call, name, .ok place⟩ →
        ∃ connection, (after η (events ++ [e])).registry.pool[place]? = some connection ∧
          (lastConfigured name (events ++ [e]) = some connection.config ↔
            ¬ Overtaken η (events ++ [e]) name) := by
  refine ⟨fresh_after_iff events name, ?_⟩
  intro e call place hreturned
  have hlive : (after η (events ++ [e])).registry.live[name]? = some place := by
    rw [after_concat]
    exact live_act_of_returned hreturned
  have hset : (after η (events ++ [e])).registry.config? name =
      lastConfigured name (events ++ [e]) := config_after (events ++ [e]) name
  obtain ⟨connection, hpool⟩ := pooled_after (events ++ [e]) name place hlive
  refine ⟨connection, hpool, ?_⟩
  rw [← hset, ← fresh_iff_of_live hlive hpool, fresh_after_iff]

def overtakenRun : List (Event Unit) :=
  [.configure "a" (.ofUrl "mysql://old"), .ask 0 "a", .configure "a" (.ofUrl "mysql://new"),
    .settle 0 (.ok ())]

theorem overtaken_overtakenRun : Overtaken Unit overtakenRun "a" := by
  by_cases h : Overtaken Unit overtakenRun "a"
  · exact h
  · have hfresh := (fresh_iff_not_overtaken overtakenRun "a").1.mpr h
    obtain ⟨connection, hpool, hconfig⟩ := hfresh 0 rfl
    cases hpool
    have heq : some (Config.ofUrl "mysql://new") = some (Config.ofUrl "mysql://old") := hconfig
    exact absurd heq (by decide)

/-- A call that asks after the configuration was replaced is given a connection with the
one that was there before. -/
theorem replaced_configuration_returned :
    ((after Unit overtakenRun).act (.ask 1 "a")).1 = some ⟨1, "a", .ok 0⟩ ∧
      (after Unit overtakenRun).registry.pool[0]?.map (·.config) =
        some (.ofUrl "mysql://old") ∧
      lastConfigured "a" overtakenRun = some (.ofUrl "mysql://new") := by
  refine ⟨rfl, rfl, rfl⟩

end Shared

end TableGateway.Registry
