import Mathlib.Data.List.Induction
import TableGateway.Registry.Interleaving

/-!
# Events of shared registries

An event lets go of the connection of a name, stores a connection for it, or leaves the
connection of the name alone.  Places of the pool are never given up, configurations are
never taken back, and a call on its way holds a configuration that it saw.
-/

namespace TableGateway.Registry

variable {σ η : Type}

namespace Event

def releases (name : String) : Event σ → Bool
  | .configure name' _ => name' == name
  | .reset name' => name' == name
  | .resetAll => true
  | .ask _ _ => false
  | .settle _ _ => false

def configured? (name : String) : Event σ → Option Config
  | .configure name' config => if name' = name then some config else none
  | _ => none

theorem configured?_eq_none {name : String} {e : Event σ} (h : e.releases name = false) :
    e.configured? name = none := by
  cases e with
  | configure name' config =>
      have hname : name' ≠ name := by simpa [releases] using h
      simp [configured?, hname]
  | reset name' => rfl
  | resetAll => rfl
  | ask call name' => rfl
  | settle call driver => rfl

end Event

def lastConfigured (name : String) (events : List (Event σ)) : Option Config :=
  (events.filterMap (Event.configured? name)).getLast?

theorem lastConfigured_append (name : String) (past rest : List (Event σ)) :
    lastConfigured name (past ++ rest) =
      (lastConfigured name rest).or (lastConfigured name past) := by
  rw [lastConfigured, List.filterMap_append, List.getLast?_append]
  rfl

theorem lastConfigured_singleton (name : String) (e : Event σ) :
    lastConfigured name [e] = e.configured? name := by
  rw [lastConfigured]
  cases h : e.configured? name <;> simp [h]

theorem exists_configure_of_lastConfigured {name : String} {events : List (Event σ)}
    {config : Config} (h : lastConfigured name events = some config) :
    .configure name config ∈ events := by
  have hmem := List.mem_of_getLast? h
  obtain ⟨e, he, hconfigured⟩ := List.mem_filterMap.mp hmem
  cases e with
  | configure name' config' =>
      by_cases hname : name' = name
      · simp only [Event.configured?, hname, if_true, Option.some.injEq] at hconfigured
        rwa [hname, hconfigured] at he
      · simp [Event.configured?, hname] at hconfigured
  | reset name' => simp [Event.configured?] at hconfigured
  | resetAll => simp [Event.configured?] at hconfigured
  | ask call name' => simp [Event.configured?] at hconfigured
  | settle call driver => simp [Event.configured?] at hconfigured

namespace Shared

def after (η : Type) (events : List (Event σ)) : Shared σ η :=
  (run empty events).2

theorem run_append (s : Shared σ η) (past rest : List (Event σ)) :
    (run s (past ++ rest)).2 = (run (run s past).2 rest).2 := by
  induction past generalizing s with
  | nil => rfl
  | cons e past ih => exact ih (s.act e).2

theorem after_concat (events : List (Event σ)) (e : Event σ) :
    after η (events ++ [e]) = ((after η events).act e).2 :=
  run_append empty events [e]

theorem act_ask_of_live {s : Shared σ η} {call place : Nat} {name : String}
    (hlive : s.registry.live[name]? = some place) :
    s.act (.ask call name) = (some ⟨call, name, .ok place⟩, s) := by
  rw [act, Registry.lookup, hlive]

theorem act_ask_of_unconnected {s : Shared σ η} {call : Nat} {name : String} {config : Config}
    (hlive : s.registry.live[name]? = none) (hconfig : s.registry.config? name = some config) :
    s.act (.ask call name) = (none, { s with pending := ⟨call, name, config⟩ :: s.pending }) := by
  rw [Registry.config?] at hconfig
  rw [act, Registry.lookup, hlive, hconfig]

theorem act_ask_of_unconfigured {s : Shared σ η} {call : Nat} {name : String}
    (hlive : s.registry.live[name]? = none) (hconfig : s.registry.config? name = none) :
    s.act (.ask call name) =
      (some ⟨call, name, .error (.connection (.unconfigured name))⟩, s) := by
  rw [Registry.config?] at hconfig
  rw [act, Registry.lookup, hlive, hconfig]

theorem act_settle_of_found {s : Shared σ η} {call : Nat} {p : Pending}
    (hfound : s.pending.find? (·.call == call) = some p) (driver : Except Error σ) :
    s.act (.settle call driver) =
      (some ⟨call, p.name, (s.registry.settle p.name p.config driver).1⟩,
        ⟨(s.registry.settle p.name p.config driver).2, s.pending.erase p⟩) := by
  rw [act, hfound]

theorem act_settle_of_none {s : Shared σ η} {call : Nat}
    (hfound : s.pending.find? (·.call == call) = none) (driver : Except Error σ) :
    s.act (.settle call driver) = (none, s) := by
  rw [act, hfound]

def Stores (s : Shared σ η) (e : Event σ) (name : String) (config : Config) : Prop :=
  ∃ call driver, e = .settle call (.ok driver) ∧
    s.pending.find? (·.call == call) = some ⟨call, name, config⟩ ∧
    s.registry.live[name]? = none

theorem Stores.config_unique {s : Shared σ η} {e : Event σ} {name : String} {c d : Config}
    (hc : s.Stores e name c) (hd : s.Stores e name d) : c = d := by
  obtain ⟨call, driver, rfl, hfound, -⟩ := hc
  obtain ⟨call', driver', heq, hfound', -⟩ := hd
  cases heq
  rw [hfound] at hfound'
  cases hfound'
  rfl

theorem Stores.releases_eq_false {s : Shared σ η} {e : Event σ} {name : String} {c : Config}
    (h : s.Stores e name c) : e.releases name = false := by
  obtain ⟨call, driver, rfl, -, -⟩ := h
  rfl

theorem registry_act_ask (s : Shared σ η) (call : Nat) (name : String) :
    (s.act (.ask call name)).2.registry = s.registry := by
  rw [act]
  split <;> rfl

theorem registry_act_settle (s : Shared σ η) (call : Nat) (driver : Except Error σ) :
    (s.act (.settle call driver)).2.registry = s.registry ∨
      ∃ p state, driver = .ok state ∧ s.pending.find? (·.call == call) = some p ∧
        s.registry.live[p.name]? = none ∧
        (s.act (.settle call driver)).2.registry =
          { s.registry with
            live := s.registry.live.insert p.name s.registry.pool.size
            pool := s.registry.pool.push (.ofDriver state p.config) } := by
  cases hfound : s.pending.find? (·.call == call) with
  | none => exact .inl (by rw [act_settle_of_none hfound])
  | some p =>
      rw [act_settle_of_found hfound]
      cases driver with
      | error e => exact .inl rfl
      | ok state =>
          cases hlive : s.registry.live[p.name]? with
          | some place => exact .inl (by simp only [Registry.settle, hlive])
          | none => exact .inr ⟨p, state, rfl, rfl, hlive, by simp only [Registry.settle, hlive]⟩

/-! ## The connection of a name -/

theorem live_act_of_releases (s : Shared σ η) {e : Event σ} {name : String}
    (h : e.releases name = true) : (s.act e).2.registry.live[name]? = none := by
  cases e with
  | configure name' config =>
      have hname : name' = name := by simpa [Event.releases] using h
      subst hname
      simp [act, Registry.configure]
  | reset name' =>
      have hname : name' = name := by simpa [Event.releases] using h
      subst hname
      simp [act, Registry.reset]
  | resetAll => simp [act, Registry.resetAll]
  | ask call name' => simp [Event.releases] at h
  | settle call driver => simp [Event.releases] at h

theorem act_of_stores {s : Shared σ η} {e : Event σ} {name : String} {config : Config}
    (h : s.Stores e name config) :
    (s.act e).2.registry.live[name]? = some s.registry.pool.size ∧
      ((s.act e).2.registry.pool[s.registry.pool.size]?.map (·.config)) = some config := by
  obtain ⟨call, driver, rfl, hfound, hlive⟩ := h
  simp [act, hfound, Registry.settle, hlive, Connection.ofDriver]

theorem live_act_of_keeps {s : Shared σ η} {e : Event σ} {name : String}
    (hreleases : e.releases name = false) (hstores : ∀ config, ¬ s.Stores e name config) :
    (s.act e).2.registry.live[name]? = s.registry.live[name]? := by
  cases e with
  | configure name' config =>
      have hname : name' ≠ name := by simpa [Event.releases] using hreleases
      simp [act, Registry.configure, Std.TreeMap.getElem?_erase, hname]
  | reset name' =>
      have hname : name' ≠ name := by simpa [Event.releases] using hreleases
      simp [act, Registry.reset, Std.TreeMap.getElem?_erase, hname]
  | resetAll => simp [Event.releases] at hreleases
  | ask call name' => rw [registry_act_ask]
  | settle call driver =>
      rcases registry_act_settle s call driver with hsame | ⟨p, state, rfl, hfound, hlive, hstored⟩
      · rw [hsame]
      · have hcall : p.call = call := by simpa using List.find?_some hfound
        subst hcall
        have hname : p.name ≠ name := by
          rintro rfl
          exact hstores p.config ⟨p.call, state, rfl, hfound, hlive⟩
        rw [hstored, Std.TreeMap.getElem?_insert, if_neg (by simpa using hname)]

theorem pool_act (s : Shared σ η) (e : Event σ) {place : Nat} {connection : Connection σ η}
    (h : s.registry.pool[place]? = some connection) :
    (s.act e).2.registry.pool[place]? = some connection := by
  cases e with
  | configure name config => exact h
  | reset name => exact h
  | resetAll => exact h
  | ask call name => rwa [registry_act_ask]
  | settle call driver =>
      rcases registry_act_settle s call driver with hsame | ⟨p, state, -, -, -, hstored⟩
      · rwa [hsame]
      · have hplace : place < s.registry.pool.size := (Array.getElem?_eq_some_iff.mp h).1
        rw [hstored, Array.getElem?_push_lt hplace]
        rwa [Array.getElem?_eq_getElem hplace] at h

theorem live_act_cases (s : Shared σ η) (e : Event σ) (name : String) :
    (e.releases name = true ∧ (s.act e).2.registry.live[name]? = none) ∨
      (∃ config, s.Stores e name config ∧
        (s.act e).2.registry.live[name]? = some s.registry.pool.size ∧
        ((s.act e).2.registry.pool[s.registry.pool.size]?.map (·.config)) = some config) ∨
      (e.releases name = false ∧ (∀ config, ¬ s.Stores e name config) ∧
        (s.act e).2.registry.live[name]? = s.registry.live[name]?) := by
  by_cases hstores : ∃ config, s.Stores e name config
  · obtain ⟨config, h⟩ := hstores
    exact .inr (.inl ⟨config, h, act_of_stores h⟩)
  · have hnot : ∀ config, ¬ s.Stores e name config := fun config h => hstores ⟨config, h⟩
    cases hreleases : e.releases name with
    | true => exact .inl ⟨rfl, live_act_of_releases s hreleases⟩
    | false => exact .inr (.inr ⟨rfl, hnot, live_act_of_keeps hreleases hnot⟩)

def Pooled (s : Shared σ η) : Prop :=
  ∀ (name : String) (place : Nat), s.registry.live[name]? = some place →
    ∃ connection, s.registry.pool[place]? = some connection

theorem Pooled.act {s : Shared σ η} (h : s.Pooled) (e : Event σ) : (s.act e).2.Pooled := by
  intro name place hplace
  rcases live_act_cases s e name with ⟨-, hlive⟩ | ⟨config, -, hlive, hconfig⟩ | ⟨-, -, hlive⟩
  · rw [hlive] at hplace
    contradiction
  · rw [hlive] at hplace
    cases hplace
    rw [Option.map_eq_some_iff] at hconfig
    obtain ⟨connection, hconnection, -⟩ := hconfig
    exact ⟨connection, hconnection⟩
  · rw [hlive] at hplace
    obtain ⟨connection, hconnection⟩ := h name place hplace
    exact ⟨connection, pool_act s e hconnection⟩

theorem pooled_after (events : List (Event σ)) : (after η events).Pooled := by
  induction events using List.reverseRecOn with
  | nil =>
      intro name place hplace
      simp [after, run, empty, Registry.empty] at hplace
  | append_singleton events e ih =>
      rw [after_concat]
      exact ih.act e

/-! ## Calls on their way -/

theorem pending_act {s : Shared σ η} {e : Event σ} {p : Pending} (h : p ∈ (s.act e).2.pending) :
    p ∈ s.pending ∨
      (e = .ask p.call p.name ∧ s.registry.lookup p.name = .unconnected p.config) := by
  cases e with
  | configure name config => exact .inl h
  | reset name => exact .inl h
  | resetAll => exact .inl h
  | ask call name =>
      rw [act] at h
      split at h
      · exact .inl h
      · exact .inl h
      · rename_i config hlookup
        rcases List.mem_cons.mp h with rfl | h
        · exact .inr ⟨rfl, hlookup⟩
        · exact .inl h
  | settle call driver =>
      rw [act] at h
      split at h
      · exact .inl h
      · exact .inl (List.mem_of_mem_erase h)

theorem exists_ask_of_pending {events : List (Event σ)} {p : Pending}
    (h : p ∈ (after η events).pending) :
    ∃ before between, events = before ++ .ask p.call p.name :: between ∧
      (after η before).registry.lookup p.name = .unconnected p.config := by
  induction events using List.reverseRecOn with
  | nil => simp [after, run, empty] at h
  | append_singleton events e ih =>
      rw [after_concat] at h
      rcases pending_act h with hpending | ⟨rfl, hlookup⟩
      · obtain ⟨before, between, rfl, hlookup⟩ := ih hpending
        exact ⟨before, between ++ [e], by simp, hlookup⟩
      · exact ⟨events, [], rfl, hlookup⟩

theorem live_act_of_returned {s : Shared σ η} {e : Event σ} {call place : Nat} {name : String}
    (h : (s.act e).1 = some ⟨call, name, .ok place⟩) :
    (s.act e).2.registry.live[name]? = some place := by
  cases e with
  | configure name' config => simp [act] at h
  | reset name' => simp [act] at h
  | resetAll => simp [act] at h
  | ask call' name' =>
      cases hlive : s.registry.live[name']? with
      | some place' =>
          rw [act_ask_of_live hlive] at h ⊢
          cases h
          exact hlive
      | none =>
          cases hconfig : s.registry.config? name' with
          | none =>
              rw [act_ask_of_unconfigured hlive hconfig] at h
              cases h
          | some config =>
              rw [act_ask_of_unconnected hlive hconfig] at h
              contradiction
  | settle call' driver =>
      cases hfound : s.pending.find? (·.call == call') with
      | none =>
          rw [act_settle_of_none hfound] at h
          contradiction
      | some p =>
          rw [act_settle_of_found hfound] at h ⊢
          simp only [Option.some.injEq, Return.mk.injEq] at h
          obtain ⟨-, rfl, hresult⟩ := h
          cases driver with
          | error e => simp [Registry.settle] at hresult
          | ok driver =>
              cases hlive : s.registry.live[p.name]? with
              | some found => simpa [Registry.settle, hlive] using hresult
              | none => simpa [Registry.settle, hlive] using hresult

/-! ## Configurations -/

theorem config_act (s : Shared σ η) (e : Event σ) (name : String) :
    (s.act e).2.registry.config? name = (e.configured? name).or (s.registry.config? name) := by
  cases e with
  | configure name' config =>
      by_cases hname : name' = name
      · simp [act, Registry.configure, Registry.config?, Event.configured?, hname]
      · simp [act, Registry.configure, Registry.config?, Event.configured?, hname,
          Std.TreeMap.getElem?_insert]
  | reset name' => rfl
  | resetAll => rfl
  | ask call name' =>
      rw [registry_act_ask]
      rfl
  | settle call driver =>
      rcases registry_act_settle s call driver with hsame | ⟨p, state, -, -, -, hstored⟩
      · rw [hsame]
        rfl
      · rw [hstored]
        rfl

theorem config_after (events : List (Event σ)) (name : String) :
    (after η events).registry.config? name = lastConfigured name events := by
  induction events using List.reverseRecOn with
  | nil => rfl
  | append_singleton events e ih =>
      rw [after_concat, config_act, ih, lastConfigured_append, lastConfigured_singleton]

end Shared

end TableGateway.Registry
