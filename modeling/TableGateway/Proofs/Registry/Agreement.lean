import TableGateway.Proofs.Registry.Freshness

/-!
# Calls that race for one name

Several calls for one name may be on their way at once.  The first that settles with a
driver stores its connection; those that settle later are given that one and change
nothing.  So until the connection of a name is let go of, everyone who asks for the name is
given the same.
-/

namespace TableGateway.Registry

variable {σ η : Type}

theorem isConnected_iff {r : Registry σ η} {name : String} :
    r.isConnected name = true ↔ ∃ place : Nat, r.live[name]? = some place := by
  rw [isConnected, Std.TreeMap.contains_eq_isSome_getElem?, Option.isSome_iff_exists]

namespace Shared

theorem live_act_of_live {s : Shared σ η} {e : Event σ} {name : String} {place : Nat}
    (hlive : s.registry.live[name]? = some place) (hkept : e.releases name = false) :
    (s.act e).2.registry.live[name]? = some place := by
  rcases live_act_cases s e name with
    ⟨hreleases, -⟩ | ⟨config, ⟨call, driver, -, -, hnone⟩, -⟩ | ⟨-, -, hsame⟩
  · rw [hkept] at hreleases
    contradiction
  · rw [hlive] at hnone
    contradiction
  · rw [hsame, hlive]

theorem live_run_of_live {events : List (Event σ)} {s : Shared σ η} {name : String} {place : Nat}
    (hlive : s.registry.live[name]? = some place)
    (hkept : ∀ e ∈ events, e.releases name = false) :
    (run s events).2.registry.live[name]? = some place := by
  induction events generalizing s with
  | nil => exact hlive
  | cons e events ih =>
      have hfirst := live_act_of_live hlive (hkept e List.mem_cons_self)
      exact ih hfirst fun d hd => hkept d (List.mem_cons_of_mem e hd)

theorem place_eq_of_kept {s : Shared σ η} {first second : Event σ} {between : List (Event σ)}
    {call call' place place' : Nat} {name : String}
    (hfirst : (s.act first).1 = some ⟨call, name, .ok place⟩)
    (hsecond : ((run (s.act first).2 between).2.act second).1 = some ⟨call', name, .ok place'⟩)
    (hkept : ∀ e ∈ between, e.releases name = false) : place' = place := by
  have hstored := live_run_of_live (live_act_of_returned hfirst) hkept
  have hgiven := live_act_of_returned hsecond
  -- An event that gives out a connection lets go of none, so the second one finds the
  -- connection that the first one left.
  have hkeeps : second.releases name = false := by
    cases hreleases : second.releases name with
    | false => rfl
    | true =>
        rw [live_act_of_releases _ hreleases] at hgiven
        contradiction
  rw [live_act_of_live hstored hkeeps] at hgiven
  exact (Option.some.inj hgiven).symm

theorem registry_act_of_failed (s : Shared σ η) (call : Nat) (cause : Error) :
    (s.act (.settle call (.error cause))).2.registry = s.registry := by
  rcases registry_act_settle s call (.error cause) with hsame | ⟨p, state, hdriver, -⟩
  · exact hsame
  · contradiction

theorem registry_act_of_lost {s : Shared σ η} {call : Nat} {p : Pending}
    (hfound : s.pending.find? (·.call == call) = some p)
    (hconnected : s.registry.isConnected p.name = true) (driver : Except Error σ) :
    (s.act (.settle call driver)).2.registry = s.registry := by
  obtain ⟨place, hlive⟩ := isConnected_iff.mp hconnected
  rcases registry_act_settle s call driver with hsame | ⟨q, state, -, hfound', hnone, -⟩
  · exact hsame
  · rw [hfound] at hfound'
    cases hfound'
    rw [hlive] at hnone
    contradiction

theorem config_of_live {events : List (Event σ)} {name : String} {place : Nat}
    (h : (after η events).registry.live[name]? = some place) :
    ∃ config, (after η events).registry.config? name = some config := by
  induction events using List.reverseRecOn with
  | nil => simp [after, run, empty, Registry.empty] at h
  | append_singleton events e ih =>
      rw [after_concat] at h
      rcases live_act_cases (after η events) e name with
        ⟨-, hlive⟩ | ⟨config, ⟨call, driver, -, hfound, -⟩, -⟩ | ⟨-, -, hlive⟩
      · rw [hlive] at h
        contradiction
      · -- The call that stored the connection saw a configuration when it asked.
        obtain ⟨before, between, hsplit, hlookup⟩ :=
          exists_ask_of_pending (List.mem_of_find?_eq_some hfound)
        have hseen := (lookup_eq_unconnected.mp hlookup).2
        rw [hsplit, List.append_assoc]
        exact config_of_prefix hseen _
      · rw [hlive] at h
        obtain ⟨config, hconfig⟩ := ih h
        exact config_of_prefix hconfig [e]

/-- Whoever is given a connection is given the one that its name has by then; two calls for
a name are given the same one unless the name was released in between; a call that fails to
connect or finds a connection when it settles changes nothing; and only names with a
configuration have a connection. -/
theorem calls_agree (events : List (Event σ)) :
    (∀ e call name place, ((after η events).act e).1 = some ⟨call, name, .ok place⟩ →
      (after η (events ++ [e])).registry.live[name]? = some place) ∧
    (∀ first between second call call' name place place',
      ((after η events).act first).1 = some ⟨call, name, .ok place⟩ →
      ((after η (events ++ first :: between)).act second).1 = some ⟨call', name, .ok place'⟩ →
      (∀ e ∈ between, e.releases name = false) → place' = place) ∧
    (∀ call p driver, (after η events).pending.find? (·.call == call) = some p →
      ((∃ cause, driver = .error cause) ∨ (after η events).registry.isConnected p.name = true) →
      (after η (events ++ [.settle call driver])).registry = (after η events).registry) ∧
    (∀ name, (after η events).registry.isConnected name = true →
      ∃ config, (after η events).registry.config? name = some config) := by
  refine ⟨?_, ?_, ?_, ?_⟩
  · intro e call name place hreturned
    rw [after_concat]
    exact live_act_of_returned hreturned
  · intro first between second call call' name place place' hfirst hsecond hkept
    rw [after, run_append] at hsecond
    exact place_eq_of_kept hfirst hsecond hkept
  · rintro call p driver hfound (⟨cause, rfl⟩ | hconnected)
    · rw [after_concat, registry_act_of_failed]
    · rw [after_concat, registry_act_of_lost hfound hconnected]
  · intro name hconnected
    obtain ⟨place, hlive⟩ := isConnected_iff.mp hconnected
    exact config_of_live hlive

def racingRun : List (Event Unit) :=
  [.configure "a" (.ofUrl "mysql://a"), .configure "b" (.ofUrl "mysql://b"), .ask 0 "a",
    .ask 1 "a"]

/-- The call that asked last settles first, and another name is reset in between. -/
theorem calls_agree_racing :
    ((after Unit racingRun).act (.settle 1 (.ok ()))).1 = some ⟨1, "a", .ok 0⟩ ∧
      (after Unit (racingRun ++ [.settle 1 (.ok ())])).registry.live["a"]? = some 0 ∧
      ∃ place, ((after Unit (racingRun ++ .settle 1 (.ok ()) :: [.reset "b"])).act
        (.settle 0 (.ok ()))).1 = some ⟨0, "a", .ok place⟩ ∧ place = 0 := by
  obtain ⟨hregistered, hsame, -, -⟩ := calls_agree (η := Unit) racingRun
  refine ⟨rfl, hregistered (.settle 1 (.ok ())) 1 "a" 0 rfl, _, rfl, ?_⟩
  exact hsame (.settle 1 (.ok ())) [.reset "b"] (.settle 0 (.ok ())) 1 0 "a" 0 _ rfl rfl
    (by decide)

end Shared

end TableGateway.Registry
