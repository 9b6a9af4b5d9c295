import TableGateway.Proofs.Registry.Likeness

/-!
# Following one name

A registry that knows of one name only can follow another one for this name.  An event about
another name changes nothing for it, so it can be left out.  An event that is not left out
does the same in both, except that a new connection may get another place.
-/

namespace TableGateway.Registry.Shared

variable {σ η : Type} {R : Nat → Nat → Prop} {name : String} {s t : Shared σ η}

/-- A shared registry that is alike and in which no other name has calls on their way. -/
structure Follows (R : Nat → Nat → Prop) (name : String) (s t : Shared σ η) : Prop
    extends Alike R name s t where
  own : ∀ p ∈ t.pending, p.name = name

theorem Follows.pending_eq (h : Follows R name s t) :
    t.pending = s.pending.filter (·.name == name) := by
  have hall : t.pending.filter (·.name == name) = t.pending := by
    apply List.filter_eq_self.mpr
    intro p hp
    simpa using h.own p hp
  rw [h.pending, hall]

/-! ## Events about other names -/

theorem subject?_of_stores {e : Event σ} {config : Config} (h : s.Stores e name config) :
    s.subject? e = some name := by
  obtain ⟨call, driver, rfl, hfound, -⟩ := h
  rw [subject?, hfound]
  rfl

theorem releases_eq_false {e : Event σ} (hall : e ≠ .resetAll)
    (hother : s.subject? e ≠ some name) : e.releases name = false := by
  cases e with
  | configure name' config => simpa [subject?, Event.releases] using hother
  | reset name' => simpa [subject?, Event.releases] using hother
  | resetAll => contradiction
  | ask call name' => rfl
  | settle call driver => rfl

theorem filter_pending_act {e : Event σ} (hother : s.subject? e ≠ some name) :
    (s.act e).2.pending.filter (·.name == name) = s.pending.filter (·.name == name) := by
  cases e with
  | configure name' config => rfl
  | reset name' => rfl
  | resetAll => rfl
  | ask call name' =>
      have hname : name' ≠ name := by simpa [subject?] using hother
      rw [act]
      split
      · rfl
      · rfl
      · exact List.filter_cons_of_neg (by simpa using hname)
  | settle call driver =>
      cases hfound : s.pending.find? (·.call == call) with
      | none => rw [act_settle_of_none hfound]
      | some p =>
          have hname : p.name ≠ name := by simpa [subject?, hfound] using hother
          rw [act_settle_of_found hfound, ← List.erase_filter]
          apply List.erase_of_not_mem
          simp [hname]

theorem Follows.drop (h : Follows R name s t) {e : Event σ} (hall : e ≠ .resetAll)
    (hother : s.subject? e ≠ some name) : Follows R name (s.act e).2 t where
  unique := h.unique
  same hplace := by
    obtain ⟨connection, hs, ht⟩ := h.same hplace
    exact ⟨connection, pool_act s e hs, ht⟩
  config := by
    rw [config_act, Event.configured?_eq_none (releases_eq_false hall hother), Option.none_or,
      h.config]
  live := by
    have hstores : ∀ config, ¬ s.Stores e name config :=
      fun config hstores => hother (subject?_of_stores hstores)
    rw [live_act_of_keeps (releases_eq_false hall hother) hstores]
    exact h.live
  pending := by rw [filter_pending_act hother, h.pending]
  own := h.own

/-! ## Events about the name -/

theorem Follows.find?_eq (h : Follows R name s t) {call : Nat}
    (hname : ∀ p ∈ s.pending.find? (·.call == call), p.name = name) :
    t.pending.find? (·.call == call) = s.pending.find? (·.call == call) := by
  rw [h.pending_eq, List.find?_filter]
  cases hfound : s.pending.find? (·.call == call) with
  | none =>
      rw [List.find?_eq_none] at hfound ⊢
      intro p hp hboth
      exact hfound p hp (of_decide_eq_true hboth).2
  | some p =>
      -- Whatever is left out before the call is no call of this number either.
      have hp : p.name = name := hname p hfound
      obtain ⟨hcall, before, after, hsplit, hbefore⟩ := List.find?_eq_some_iff_append.mp hfound
      refine List.find?_eq_some_iff_append.mpr ⟨by simp [hp, hcall], before, after, hsplit, ?_⟩
      intro q hq
      have hne := hbefore q hq
      simp only [Bool.not_eq_true'] at hne ⊢
      simp [hne]

/-- An event does the same in both registries, where a place that it gives out anew in one
corresponds to the place that it gives out in the other. -/
def Matches (R : Nat → Nat → Prop) (name : String) (s t : Shared σ η) (e : Event σ) : Prop :=
  ∃ S, (∀ a b, R a b → S a b) ∧ Follows S name (s.act e).2 (t.act e).2 ∧
    Response.Alike S (s.respond e) (t.respond e)

theorem Follows.configure (h : Follows R name s t) (config : Config) :
    Matches R name s t (.configure name config) := by
  refine ⟨R, fun _ _ hplace => hplace, { h with config := ?_, live := ?_ }, .quiet none⟩
  · simp [act, Registry.configure, Registry.config?]
  · simp only [act, Registry.configure, Std.TreeMap.getElem?_erase_self]
    exact .none

theorem Follows.reset (h : Follows R name s t) : Matches R name s t (.reset name) := by
  have hconnected : s.registry.isConnected name = t.registry.isConnected name := by
    rw [Registry.isConnected, Registry.isConnected, Std.TreeMap.contains_eq_isSome_getElem?,
      Std.TreeMap.contains_eq_isSome_getElem?]
    cases hlive : s.registry.live[name]? with
    | none => rw [h.live_eq_none hlive]
    | some place =>
        obtain ⟨place', hlive', -⟩ := h.live_eq_some hlive
        rw [hlive']
        rfl
  refine ⟨R, fun _ _ hplace => hplace, { h with live := ?_ }, ?_⟩
  · simp only [act, Registry.reset, Std.TreeMap.getElem?_erase_self]
    exact .none
  · simp only [respond, dropped?, act, Registry.reset, hconnected]
    exact .quiet _

theorem Follows.resetAll (h : Follows R name s t) : Matches R name s t .resetAll := by
  refine ⟨R, fun _ _ hplace => hplace, { h with live := ?_ }, .quiet none⟩
  simp only [act, Registry.resetAll, Std.TreeMap.getElem?_emptyc]
  exact .none

theorem Follows.ask (h : Follows R name s t) (call : Nat) :
    Matches R name s t (.ask call name) := by
  refine ⟨R, fun _ _ hplace => hplace, ?_⟩
  cases hlive : s.registry.live[name]? with
  | some place =>
      obtain ⟨place', hlive', hplace⟩ := h.live_eq_some hlive
      rw [respond, respond, act_ask_of_live hlive, act_ask_of_live hlive']
      exact ⟨h, .given call name hplace⟩
  | none =>
      have hlive' := h.live_eq_none hlive
      cases hconfig : s.registry.config? name with
      | none =>
          have hconfig' := h.config.symm.trans hconfig
          rw [respond, respond, act_ask_of_unconfigured hlive hconfig,
            act_ask_of_unconfigured hlive' hconfig']
          exact ⟨h, .failed call name _⟩
      | some config =>
          have hconfig' := h.config.symm.trans hconfig
          rw [respond, respond, act_ask_of_unconnected hlive hconfig,
            act_ask_of_unconnected hlive' hconfig']
          refine ⟨{ h with pending := ?_, own := ?_ }, .quiet none⟩
          · rw [List.filter_cons_of_pos (by simp), List.filter_cons_of_pos (by simp), h.pending]
          · exact List.forall_mem_cons.mpr ⟨rfl, h.own⟩

/-! ### Calls that settle -/

def joined (R : Nat → Nat → Prop) (place place' : Nat) : Nat → Nat → Prop :=
  fun a b => R a b ∨ (a = place ∧ b = place')

/-- The places behind the pools are not given out yet, so a relation stays one-to-one when
they are joined. -/
theorem Alike.unique_joined (h : Alike R name s t) :
    Relator.BiUnique (joined R s.registry.pool.size t.registry.pool.size) := by
  constructor
  · rintro a a' b (hab | ⟨rfl, rfl⟩) (hab' | ⟨rfl, hb⟩)
    · exact h.unique.left hab hab'
    · have hlt := (h.lt_size hab).2
      omega
    · have hlt := (h.lt_size hab').2
      omega
    · rfl
  · rintro a b b' (hab | ⟨rfl, rfl⟩) (hab' | ⟨ha, rfl⟩)
    · exact h.unique.right hab hab'
    · have hlt := (h.lt_size hab).1
      omega
    · have hlt := (h.lt_size hab').1
      omega
    · rfl

theorem Follows.erase (h : Follows R name s t) (p : Pending) :
    Follows R name { s with pending := s.pending.erase p }
      { t with pending := t.pending.erase p } :=
  { h with
    pending := by rw [← List.erase_filter, ← List.erase_filter, h.pending]
    own := fun q hq => h.own q (List.mem_of_mem_erase hq) }

theorem Follows.stored (h : Follows R name s t) (connection : Connection σ η) :
    Follows (joined R s.registry.pool.size t.registry.pool.size) name
      { s with registry := { s.registry with
        live := s.registry.live.insert name s.registry.pool.size
        pool := s.registry.pool.push connection } }
      { t with registry := { t.registry with
        live := t.registry.live.insert name t.registry.pool.size
        pool := t.registry.pool.push connection } } where
  unique := h.unique_joined
  same := by
    rintro a b (hab | ⟨rfl, rfl⟩)
    · obtain ⟨hlt, hlt'⟩ := h.lt_size hab
      obtain ⟨connection, hs, ht⟩ := h.same hab
      refine ⟨connection, ?_, ?_⟩
      · rwa [Array.getElem?_push_lt hlt, ← Array.getElem?_eq_getElem hlt]
      · rwa [Array.getElem?_push_lt hlt', ← Array.getElem?_eq_getElem hlt']
    · exact ⟨connection, Array.getElem?_push_size, Array.getElem?_push_size⟩
  config := h.config
  live := by
    simp only [Std.TreeMap.getElem?_insert_self]
    exact .some (.inr ⟨rfl, rfl⟩)
  pending := h.pending
  own := h.own

theorem Follows.settle (h : Follows R name s t) {call : Nat} (driver : Except Error σ)
    (hname : ∀ p ∈ s.pending.find? (·.call == call), p.name = name) :
    Matches R name s t (.settle call driver) := by
  have hfound' := h.find?_eq hname
  cases hfound : s.pending.find? (·.call == call) with
  | none =>
      rw [hfound] at hfound'
      refine ⟨R, fun _ _ hplace => hplace, ?_⟩
      rw [respond, respond, act_settle_of_none hfound, act_settle_of_none hfound']
      exact ⟨h, .quiet none⟩
  | some p =>
      rw [hfound] at hfound'
      have hp : p.name = name := hname p hfound
      rw [Matches, respond, respond, act_settle_of_found hfound, act_settle_of_found hfound', hp]
      have herased := h.erase p
      cases driver with
      | error e => exact ⟨R, fun _ _ hplace => hplace, herased, .failed call name e⟩
      | ok state =>
          cases hlive : s.registry.live[name]? with
          | some place =>
              obtain ⟨place', hlive', hplace⟩ := h.live_eq_some hlive
              simp only [Registry.settle, hlive, hlive']
              exact ⟨R, fun _ _ hplace => hplace, herased, .given call name hplace⟩
          | none =>
              have hlive' := h.live_eq_none hlive
              simp only [Registry.settle, hlive, hlive']
              refine ⟨_, fun _ _ hplace => .inl hplace, herased.stored _, .given call name ?_⟩
              exact .inr ⟨rfl, rfl⟩

theorem Follows.keep (h : Follows R name s t) {e : Event σ}
    (hsubject : ∀ n ∈ s.subject? e, n = name) : Matches R name s t e := by
  cases e with
  | configure name' config =>
      cases hsubject name' rfl
      exact h.configure config
  | reset name' =>
      cases hsubject name' rfl
      exact h.reset
  | resetAll => exact h.resetAll
  | ask call name' =>
      cases hsubject name' rfl
      exact h.ask call
  | settle call driver =>
      apply h.settle
      intro p hp
      exact hsubject p.name (Option.mem_map_of_mem _ hp)

theorem Follows.subject?_eq (h : Follows R name s t) {e : Event σ}
    (hsubject : ∀ n ∈ s.subject? e, n = name) : t.subject? e = s.subject? e := by
  cases e with
  | configure name' config => rfl
  | reset name' => rfl
  | resetAll => rfl
  | ask call name' => rfl
  | settle call driver =>
      rw [subject?, subject?, h.find?_eq]
      intro p hp
      exact hsubject p.name (Option.mem_map_of_mem _ hp)

end TableGateway.Registry.Shared
