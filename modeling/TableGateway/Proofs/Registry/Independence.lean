import TableGateway.Proofs.Registry.Following

/-!
# Names do not interfere

What becomes of a name depends on the events that are about it and on those that are about
all names: the others can be left out of a run, or put elsewhere in it.
-/

namespace TableGateway.Registry

variable {σ η : Type} {R : Nat → Nat → Prop} {name : String}

namespace Event

/-- The name that an event is about, where each call is known to ask for the name of its
owner. -/
def about (owner : Nat → String) : Event σ → Option String
  | .configure name _ => some name
  | .reset name => some name
  | .resetAll => none
  | .ask _ name => some name
  | .settle call _ => some (owner call)

def Owned (owner : Nat → String) (events : List (Event σ)) : Prop :=
  ∀ call name, .ask call name ∈ events → name = owner call

end Event

namespace Shared

variable {s t : Shared σ η}

/-! ## Runs -/

def heard (name : String) (s : Shared σ η) : List (Event σ) → List Response
  | [] => []
  | e :: events =>
    if s.subject? e = some name then s.respond e :: heard name (s.act e).2 events
    else heard name (s.act e).2 events

def project (name : String) (s : Shared σ η) : List (Event σ) → List (Event σ)
  | [] => []
  | e :: events =>
    if ∀ n ∈ s.subject? e, n = name then e :: project name (s.act e).2 events
    else project name (s.act e).2 events

/-- Some events that are about neither a name nor all names are left out. -/
inductive Projects (name : String) : Shared σ η → List (Event σ) → List (Event σ) → Prop
  | nil (s : Shared σ η) : Projects name s [] []
  | keep {s : Shared σ η} {e : Event σ} {events kept : List (Event σ)}
    (hsubject : ∀ n ∈ s.subject? e, n = name) (h : Projects name (s.act e).2 events kept) :
    Projects name s (e :: events) (e :: kept)
  | drop {s : Shared σ η} {e : Event σ} {events kept : List (Event σ)} (hall : e ≠ .resetAll)
    (hother : s.subject? e ≠ some name) (h : Projects name (s.act e).2 events kept) :
    Projects name s (e :: events) kept

theorem run_cons (s : Shared σ η) (e : Event σ) (events : List (Event σ)) :
    (run s (e :: events)).2 = (run (s.act e).2 events).2 := rfl

theorem Follows.run {events kept : List (Event σ)} (hprojects : Projects name s events kept)
    (h : Follows R name s t) :
    ∃ S, (∀ a b, R a b → S a b) ∧ Follows S name (run s events).2 (run t kept).2 ∧
      List.Forall₂ (Response.Alike S) (heard name s events) (heard name t kept) := by
  induction hprojects generalizing R t with
  | nil s => exact ⟨R, fun _ _ hplace => hplace, h, .nil⟩
  | @keep s e events kept hsubject hprojects ih =>
      obtain ⟨S, hle, hfollows, hresponse⟩ := h.keep hsubject
      obtain ⟨S', hle', hafter, hheard⟩ := ih hfollows
      refine ⟨S', fun a b hab => hle' a b (hle a b hab), hafter, ?_⟩
      rw [heard, heard, h.subject?_eq hsubject]
      split
      · exact .cons (hresponse.mono hle') hheard
      · exact hheard
  | @drop s e events kept hall hother hprojects ih =>
      rw [heard, if_neg hother]
      exact ih (h.drop hall hother)

theorem projects_project (name : String) (s : Shared σ η) (events : List (Event σ)) :
    Projects name s events (project name s events) := by
  induction events generalizing s with
  | nil => exact .nil s
  | cons e events ih =>
      rw [project]
      split
      · next hsubject => exact .keep hsubject (ih (s.act e).2)
      · next hother =>
          refine .drop ?_ ?_ (ih (s.act e).2)
          · rintro rfl
            exact hother fun n hn => absurd hn (by simp [subject?])
          · intro hname
            rw [hname] at hother
            exact hother fun n hn => (Option.some.inj hn).symm

theorem follows_empty (name : String) :
    Follows (fun _ _ => False) name (empty : Shared σ η) empty where
  unique := ⟨fun _ _ _ hplace => hplace.elim, fun _ _ _ hplace => hplace.elim⟩
  same hplace := hplace.elim
  config := rfl
  live := by
    simp only [empty, Registry.empty, Std.TreeMap.getElem?_emptyc]
    exact .none
  pending := rfl
  own := by simp [empty]

/-- Two runs leave the same for a name, and answer the same to the events about it. -/
def SameFor (η : Type) (name : String) (events events' : List (Event σ)) : Prop :=
  ∃ R, Alike R name (after η events) (after η events') ∧
    List.Forall₂ (Response.Alike R) (heard name (empty : Shared σ η) events)
      (heard name (empty : Shared σ η) events')

theorem Projects.sameFor {events kept : List (Event σ)}
    (h : Projects name (empty : Shared σ η) events kept) : SameFor η name events kept := by
  obtain ⟨R, -, hfollows, hheard⟩ := (follows_empty name).run h
  exact ⟨R, hfollows.toAlike, hheard⟩

theorem heard_trans {S : Nat → Nat → Prop} {l l' l'' : List Response}
    (h : List.Forall₂ (Response.Alike R) l l') (h' : List.Forall₂ (Response.Alike S) l' l'') :
    List.Forall₂ (Response.Alike (Relation.Comp R S)) l l'' := by
  induction h generalizing l'' with
  | nil =>
      cases h'
      exact .nil
  | cons hr h ih =>
      cases h' with
      | cons hr' h' => exact .cons (hr.trans hr') (ih h')

theorem SameFor.symm {events events' : List (Event σ)} (h : SameFor η name events events') :
    SameFor η name events' events := by
  obtain ⟨R, halike, hheard⟩ := h
  exact ⟨flip R, halike.symm, (hheard.imp fun _ _ hr => hr.symm).flip⟩

theorem SameFor.trans {events events' events'' : List (Event σ)}
    (h : SameFor η name events events') (h' : SameFor η name events' events'') :
    SameFor η name events events'' := by
  obtain ⟨R, halike, hheard⟩ := h
  obtain ⟨S, halike', hheard'⟩ := h'
  exact ⟨Relation.Comp R S, halike.trans halike', heard_trans hheard hheard'⟩

/-! ## Events that change places -/

section Owned

variable {owner : Nat → String}

theorem about_of_subject? (hpending : ∀ p ∈ s.pending, p.name = owner p.call)
    {e : Event σ} {n : String} (hsubject : s.subject? e = some n) : e.about owner = some n := by
  cases e with
  | configure name' config => exact hsubject
  | reset name' => exact hsubject
  | resetAll => exact hsubject
  | ask call name' => exact hsubject
  | settle call driver =>
      obtain ⟨p, hfound, rfl⟩ := Option.map_eq_some_iff.mp hsubject
      have hcall : p.call = call := by simpa using List.find?_some hfound
      rw [Event.about, hpending p (List.mem_of_find?_eq_some hfound), hcall]

theorem projects_filter (hpending : ∀ p ∈ s.pending, p.name = owner p.call)
    {events : List (Event σ)} (howned : Event.Owned owner events) (name : String) :
    Projects name s events (events.filter fun e => ∀ n ∈ e.about owner, n = name) := by
  induction events generalizing s with
  | nil => exact .nil s
  | cons e events ih =>
      have hpending' : ∀ p ∈ (s.act e).2.pending, p.name = owner p.call := by
        intro p hp
        rcases pending_act hp with hp | ⟨rfl, -⟩
        · exact hpending p hp
        · exact howned p.call p.name List.mem_cons_self
      have hrest := ih hpending' fun call n hask => howned call n (List.mem_cons_of_mem e hask)
      by_cases hkept : ∀ n ∈ e.about owner, n = name
      · rw [List.filter_cons_of_pos (by simpa using hkept)]
        exact .keep (fun n hn => hkept n (about_of_subject? hpending hn)) hrest
      · rw [List.filter_cons_of_neg (by simpa using hkept)]
        refine .drop ?_ ?_ hrest
        · rintro rfl
          exact hkept fun n hn => absurd hn (by simp [Event.about])
        · intro hname
          rw [about_of_subject? hpending hname] at hkept
          exact hkept fun n hn => (Option.some.inj hn).symm

theorem sameFor_filter {events : List (Event σ)} (howned : Event.Owned owner events)
    (name : String) :
    SameFor η name events (events.filter fun e => ∀ n ∈ e.about owner, n = name) :=
  (projects_filter (by simp [empty]) howned name).sameFor

end Owned

theorem filter_swap {p : Event σ → Bool} {e e' : Event σ} (h : ¬ (p e = true ∧ p e' = true))
    (past rest : List (Event σ)) :
    (past ++ e :: e' :: rest).filter p = (past ++ e' :: e :: rest).filter p := by
  rw [List.filter_append, List.filter_append]
  congr 1
  cases he : p e <;> cases he' : p e' <;> simp_all

/-- A run leaves the same for a name as the run without the events about other names, and
its answers to the events about the name are the same; only places may differ.  So nobody can
tell in which order two neighbouring events about different names happened, provided that
each call asks for one name only. -/
theorem names_independent (events : List (Event σ)) (name : String) :
    SameFor η name events (project name (empty : Shared σ η) events) ∧
      ∀ owner past e e' rest n n', events = past ++ e :: e' :: rest → Event.Owned owner events →
        e.about owner = some n → e'.about owner = some n' → n ≠ n' →
        SameFor η name events (past ++ e' :: e :: rest) := by
  refine ⟨(projects_project name empty events).sameFor, ?_⟩
  rintro owner past e e' rest n n' rfl howned hn hn' hne
  have howned' : Event.Owned owner (past ++ e' :: e :: rest) := by
    intro call m hask
    apply howned call m
    simp only [List.mem_append, List.mem_cons] at hask ⊢
    tauto
  have hone : ¬ (decide (∀ m ∈ e.about owner, m = name) = true ∧
      decide (∀ m ∈ e'.about owner, m = name) = true) := by
    rw [decide_eq_true_eq, decide_eq_true_eq]
    rintro ⟨hname, hname'⟩
    exact hne ((hname n hn).trans (hname' n' hn').symm)
  have hfilter := sameFor_filter (η := η) howned name
  rw [filter_swap hone] at hfilter
  exact hfilter.trans (sameFor_filter howned' name).symm

def crossedRun : List (Event Unit) :=
  [.configure "a" (.ofUrl "mysql://a"), .configure "b" (.ofUrl "mysql://b"), .ask 0 "a",
    .ask 1 "b", .settle 1 (.ok ()), .settle 0 (.ok ()), .reset "b"]

theorem names_independent_crossed :
    project "a" (empty : Shared Unit Unit) crossedRun =
        [.configure "a" (.ofUrl "mysql://a"), .ask 0 "a", .settle 0 (.ok ())] ∧
      SameFor Unit "a" crossedRun (project "a" (empty : Shared Unit Unit) crossedRun) ∧
      SameFor Unit "a" crossedRun
        [.configure "a" (.ofUrl "mysql://a"), .configure "b" (.ofUrl "mysql://b"), .ask 0 "a",
          .ask 1 "b", .settle 0 (.ok ()), .settle 1 (.ok ()), .reset "b"] := by
  obtain ⟨hproject, hswap⟩ := names_independent (η := Unit) crossedRun "a"
  refine ⟨rfl, hproject, ?_⟩
  apply hswap (fun call => if call = 0 then "a" else "b")
    (crossedRun.take 4) (.settle 1 (.ok ())) (.settle 0 (.ok ())) [.reset "b"] "b" "a" rfl
  · intro call n hask
    simp only [crossedRun, List.mem_cons, List.not_mem_nil, reduceCtorEq, Event.ask.injEq,
      false_or, or_false] at hask
    rcases hask with ⟨rfl, rfl⟩ | ⟨rfl, rfl⟩ <;> rfl
  · rfl
  · rfl
  · decide

end Shared

end TableGateway.Registry
