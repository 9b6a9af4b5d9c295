import Mathlib.Data.List.Forall2
import Mathlib.Logic.Relation
import TableGateway.Proofs.Registry.Events

/-!
# Registries that are alike for one name

Two shared registries are alike for a name when they hold the same configuration for it, the
same calls are on their way for it, and the connections that they hold for it are the same
but for their places.  Which places correspond is a relation that is one-to-one, since
one connection may be given out several times.
-/

namespace TableGateway.Registry

variable {σ η : Type} {R S : Nat → Nat → Prop} {name : String}

structure Response where
  dropped : Option Bool
  ended : Option Return

/-- Two responses that differ in places at most, and in corresponding ones only. -/
inductive Response.Alike (R : Nat → Nat → Prop) : Response → Response → Prop
  | quiet (dropped : Option Bool) : Alike R ⟨dropped, none⟩ ⟨dropped, none⟩
  | failed (call : Nat) (name : String) (e : Error) :
    Alike R ⟨none, some ⟨call, name, .error e⟩⟩ ⟨none, some ⟨call, name, .error e⟩⟩
  | given (call : Nat) (name : String) {place place' : Nat} (h : R place place') :
    Alike R ⟨none, some ⟨call, name, .ok place⟩⟩ ⟨none, some ⟨call, name, .ok place'⟩⟩

theorem Response.Alike.mono {r r' : Response} (h : Response.Alike R r r')
    (hle : ∀ a b, R a b → S a b) : Response.Alike S r r' := by
  cases h with
  | quiet dropped => exact .quiet dropped
  | failed call name e => exact .failed call name e
  | given call name h => exact .given call name (hle _ _ h)

theorem Response.Alike.symm {r r' : Response} (h : Response.Alike R r r') :
    Response.Alike (flip R) r' r := by
  cases h with
  | quiet dropped => exact .quiet dropped
  | failed call name e => exact .failed call name e
  | given call name h => exact .given call name h

theorem Response.Alike.trans {r r' r'' : Response} (h : Response.Alike R r r')
    (h' : Response.Alike S r' r'') : Response.Alike (Relation.Comp R S) r r'' := by
  cases h with
  | quiet dropped =>
      cases h'
      exact .quiet dropped
  | failed call name e =>
      cases h'
      exact .failed call name e
  | given call name h =>
      cases h' with
      | given _ _ h' => exact .given call name ⟨_, h, h'⟩

theorem rel_flip {o o' : Option Nat} (h : Option.Rel R o o') : Option.Rel (flip R) o' o := by
  cases h with
  | none => exact .none
  | some h => exact .some h

theorem rel_comp {o o' o'' : Option Nat} (h : Option.Rel R o o') (h' : Option.Rel S o' o'') :
    Option.Rel (Relation.Comp R S) o o'' := by
  cases h with
  | none =>
      cases h'
      exact .none
  | some h =>
      cases h' with
      | some h' => exact .some ⟨_, h, h'⟩

namespace Shared

def dropped? (s : Shared σ η) : Event σ → Option Bool
  | .reset name => some (s.registry.reset name).1
  | _ => none

def respond (s : Shared σ η) (e : Event σ) : Response :=
  ⟨s.dropped? e, (s.act e).1⟩

/-- The name that an event is about, none for the event that is about all.  A call that
settles is about the name that it asked for, and about none if it is not on its way. -/
def subject? (s : Shared σ η) : Event σ → Option String
  | .configure name _ => some name
  | .reset name => some name
  | .resetAll => none
  | .ask _ name => some name
  | .settle call _ => (s.pending.find? (·.call == call)).map (·.name)

structure Alike (R : Nat → Nat → Prop) (name : String) (s t : Shared σ η) : Prop where
  unique : Relator.BiUnique R
  same : ∀ {a b}, R a b → ∃ connection,
    s.registry.pool[a]? = some connection ∧ t.registry.pool[b]? = some connection
  config : s.registry.config? name = t.registry.config? name
  live : Option.Rel R s.registry.live[name]? t.registry.live[name]?
  pending : s.pending.filter (·.name == name) = t.pending.filter (·.name == name)

section Alike

variable {s t u : Shared σ η}

theorem Alike.symm (h : Alike R name s t) : Alike (flip R) name t s where
  unique := ⟨fun _ _ _ h₁ h₂ => h.unique.right h₁ h₂, fun _ _ _ h₁ h₂ => h.unique.left h₁ h₂⟩
  same hplace := by
    obtain ⟨connection, hs, ht⟩ := h.same hplace
    exact ⟨connection, ht, hs⟩
  config := h.config.symm
  live := rel_flip h.live
  pending := h.pending.symm

theorem Alike.trans (h : Alike R name s t) (h' : Alike S name t u) :
    Alike (Relation.Comp R S) name s u where
  unique := by
    constructor
    · rintro a a' c ⟨b, hab, hbc⟩ ⟨b', hab', hbc'⟩
      cases h'.unique.left hbc hbc'
      exact h.unique.left hab hab'
    · rintro a c c' ⟨b, hab, hbc⟩ ⟨b', hab', hbc'⟩
      cases h.unique.right hab hab'
      exact h'.unique.right hbc hbc'
  same := by
    rintro a c ⟨b, hab, hbc⟩
    obtain ⟨connection, hs, ht⟩ := h.same hab
    obtain ⟨connection', ht', hu⟩ := h'.same hbc
    rw [ht] at ht'
    cases ht'
    exact ⟨connection, hs, hu⟩
  config := h.config.trans h'.config
  live := rel_comp h.live h'.live
  pending := h.pending.trans h'.pending

theorem Alike.lt_size (h : Alike R name s t) {a b : Nat} (hplace : R a b) :
    a < s.registry.pool.size ∧ b < t.registry.pool.size := by
  obtain ⟨connection, hs, ht⟩ := h.same hplace
  exact ⟨(Array.getElem?_eq_some_iff.mp hs).1, (Array.getElem?_eq_some_iff.mp ht).1⟩

theorem Alike.live_eq_some (h : Alike R name s t) {place : Nat}
    (hlive : s.registry.live[name]? = some place) :
    ∃ place' : Nat, t.registry.live[name]? = some place' ∧ R place place' := by
  have hrel := h.live
  rw [hlive] at hrel
  cases hrel' : t.registry.live[name]? with
  | none =>
      rw [hrel'] at hrel
      contradiction
  | some place' =>
      rw [hrel', Option.rel_some_some] at hrel
      exact ⟨place', rfl, hrel⟩

theorem Alike.live_eq_none (h : Alike R name s t) (hlive : s.registry.live[name]? = none) :
    t.registry.live[name]? = none := by
  have hrel := h.live
  rw [hlive] at hrel
  cases hrel' : t.registry.live[name]? with
  | none => rfl
  | some place' =>
      rw [hrel'] at hrel
      contradiction

end Alike

end Shared

end TableGateway.Registry
