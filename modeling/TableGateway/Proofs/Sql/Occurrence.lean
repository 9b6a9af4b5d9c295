import TableGateway.Proofs.Sql.Lexing

/-!
# Names behind colons

The names that stand behind a colon in a text, where backticks cover what is between them.
No notice is taken of strings and comments, so these are the names that replacing the
placeholders finds only if the text has nothing of the kind.  Legible clauses are such
texts: the names in them are those of their bindings.
-/

namespace TableGateway

namespace Placeholder

/-- The names behind colons, from left to right.  What stands between two backticks is
passed over. -/
def bareNames : List Char → List String
  | [] => []
  | c :: cs =>
    if c = Identifier.quoteMark then
      match nameLength? cs with
      | some n => bareNames (cs.drop n)
      | none => bareNames cs
    else if c = ':' ∧ nameAt cs ≠ [] then
      String.ofList (nameAt cs) :: bareNames (cs.drop (nameAt cs).length)
    else bareNames cs
  termination_by cs => cs.length
  decreasing_by all_goals simp only [List.length_drop, List.length_cons]; omega

/-- Whether a lexeme covers nothing, or what it covers is between backticks. -/
def Lexeme.Bare : Lexeme → Prop
  | .verbatim cs => cs.length = 1 ∨ cs.head? = some Identifier.quoteMark
  | .named _ => True

theorem firstLexeme_quoteMark (cs : List Char) :
    firstLexeme Identifier.quoteMark cs =
      match nameLength? cs with
      | some n => (.verbatim (Identifier.quoteMark :: cs.take n), n)
      | none => (.verbatim [Identifier.quoteMark], 0) := by
  rw [firstLexeme]
  rfl

theorem firstLexeme_colon {cs : List Char} (h : nameAt cs ≠ []) :
    firstLexeme ':' cs = (.named (nameAt cs), (nameAt cs).length) := by
  have hcovered : coveredLength? ':' cs = none := by
    simp [coveredLength?, Identifier.quoteMark]
  simp [firstLexeme, hcovered, h]

theorem bareNames_cons {c : Char} {cs : List Char} (h : (firstLexeme c cs).1.Bare) :
    bareNames (c :: cs) =
      (firstLexeme c cs).1.name?.toList ++ bareNames (cs.drop (firstLexeme c cs).2) := by
  by_cases hquote : c = Identifier.quoteMark
  · subst hquote
    rw [bareNames, if_pos rfl, firstLexeme_quoteMark]
    cases nameLength? cs <;> rfl
  · by_cases hname : c = ':' ∧ nameAt cs ≠ []
    · obtain ⟨rfl, hne⟩ := hname
      rw [bareNames, if_neg hquote, if_pos ⟨rfl, hne⟩, firstLexeme_colon hne]
      rfl
    · rw [bareNames, if_neg hquote, if_neg hname]
      rw [firstLexeme] at h ⊢
      cases hcovered : coveredLength? c cs with
      | none =>
          have hcond : ¬(c = ':' && !(nameAt cs).isEmpty) = true := by
            simpa using hname
          rw [if_neg hcond]
          rfl
      | some n =>
          -- What `c` opens is no name, so nothing is covered but `c` itself.
          rw [hcovered] at h
          have hlength : (c :: cs.take n).length = 1 :=
            h.resolve_right fun hhead => hquote (Option.some.inj hhead)
          have hdrop : cs.drop n = cs := by
            have hsplit := List.take_append_drop n cs
            rwa [List.length_eq_zero_iff.mp (Nat.succ.inj hlength), List.nil_append] at hsplit
          simp [Lexeme.name?, hdrop]

theorem bareNames_eq_of_bare {cs : List Char} (h : ∀ l ∈ lexemes cs, l.Bare) :
    bareNames cs = (lexemes cs).filterMap Lexeme.name? := by
  fun_induction lexemes cs with
  | case1 => rw [bareNames]; rfl
  | case2 c cs lexeme n hfirst ih =>
    rw [List.forall_mem_cons] at h
    rw [bareNames_cons (by rw [hfirst]; exact h.1), hfirst, ih h.2, List.filterMap_cons]
    cases lexeme.name? <;> rfl

end Placeholder

namespace Clause

open Placeholder

theorem bare_of_mem_lexemes {c : Clause} {l : Lexeme} (h : l ∈ c.lexemes) : l.Bare := by
  obtain ⟨f, -, hl⟩ := List.mem_flatMap.mp h
  cases f with
  | text s =>
      obtain ⟨ch, -, rfl⟩ := List.mem_map.mp hl
      exact .inl rfl
  | name cleaned =>
      rw [List.mem_singleton.mp hl]
      exact .inr rfl
  | bound placeholder v =>
      rw [List.mem_singleton.mp hl]
      trivial

theorem Legible.bareNames_chars {c : Clause} (h : c.Legible) :
    bareNames c.chars = c.bindings.map (·.1) := by
  have hbare : ∀ l ∈ Placeholder.lexemes c.chars, l.Bare := by
    rw [h.lexemes_chars]
    exact fun l hl => bare_of_mem_lexemes hl
  rw [bareNames_eq_of_bare hbare, h.lexemes_chars, names_lexemes]

end Clause

end TableGateway
