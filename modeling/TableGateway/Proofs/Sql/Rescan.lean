import TableGateway.Proofs.Sql.Echo

/-!
# Texts cut at their placeholders

A text is cut at its placeholders, each a colon with all that can belong to its name.  Putting
question marks in their place copies everything between them.  This holds of every text, be its
quotations and comments closed or not, and the text that comes out has no placeholders left.
-/

namespace TableGateway.Placeholder

/-- What stands before the first placeholder, and every name with what stands behind it. -/
structure Cut where
  front : List Char
  pieces : List (String × List Char)

namespace Cut

def source (cut : Cut) : List Char :=
  cut.front ++ cut.pieces.flatMap fun piece => ':' :: (piece.1.toList ++ piece.2)

def positional (cut : Cut) : List Char :=
  cut.front ++ cut.pieces.flatMap fun piece => '?' :: piece.2

def names (cut : Cut) : List String :=
  cut.pieces.map (·.1)

/-- Whether the names are as long as they can be.  Behind a name stands nothing that could
belong to it; where nothing at all stands there, the next placeholder follows or the end. -/
def Maximal (cut : Cut) : Prop :=
  ∀ piece ∈ cut.pieces, Identifier.isPlaceholderName piece.1 = true ∧ Apart piece.2

def ofLexemes : List Lexeme → Cut
  | [] => ⟨[], []⟩
  | .verbatim cs :: ls => ⟨cs ++ (ofLexemes ls).front, (ofLexemes ls).pieces⟩
  | .named name :: ls => ⟨[], (String.ofList name, (ofLexemes ls).front) :: (ofLexemes ls).pieces⟩

def ofSql (s : String) : Cut :=
  ofLexemes (lexemes s.toList)

theorem source_ofLexemes (ls : List Lexeme) :
    (ofLexemes ls).source = ls.flatMap Lexeme.source := by
  unfold source
  induction ls with
  | nil => rfl
  | cons l ls ih =>
      rw [List.flatMap_cons, ← ih]
      cases l with
      | verbatim cs => simp [ofLexemes, Lexeme.source]
      | named name => simp [ofLexemes, Lexeme.source]

theorem positional_ofLexemes (ls : List Lexeme) :
    (ofLexemes ls).positional = ls.flatMap Lexeme.positional := by
  unfold positional
  induction ls with
  | nil => rfl
  | cons l ls ih =>
      rw [List.flatMap_cons, ← ih]
      cases l with
      | verbatim cs => simp [ofLexemes, Lexeme.positional]
      | named name => simp [ofLexemes, Lexeme.positional]

theorem names_ofLexemes (ls : List Lexeme) :
    (ofLexemes ls).names = ls.filterMap Lexeme.name? := by
  unfold names
  induction ls with
  | nil => rfl
  | cons l ls ih =>
      cases l with
      | verbatim cs => exact ih
      | named name => exact congrArg (String.ofList name :: ·) ih

theorem apart_front {cut : Cut} (h : Apart cut.source) : Apart cut.front := by
  unfold Apart source at *
  intro c hc
  apply h
  rw [List.head?_append, Option.mem_def.mp hc]
  rfl

theorem maximal_lexemes (cs : List Char) : (ofLexemes (lexemes cs)).Maximal := by
  unfold Maximal
  induction scan cs with
  | nil => simp [lexemes, ofLexemes]
  | @closed c body rest hread hrest ih =>
      rw [hread]
      exact ih
  | @line c body rest hmark hbody hbreaks hrest ih =>
      rw [lexemes_line hmark hbody hbreaks]
      exact ih
  | @named name rest hname hapart hrest ih =>
      have hfront : Apart (ofLexemes (lexemes rest)).front := by
        apply apart_front
        rwa [source_ofLexemes, flatMap_source_lexemes]
      rw [lexemes_named_append hname hapart]
      simp only [ofLexemes, String.ofList_toList, List.forall_mem_cons]
      exact ⟨⟨hname, hfront⟩, ih⟩
  | @alone c cs hopen hcolon hrest ih =>
      rw [lexemes_alone hopen hcolon]
      exact ih

end Cut

theorem ofSql_of_names {s : String} (h : (Positional.ofSql s).names = []) :
    Positional.ofSql s = ⟨s, []⟩ := by
  have hsql := sql_ofSql_of_names h
  generalize Positional.ofSql s = x at h hsql
  cases x
  cases h
  cases hsql
  rfl

/-- Every text is cut at its placeholders, and what is between them is copied.  What comes out
is read as the lexemes that it was made of, so it is left as it is. -/
theorem ofSql_copies_and_is_stable (s : String) :
    (Cut.ofSql s).source = s.toList ∧ (Cut.ofSql s).Maximal ∧
      Positional.ofSql s = ⟨String.ofList (Cut.ofSql s).positional, (Cut.ofSql s).names⟩ ∧
      lexemes (Positional.ofSql s).sql.toList =
        (lexemes s.toList).map (fun l => .verbatim l.positional) ∧
      Positional.ofSql (Positional.ofSql s).sql = ⟨(Positional.ofSql s).sql, []⟩ := by
  have hagain : lexemes (Positional.ofSql s).sql.toList =
      (lexemes s.toList).map fun l => .verbatim l.positional := by
    rw [Positional.ofSql, String.toList_ofList]
    exact lexemes_positional s.toList
  have hnone : (Positional.ofSql (Positional.ofSql s).sql).names = [] := by
    change (lexemes (Positional.ofSql s).sql.toList).filterMap Lexeme.name? = []
    rw [hagain, List.filterMap_map]
    simp [Lexeme.name?]
  refine ⟨?_, Cut.maximal_lexemes s.toList, ?_, hagain, ofSql_of_names hnone⟩
  · rw [Cut.ofSql, Cut.source_ofLexemes, flatMap_source_lexemes]
  · rw [Cut.ofSql, Cut.positional_ofLexemes, Cut.names_ofLexemes, Positional.ofSql]

/-- The string and the comment are never closed, so what is in them is replaced. -/
example : Positional.ofSql "x = 'it\\'s :a, -:b-:1 /:c* ::d_2" =
    ⟨"x = 'it\\'s ?, -?-:1 /?* :?", ["a", "b", "c", "d_2"]⟩ := by
  decide +kernel

end TableGateway.Placeholder
