import TableGateway.Proofs.Condition.Readability

/-!
# Recovering conditions

The text of a condition and its bindings give back its outline, since the lexemes of the
text tell characters, names and placeholders apart and the bindings hold a value for
each placeholder.  So they determine the normal form of the condition, and the normal
form determines them.
-/

namespace TableGateway

open Placeholder

namespace Outline

/-- The outline that lexemes and the values of their placeholders spell. -/
def ofLexemes : List Lexeme → List Value → Outline
  | [], _ => []
  | .verbatim [c] :: list, values => .char c :: ofLexemes list values
  | .verbatim cs :: list, values =>
    .name (String.ofList cs.tail.dropLast) :: ofLexemes list values
  | .named _ :: list, [] => ofLexemes list []
  | .named _ :: list, value :: values => .slot value :: ofLexemes list values

theorem ofLexemes_text (cs : List Char) (list : List Lexeme) (values : List Value) :
    ofLexemes (cs.map (fun c => .verbatim [c]) ++ list) values =
      cs.map .char ++ ofLexemes list values := by
  induction cs with
  | nil => rfl
  | cons c cs ih => simp [ofLexemes, ih]

theorem ofLexemes_name (cleaned : String) (list : List Lexeme) (values : List Value) :
    ofLexemes (.verbatim (Fragment.name cleaned).chars :: list) values =
      .name cleaned :: ofLexemes list values := by
  rw [Fragment.chars, ofLexemes]
  · simp
  · simp

end Outline

namespace Clause

theorem ofLexemes_lexemes (c : Clause) :
    Outline.ofLexemes c.lexemes (c.bindings.map (·.2)) = c.outline := by
  induction c with
  | nil => rfl
  | cons f c ih =>
      cases f with
      | text s =>
          rw [lexemes_cons, Fragment.lexemes, Outline.ofLexemes_text, bindings_text, ih]
          rfl
      | name cleaned =>
          rw [lexemes_cons, Fragment.lexemes, List.singleton_append, Outline.ofLexemes_name,
            bindings_name, ih]
          rfl
      | bound placeholder v =>
          rw [lexemes_cons, bindings_bound, List.map_cons, outline_cons, ← ih]
          rfl

theorem outline_eq_of_sql {c d : Clause} (hc : c.Legible) (hd : d.Legible)
    (hsql : c.sql = d.sql) (hbindings : c.bindings = d.bindings) : c.outline = d.outline := by
  have hchars : c.chars = d.chars := by
    rw [sql, sql] at hsql
    exact String.ofList_injective hsql
  rw [← ofLexemes_lexemes, ← ofLexemes_lexemes, ← hc.lexemes_chars, ← hd.lexemes_chars, hchars,
    hbindings]

theorem sql_eq_of_outline {c d : Clause} (houtline : c.outline = d.outline)
    (hnames : c.bindings.map (·.1) = d.bindings.map (·.1)) :
    c.sql = d.sql ∧ c.bindings = d.bindings := by
  constructor
  · rw [sql, sql, ← written_outline, ← written_outline, houtline, hnames]
  · rw [bindings_eq_zip c, bindings_eq_zip d, houtline, hnames]

end Clause

namespace Condition

theorem outline_eq_iff_normal_eq {c d : Condition} (hc : c.rawTexts = []) (hd : d.rawTexts = []) :
    c.outline = d.outline ↔ c.normal = d.normal := by
  constructor
  · intro h
    have hend : Outline.Closing [] := by simp [Outline.Closing]
    exact (outline_inj hc hd hend hend (congrArg (· ++ []) h)).1
  · intro h
    rw [← outline_normal, h, outline_normal]

/-- The text and the bindings of a condition determine its normal form and are determined
by it, when the placeholders are numbered from the same number. -/
theorem compileFrom_eq_iff_normal_eq {c d : Condition} {n next next' : Nat} {sql sql' : String}
    {bindings bindings' : Bindings} (hc : c.compileFrom n = (.ok (sql, bindings), next))
    (hd : d.compileFrom n = (.ok (sql', bindings'), next')) (hcraw : c.rawTexts = [])
    (hdraw : d.rawTexts = []) :
    ((sql = sql' ∧ bindings.toList = bindings'.toList) ↔ c.normal = d.normal) ∧
      ((sql = sql' ∧ bindings = bindings') ↔ c.normal = d.normal) := by
  obtain ⟨clause, hclause, rfl, rfl⟩ := compiled_of_compileFrom hc
  obtain ⟨clause', hclause', rfl, rfl⟩ := compiled_of_compileFrom hd
  rw [← outline_eq_iff_normal_eq hcraw hdraw, ← hclause.outline, ← hclause'.outline]
  have hread : clause.sql = clause'.sql →
      (Bindings.ofList clause.bindings).toList = (Bindings.ofList clause'.bindings).toList →
        clause.outline = clause'.outline := by
    intro hsql hlist
    rw [hclause.toList_ofList, hclause'.toList_ofList] at hlist
    exact Clause.outline_eq_of_sql (hclause.legible (plainTexts_of_eq_nil hcraw))
      (hclause'.legible (plainTexts_of_eq_nil hdraw)) hsql hlist
  have hwritten : clause.outline = clause'.outline →
      clause.sql = clause'.sql ∧ clause.bindings = clause'.bindings := by
    intro houtline
    apply Clause.sql_eq_of_outline houtline
    have hvalues : c.values = d.values := by
      rw [← values_outline, ← values_outline, ← hclause.outline, ← hclause'.outline, houtline]
    rw [hclause.names, hclause'.names, hvalues]
  constructor
  · constructor
    · rintro ⟨hsql, hlist⟩
      exact hread hsql hlist
    · intro houtline
      obtain ⟨hsql, hbindings⟩ := hwritten houtline
      exact ⟨hsql, by rw [hbindings]⟩
  · constructor
    · rintro ⟨hsql, hbindings⟩
      exact hread hsql (by rw [hbindings])
    · intro houtline
      obtain ⟨hsql, hbindings⟩ := hwritten houtline
      exact ⟨hsql, by rw [hbindings]⟩

def disguised : Condition :=
  .group .or [.group .and [.compare " a\x60) OR (:b" .atMost (.int 1),
    .isIn "c" true []]]

def plainlyWritten : Condition :=
  .group .and [.group .and [.compare "a) OR (:b" .atMost (.int 1), .all]]

theorem compileFrom_eq_iff_normal_eq_disguised :
    ∃ sql sql' bindings bindings' next next',
      disguised.compileFrom 3 = (.ok (sql, bindings), next) ∧
        plainlyWritten.compileFrom 3 = (.ok (sql', bindings'), next') ∧
        sql = sql' ∧ bindings = bindings' := by
  have hnormal : disguised.normal = plainlyWritten.normal := rfl
  refine ⟨_, _, _, _, _, _, rfl, rfl, ?_⟩
  exact (compileFrom_eq_iff_normal_eq (c := disguised) (d := plainlyWritten) rfl rfl rfl
    rfl).2.mpr hnormal

end Condition

end TableGateway
