import TableGateway.Proofs.Statement.Request
import TableGateway.Server.Link

/-!
# Values behind question marks

A link replaces the placeholders of a statement by question marks and orders the values
by the names that it finds.  For a statement that was built for a request this gives
the outline of the request, and every value goes to the slot that was made for it.
-/

namespace TableGateway

open Placeholder

namespace Link

theorem namedValues_ofList {entries : List (String × Value)}
    (hnames : (entries.map (·.1)).Nodup) :
    namedValues (Bindings.ofList entries) (entries.map (·.1)) = .ok (entries.map (·.2)) := by
  -- All names are sought in the whole map, so the induction is on a part of its entries.
  have hfound : ∀ part : List (String × Value), (∀ e ∈ part, e ∈ entries) →
      namedValues (Bindings.ofList entries) (part.map (·.1)) = .ok (part.map (·.2)) := by
    intro part hpart
    induction part with
    | nil => rfl
    | cons e part ih =>
        have hmem : (e.1, e.2) ∈ (Bindings.ofList entries).toList := by
          rw [Bindings.toList_ofList hnames]
          exact hpart e List.mem_cons_self
        have hget := (Bindings.indexed_ofList entries).get?_of_mem hmem
        have hrest := ih fun e' he' => hpart e' (List.mem_cons_of_mem e he')
        simp only [List.map_cons, namedValues, hget, hrest]
        rfl
  exact hfound entries fun e he => he

end Link

namespace Request

theorem values_joined (separator : String) (columns : List (String × Value))
    (spell : String × Value → Outline) (h : ∀ c, (spell c).values = [c.2]) :
    (Outline.join separator (columns.map spell)).values = columns.map (·.2) := by
  rw [Outline.values_join, List.flatMap_map]
  simp only [h]
  exact List.map_eq_flatMap.symm

theorem values_joined_names (separator : String) (columns : List (String × Value))
    (spell : String × Value → Outline) (h : ∀ c, (spell c).values = []) :
    (Outline.join separator (columns.map spell)).values = [] := by
  rw [Outline.values_join, List.flatMap_map, List.flatMap_eq_nil_iff]
  intro c _
  exact h c

theorem values_insertedOutline (columns : List (String × Value)) :
    (insertedOutline columns).values = columns.map (·.2) := by
  have hnames := values_joined_names ", " columns (fun c => [.name c.1]) fun c => rfl
  have hslots := values_joined ", " columns (fun c => [.slot c.2]) fun c => rfl
  simp only [insertedOutline, Outline.values_append, Outline.values_text, hnames, hslots,
    List.nil_append, List.append_nil]

theorem values_updatedOutline (columns : List (String × Value)) :
    (updatedOutline columns).values = [] := by
  rw [updatedOutline, Outline.values_append, Outline.values_text, List.nil_append]
  exact values_joined_names ", " columns _ fun c => by simp

theorem values_assignedOutline (columns : List (String × Value)) :
    (assignedOutline columns).values = columns.map (·.2) :=
  values_joined ", " columns _ fun c => by simp

theorem values_eq_nil {clause : Clause} (h : clause.bindings = []) :
    clause.outline.values = [] := by
  rw [Clause.values_outline, h]
  rfl

theorem values_outline (r : Request) :
    r.outline.values = r.columns.map (·.2) ++ r.compared := by
  cases r with
  | select table condition order limit offset =>
      have horder := values_eq_nil (Statement.bindings_orderClause order)
      have hwindow := values_eq_nil (Statement.bindings_windowClause limit offset)
      simp [outline, tableName, columns, compared, horder, hwindow, Condition.values_outline]
  | insert table values mode =>
      rw [outline]
      split <;> simp [tableName, columns, compared, values_insertedOutline, values_updatedOutline]
  | update table values condition limit =>
      have hlimit := values_eq_nil (Statement.bindings_limitClause limit)
      simp [outline, tableName, columns, compared, values_assignedOutline, hlimit,
        Condition.values_outline]
  | delete table condition limit =>
      have hlimit := values_eq_nil (Statement.bindings_limitClause limit)
      simp [outline, tableName, columns, compared, hlimit, Condition.values_outline]

theorem exists_clause {r : Request} {st : Statement} (h : r.statement = .ok st) :
    ∃ clause, r.clause = .ok clause ∧ st = Statement.ofClause clause := by
  rw [statement_eq] at h
  cases hclause : r.clause with
  | error e =>
      rw [hclause] at h
      contradiction
  | ok clause =>
      rw [hclause] at h
      cases h
      exact ⟨clause, rfl, rfl⟩

theorem ofSql_statement {r : Request} {clause : Clause} (h : r.clause = .ok clause)
    (hplain : PlainTexts r.rawTexts) : Positional.ofSql (Statement.ofClause clause).sql =
      ⟨String.ofList r.outline.chars, clause.bindings.map (·.1)⟩ := by
  have hbuilt := built_of_clause h
  rw [← hbuilt.outline]
  exact (hbuilt.legible hplain).ofSql

theorem sql_ofSql_statement {r : Request} {st : Statement} (h : r.statement = .ok st)
    (hplain : PlainTexts r.rawTexts) :
    (Positional.ofSql st.sql).sql = String.ofList r.outline.chars := by
  obtain ⟨clause, hclause, rfl⟩ := exists_clause h
  rw [ofSql_statement hclause hplain]

/-- A statement that was built for a request reaches a server as the outline of the
request.  Its values are found for all question marks, and the value of every slot is
bound at the question mark that stands for it. -/
theorem values_reach_slots {r : Request} {st : Statement} (h : r.statement = .ok st)
    (hplain : PlainTexts r.rawTexts) :
    (Positional.ofSql st.sql).sql = String.ofList r.outline.chars ∧
      Link.orderedValues (Positional.ofSql st.sql).names (.named st.bindings) =
        .ok r.outline.values ∧
      r.outline.values = r.columns.map (·.2) ++ r.compared ∧
      (Positional.ofSql st.sql).names.length = r.columns.length + r.compared.length ∧
      (Positional.ofSql st.sql).names.Nodup := by
  obtain ⟨clause, hclause, rfl⟩ := exists_clause h
  have hbuilt := built_of_clause hclause
  have hvalues : clause.bindings.map (·.2) = r.outline.values := by
    rw [← Clause.values_outline, hbuilt.outline]
  have hcount : clause.bindings.length = r.columns.length + r.compared.length := by
    have hlength := congrArg List.length (hvalues.trans r.values_outline)
    rw [List.length_map, List.length_append, List.length_map] at hlength
    exact hlength
  rw [ofSql_statement hclause hplain]
  refine ⟨rfl, ?_, r.values_outline, ?_, hbuilt.names⟩
  · rw [← hvalues]
    exact Link.namedValues_ofList hbuilt.names
  · rw [List.length_map]
    exact hcount

/-- An update whose columns ask for placeholders that collide, are reserved or cannot
stand behind a colon. -/
def quarrelsome : Request :=
  .update "us\x60ers"
    (Bindings.ofList [("id", .int 1), (" \x60 ", .int 2), (" id\x60", .int 3),
      ("_where_param_0", .int 4), ("a' :id -- ", .int 5)])
    (.group .or [.raw "deleted = 0", .compare "x\" # :id" .less (.int 6),
      .isIn "id" true [.int 7, .int 8]]) 9

theorem values_reach_slots_quarrelsome :
    ∃ st, quarrelsome.statement = .ok st ∧
      Link.orderedValues (Positional.ofSql st.sql).names (.named st.bindings) =
        .ok [.int 1, .int 3, .int 4, .int 5, .int 6, .int 7, .int 8] := by
  have hplain : PlainTexts quarrelsome.rawTexts := by decide
  refine ⟨_, rfl, ?_⟩
  exact (values_reach_slots rfl hplain).2.1

end Request

end TableGateway
