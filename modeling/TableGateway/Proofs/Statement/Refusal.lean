import TableGateway.Proofs.Condition.Vanishing
import TableGateway.Proofs.Statement.Parts

/-!
# Statements that cannot be built

A selection and a deletion are refused exactly if their condition is, and an insertion
exactly if no column of its values is left.  An update is refused for its columns first, and its
condition is looked at only if there are some.
-/

namespace TableGateway

namespace Assignment

theorem ofEntries_eq_nil_iff (taken : List String) (i : Nat) (entries : List (String × Value)) :
    ofEntries taken i entries = [] ↔ ∀ e ∈ entries, Identifier.clean e.1 = "" := by
  have hcolumns := congrArg (· = []) (map_ofEntries taken i entries)
  rw [← List.map_eq_nil_iff, hcolumns]
  simp [keptColumns]

theorem ofBindings_eq_nil_iff (values : Bindings) :
    ofBindings values = [] ↔ ∀ name ∈ values.names, Identifier.clean name = "" := by
  rw [ofBindings, ofEntries_eq_nil_iff, Bindings.names, List.forall_mem_map]

end Assignment

namespace Statement

variable {table : String} {values : Bindings} {condition : Condition} {mode : InsertMode}
  {order : Option OrderBy} {limit offset : UInt64} {e : Error}

theorem whereClause_eq_error_iff :
    whereClause condition = .error e ↔ condition.compile = .error e := by
  rw [compile_eq]
  cases whereClause condition <;> simp [Except.map]

theorem select_eq_error_iff :
    select table condition order limit offset = .error e ↔ condition.compile = .error e := by
  rw [← whereClause_eq_error_iff, select, selectClause]
  cases whereClause condition <;> simp [bind, Except.bind, pure, Except.pure, Except.map]

theorem delete_eq_error_iff :
    delete table condition limit = .error e ↔ condition.compile = .error e := by
  rw [← whereClause_eq_error_iff, delete, deleteClause]
  cases whereClause condition <;> simp [bind, Except.bind, pure, Except.pure, Except.map]

theorem insert_eq_error_iff :
    insert table values mode = .error e ↔
      (∀ name ∈ values.names, Identifier.clean name = "") ∧
        e = .noColumns (Identifier.clean table) := by
  rw [← Assignment.ofBindings_eq_nil_iff, insert, insertClause, assignments_eq]
  by_cases hempty : Assignment.ofBindings values = []
  · simp [hempty, bind, Except.bind, Except.map, eq_comm]
  · simp [hempty, bind, Except.bind, pure, Except.pure, Except.map]

theorem update_eq_error_iff :
    update table values condition limit = .error e ↔
      ((∀ name ∈ values.names, Identifier.clean name = "") ∧
        e = .noColumns (Identifier.clean table)) ∨
      ((∃ name ∈ values.names, Identifier.clean name ≠ "") ∧ condition.compile = .error e) := by
  have hsome : (∃ name ∈ values.names, Identifier.clean name ≠ "") ↔
      Assignment.ofBindings values ≠ [] := by
    rw [ne_eq, Assignment.ofBindings_eq_nil_iff]
    simp
  rw [hsome, ← Assignment.ofBindings_eq_nil_iff, ← whereClause_eq_error_iff, update, updateClause,
    assignments_eq]
  by_cases hempty : Assignment.ofBindings values = []
  · simp [hempty, bind, Except.bind, Except.map, eq_comm]
  · cases whereClause condition <;>
      simp [hempty, bind, Except.bind, pure, Except.pure, Except.map]

/-- A condition cannot be compiled exactly if a leaf of it asks about a column of which nothing
is left.  The first of these columns is the fault, and the count has come to the values of the
leaves before it.  Statements are refused for their condition and for a want of columns. -/
theorem refused_for_empty_columns :
    (∀ (c : Condition) (n : Nat), (∃ e next, c.compileFrom n = (.error e, next)) ↔
      ∃ leaf ∈ c.leaves, ∃ column ∈ leaf.column?, Identifier.clean column = "") ∧
    (∀ (c : Condition) (n : Nat) (e : Error) (next : Nat),
      c.compileFrom n = (.error e, next) ↔
        ∃ before leaf after column, c.leaves = before ++ leaf :: after ∧
          leaf.column? = some column ∧ Identifier.clean column = "" ∧
          (∀ l ∈ before, ∀ other ∈ l.column?, Identifier.clean other ≠ "") ∧
          e = .malformed (.emptyColumn column) ∧
          next = n + (before.flatMap Condition.values).length) ∧
    (∀ table condition order limit offset e,
      select table condition order limit offset = .error e ↔ condition.compile = .error e) ∧
    (∀ table condition limit e,
      delete table condition limit = .error e ↔ condition.compile = .error e) ∧
    (∀ table values mode e, insert table values mode = .error e ↔
      (∀ name ∈ values.names, Identifier.clean name = "") ∧
        e = .noColumns (Identifier.clean table)) ∧
    ∀ table values condition limit e, update table values condition limit = .error e ↔
      ((∀ name ∈ values.names, Identifier.clean name = "") ∧
        e = .noColumns (Identifier.clean table)) ∨
      ((∃ name ∈ values.names, Identifier.clean name ≠ "") ∧ condition.compile = .error e) := by
  refine ⟨Condition.exists_compileFrom_error_iff, ?fault,
    fun _ _ _ _ _ _ => select_eq_error_iff, fun _ _ _ _ => delete_eq_error_iff,
    fun _ _ _ _ => insert_eq_error_iff, fun _ _ _ _ _ => update_eq_error_iff⟩
  case fault =>
    intro c n e next
    rw [Condition.compileFrom_eq_error_iff]
    constructor
    · rintro ⟨before, column, ⟨leaf, after, hsplit, hcolumn, hempty, hbefore⟩, he, hnext⟩
      exact ⟨before, leaf, after, column, hsplit, hcolumn, hempty,
        fun l hl other hother hclean => hbefore l hl ⟨other, hother, hclean⟩, he, hnext⟩
    · rintro ⟨before, leaf, after, column, hsplit, hcolumn, hempty, hbefore, he, hnext⟩
      exact ⟨before, column, ⟨leaf, after, hsplit, hcolumn, hempty,
        fun l hl ⟨other, hother, hclean⟩ => hbefore l hl other hother hclean⟩, he, hnext⟩

/-- A list without members asks about its column all the same, and the column behind it is
not looked at. -/
example : (Condition.group .or [.between "a" false (.int 1) (.int 2), .group .and [],
    .group .and [.isIn " ` " true [], .isNull "" true]]).compileFrom 5 =
      (.error (.malformed (.emptyColumn " ` ")), 7) := rfl

end Statement

end TableGateway
