import TableGateway.Proofs.Condition.Outline
import TableGateway.Proofs.Statement.Assignments

/-!
# Parts of statements

A statement is built where its condition and its assignments are, and its clause is made
of theirs, of fixed words and of its order and limits.  Orders and limits bind nothing,
and they are legible unless an order is SQL of the caller's own.
-/

namespace TableGateway

open Placeholder

def OrderBy.rawTexts : Option OrderBy → List String
  | some (.raw sql) => [sql]
  | _ => []

/-! ## The tails of statements -/

namespace Statement

theorem legible_number (n : Nat) {c : Clause} (hc : c.Legible) :
    Clause.Legible (Clause.number n :: c) :=
  hc.text_cons (Text.isPlainText_decimal n)

theorem legible_limitClause (limit : UInt64) :
    (limitClause limit).Legible ∧ Apart (limitClause limit).chars := by
  rw [limitClause]
  split
  · exact ⟨Clause.legible_nil, apart_nil⟩
  · refine ⟨(legible_number _ Clause.legible_nil).text_cons (by decide), ?_⟩
    simp [Apart, Fragment.chars, Identifier.isWordPart]

theorem legible_windowClause (limit offset : UInt64) :
    (windowClause limit offset).Legible ∧ Apart (windowClause limit offset).chars := by
  rw [windowClause]
  split
  · exact legible_limitClause limit
  · have hoffset := (legible_number offset.toNat Clause.legible_nil).text_cons
      (s := " OFFSET ") (by decide)
    refine ⟨(legible_number _ hoffset).text_cons (by decide), ?_⟩
    simp [Apart, Fragment.chars, Identifier.isWordPart]

theorem bindings_limitClause (limit : UInt64) : (limitClause limit).bindings = [] := by
  rw [limitClause]
  split <;> rfl

theorem bindings_windowClause (limit offset : UInt64) :
    (windowClause limit offset).bindings = [] := by
  rw [windowClause]
  split
  · exact bindings_limitClause limit
  · rfl

theorem quoteMark_notMem_key {list : List (String × String)} {key : String × Bool}
    (h : key ∈ OrderBy.keys list) : Identifier.quoteMark ∉ key.1.toList := by
  rw [OrderBy.keys, List.mem_filterMap] at h
  obtain ⟨⟨column, direction⟩, -, hkey⟩ := h
  by_cases hempty : Identifier.clean column = ""
  · simp [hempty] at hkey
  · simp only [hempty, if_false, Option.some.injEq] at hkey
    rw [← hkey]
    exact Identifier.quoteMark_notMem_clean column

theorem orderClause_cases (order : Option OrderBy) :
    orderClause order = [] ∨
      (∃ sql, order = some (.raw sql) ∧ orderClause order =
        [.text " ORDER BY ", .text (String.ofList (Text.trim sql.toList))]) ∨
      ∃ list, order = some (.columns list) ∧ orderClause order =
        .text " ORDER BY " :: Clause.join ", " ((OrderBy.keys list).map OrderBy.keyClause) := by
  cases order with
  | none => exact .inl rfl
  | some order =>
      cases order with
      | raw sql =>
          simp only [orderClause, Option.bind_some, OrderBy.clause?]
          by_cases hempty : (Text.trim sql.toList).isEmpty = true
          · left
            simp only [hempty, if_true]
          · right
            left
            exact ⟨sql, rfl, by simp only [hempty, Bool.false_eq_true, if_false]⟩
      | columns list =>
          simp only [orderClause, Option.bind_some, OrderBy.clause?]
          by_cases hempty : (OrderBy.keys list).isEmpty = true
          · left
            simp only [hempty, if_true]
          · right
            right
            exact ⟨list, rfl, by simp only [hempty, Bool.false_eq_true, if_false]⟩

theorem legible_orderClause {order : Option OrderBy}
    (hplain : PlainTexts (OrderBy.rawTexts order)) :
    (orderClause order).Legible ∧ Apart (orderClause order).chars := by
  rcases orderClause_cases order with heq | ⟨sql, rfl, heq⟩ | ⟨list, rfl, heq⟩
  · rw [heq]
    exact ⟨Clause.legible_nil, apart_nil⟩
  · rw [heq]
    refine ⟨Clause.Legible.text_cons (by decide) (Clause.legible_nil.text_cons ?_), ?_⟩
    · have hsql := hplain sql (by simp [OrderBy.rawTexts])
      rw [isPlainText, List.all_eq_true] at hsql
      rw [isPlainText, String.toList_ofList, List.all_eq_true]
      exact fun c hc => hsql c (Text.mem_of_mem_trim hc)
    · simp [Apart, Fragment.chars, Identifier.isWordPart]
  · rw [heq]
    refine ⟨Clause.Legible.text_cons (by decide) (Clause.legible_join (by decide) ?_ ?_), ?_⟩
    · intro rest
      simp [Apart, Identifier.isWordPart]
    · intro c hc
      obtain ⟨key, hkey, rfl⟩ := List.mem_map.mp hc
      refine (Clause.legible_nil.text_cons ?_).name_cons (quoteMark_notMem_key hkey)
      cases key.2 <;> decide
    · simp [Apart, Fragment.chars, Identifier.isWordPart]

theorem bindings_orderClause (order : Option OrderBy) : (orderClause order).bindings = [] := by
  rcases orderClause_cases order with heq | ⟨sql, -, heq⟩ | ⟨list, -, heq⟩
  · rw [heq]
    rfl
  · rw [heq]
    rfl
  · rw [heq, Clause.bindings_text, Clause.bindings_join, List.flatMap_map]
    exact List.flatMap_eq_nil_iff.mpr fun key _ => rfl

/-! ## The parts of statements -/

theorem compile_eq (condition : Condition) :
    condition.compile =
      (whereClause condition).map fun c => (c.sql, Bindings.ofList c.bindings) := by
  unfold whereClause Condition.compile Condition.compileFrom
  rcases condition.whereClause 0 with ⟨e | clause, next⟩ <;> rfl

theorem assignments_eq (table : String) (values : Bindings) :
    assignments table values =
      if Assignment.ofBindings values = [] then .error (.noColumns (Identifier.clean table))
      else .ok (Assignment.ofBindings values) := by
  rw [assignments]
  cases Assignment.ofBindings values <;> rfl

theorem selectClause_eq_ok {table : String} {condition : Condition} {order : Option OrderBy}
    {limit offset : UInt64} {clause : Clause}
    (h : selectClause table condition order limit offset = .ok clause) :
    ∃ restriction, whereClause condition = .ok restriction ∧
      clause = [.text "SELECT * FROM ", .ofName table, .text " WHERE "] ++ restriction ++
        orderClause order ++ windowClause limit offset := by
  cases hrestriction : whereClause condition with
  | error e => simp [selectClause, hrestriction, bind, Except.bind] at h
  | ok restriction =>
      simp only [selectClause, hrestriction, bind, Except.bind, pure, Except.pure,
        Except.ok.injEq] at h
      exact ⟨restriction, rfl, h.symm⟩

theorem insertClause_eq_ok_iff {table : String} {values : Bindings} {mode : InsertMode}
    {clause : Clause} :
    insertClause table values mode = .ok clause ↔ Assignment.ofBindings values ≠ [] ∧
      clause = [.text (insertVerb mode), .ofName table, .text " ("] ++
        Clause.join ", " ((Assignment.ofBindings values).map fun a => [a.name]) ++
        [.text ") VALUES ("] ++
        Clause.join ", " ((Assignment.ofBindings values).map fun a => [a.bound]) ++
        [.text ")"] ++
        (if mode = .updating then updateOnDuplicate (Assignment.ofBindings values) else []) := by
  rw [insertClause, assignments_eq]
  by_cases hempty : Assignment.ofBindings values = []
  · simp [hempty, bind, Except.bind]
  · simp [hempty, bind, Except.bind, pure, Except.pure, eq_comm]

theorem updateClause_eq_ok_iff {table : String} {values : Bindings} {condition : Condition}
    {limit : UInt64} {clause : Clause} :
    updateClause table values condition limit = .ok clause ↔
      Assignment.ofBindings values ≠ [] ∧ ∃ restriction, whereClause condition = .ok restriction ∧
        clause = [.text "UPDATE ", .ofName table, .text " SET "] ++
          Clause.join ", " ((Assignment.ofBindings values).map
            fun a => [a.name, .text " = ", a.bound]) ++
          [.text " WHERE "] ++ restriction ++ limitClause limit := by
  rw [updateClause, assignments_eq]
  by_cases hempty : Assignment.ofBindings values = []
  · simp [hempty, bind, Except.bind]
  · cases hrestriction : whereClause condition with
    | error e => simp [hempty, bind, Except.bind]
    | ok restriction => simp [hempty, bind, Except.bind, pure, Except.pure, eq_comm]

theorem deleteClause_eq_ok {table : String} {condition : Condition} {limit : UInt64}
    {clause : Clause} (h : deleteClause table condition limit = .ok clause) :
    ∃ restriction, whereClause condition = .ok restriction ∧
      clause = [.text "DELETE FROM ", .ofName table, .text " WHERE "] ++ restriction ++
        limitClause limit := by
  cases hrestriction : whereClause condition with
  | error e => simp [deleteClause, hrestriction, bind, Except.bind] at h
  | ok restriction =>
      simp only [deleteClause, hrestriction, bind, Except.bind, pure, Except.pure,
        Except.ok.injEq] at h
      exact ⟨restriction, rfl, h.symm⟩

end Statement

end TableGateway
