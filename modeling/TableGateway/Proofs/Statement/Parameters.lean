import TableGateway.Proofs.Condition.Counting
import TableGateway.Proofs.Statement.Request

/-!
# Parameters

A statement binds the values of its columns and those of its condition under names that its
text has behind colons.  The names of the columns differ from each other and from those of
every condition, whatever the columns are called.  So the values of an update are those of its
assignments followed by those of its condition, and none takes the place of another.
-/

namespace TableGateway

namespace Clause

@[simp] theorem sql_nil : sql [] = "" := rfl

@[simp] theorem sql_append (c d : Clause) : sql (c ++ d) = sql c ++ sql d := by
  simp [sql]

@[simp] theorem sql_text (s : String) (c : Clause) : sql (.text s :: c) = s ++ sql c := by
  simp [sql, Fragment.chars]

@[simp] theorem sql_ofName (name : String) (c : Clause) :
    sql (.ofName name :: c) = Identifier.quote name ++ sql c := by
  apply String.toList_inj.mp
  simp [sql, Fragment.chars, Fragment.ofName, Identifier.quote, Identifier.clean]

@[simp] theorem bindings_ofName (name : String) (c : Clause) :
    bindings (.ofName name :: c) = bindings c := rfl

end Clause

namespace Condition

theorem compile_eq_ok_iff {c : Condition} {sql : String} {bound : Bindings} :
    c.compile = .ok (sql, bound) ↔
      ∃ clause, Statement.whereClause c = .ok clause ∧ sql = clause.sql ∧
        bound = Bindings.ofList clause.bindings := by
  rw [Statement.compile_eq]
  cases Statement.whereClause c <;> simp [Except.map, eq_comm]

theorem names_of_compile {c : Condition} {sql : String} {bound : Bindings}
    (h : c.compile = .ok (sql, bound)) : bound.names = numberedFrom 0 c.values.length := by
  have hfrom : c.compileFrom 0 = (.ok (sql, bound), (c.compileFrom 0).2) := by
    rw [← h]
    rfl
  exact names_of_compileFrom hfrom

end Condition

namespace Statement

open Assignment

def insertSql (table : String) (list : List Assignment) (mode : InsertMode) : String :=
  insertVerb mode ++ Identifier.quote table ++ " (" ++
    Clause.sql (Clause.join ", " (list.map fun a => [a.name])) ++ ") VALUES (" ++
    Clause.sql (Clause.join ", " (list.map fun a => [a.bound])) ++ ")" ++
    (if mode = .updating then Clause.sql (updateOnDuplicate list) else "")

def updateSql (table : String) (list : List Assignment) (restriction : String)
    (limit : UInt64) : String :=
  "UPDATE " ++ Identifier.quote table ++ " SET " ++
    Clause.sql (Clause.join ", " (list.map fun a => [a.name, .text " = ", a.bound])) ++
    " WHERE " ++ restriction ++ Clause.sql (limitClause limit)

theorem map_ofClause_eq_ok_iff {result : Except Error Clause} {st : Statement} :
    result.map ofClause = .ok st ↔ ∃ clause, result = .ok clause ∧ st = ofClause clause := by
  cases result <;> simp [Except.map, eq_comm]

theorem insert_eq_ok_iff {table : String} {values : Bindings} {mode : InsertMode}
    {st : Statement} :
    insert table values mode = .ok st ↔
      ofBindings values ≠ [] ∧
        st = ⟨insertSql table (ofBindings values) mode,
          Bindings.ofList (parameters (ofBindings values))⟩ := by
  have hnames := Request.bindings_joined_unbound ", " values (fun a => [a.name]) fun a => rfl
  have hbound := Request.bindings_joined_bound ", " (ofBindings values) (fun a => [a.bound])
    fun a => rfl
  have hupdates := Request.bindings_updateOnDuplicate values
  rw [insert, map_ofClause_eq_ok_iff]
  simp only [insertClause_eq_ok_iff, and_assoc, exists_and_left, exists_eq_left]
  refine and_congr_right fun _ => ?_
  rw [ofClause]
  by_cases hmode : mode = .updating <;>
    simp [hmode, insertSql, hnames, hbound, hupdates, String.append_assoc]

theorem ofClause_update (table : String) (values : Bindings) {condition : Condition}
    (limit : UInt64) {restriction : Clause} (h : whereClause condition = .ok restriction) :
    ofClause ([.text "UPDATE ", .ofName table, .text " SET "] ++
      Clause.join ", " ((ofBindings values).map fun a => [a.name, .text " = ", a.bound]) ++
      [.text " WHERE "] ++ restriction ++ limitClause limit) =
    ⟨updateSql table (ofBindings values) restriction.sql limit,
      (Bindings.ofList (parameters (ofBindings values))).merge
        (Bindings.ofList restriction.bindings)⟩ := by
  have hbound := Request.bindings_joined_bound ", " (ofBindings values)
    (fun a => [a.name, .text " = ", a.bound]) fun a => rfl
  have hlimit := bindings_limitClause limit
  have hentries := (Request.compiled_of_ok h).toList_ofList
  have hmerge := Bindings.merge_eq_ofList hentries (parameters (ofBindings values))
  simp [ofClause, updateSql, hbound, hlimit, hmerge, String.append_assoc]

theorem update_eq_ok_iff {table : String} {values : Bindings} {condition : Condition}
    {limit : UInt64} {st : Statement} :
    update table values condition limit = .ok st ↔
      ofBindings values ≠ [] ∧ ∃ restriction bound, condition.compile = .ok (restriction, bound) ∧
        st = ⟨updateSql table (ofBindings values) restriction limit,
          (Bindings.ofList (parameters (ofBindings values))).merge bound⟩ := by
  rw [update, map_ofClause_eq_ok_iff]
  simp only [updateClause_eq_ok_iff, Condition.compile_eq_ok_iff]
  constructor
  · rintro ⟨-, ⟨hne, restriction, h, rfl⟩, rfl⟩
    exact ⟨hne, _, _, ⟨restriction, h, rfl, rfl⟩, ofClause_update table values limit h⟩
  · rintro ⟨hne, -, -, ⟨restriction, h, rfl, rfl⟩, rfl⟩
    exact ⟨_, ⟨hne, restriction, h, rfl⟩, (ofClause_update table values limit h).symm⟩

theorem placeholder_notMem_names {values : Bindings} {a : Assignment}
    (ha : a ∈ ofBindings values) {c : Condition} {sql : String} {bound : Bindings}
    (h : c.compile = .ok (sql, bound)) : a.placeholder ∉ bound.names := by
  rw [Condition.names_of_compile h]
  intro hmem
  obtain ⟨n, -, hn⟩ := List.mem_map.mp hmem
  exact placeholder_ne_numbered ha n hn.symm

theorem holds_parameters (values : Bindings) :
    (Bindings.ofList (parameters (ofBindings values))).Holds (parameters (ofBindings values)) := by
  apply (Bindings.indexed_ofList _).holds
  apply Bindings.toList_ofList
  rw [names_parameters]
  exact nodup_placeholders values

theorem holds_merge (values : Bindings) {c : Condition} {sql : String} {bound : Bindings}
    (h : c.compile = .ok (sql, bound)) :
    ((Bindings.ofList (parameters (ofBindings values))).merge bound).Holds
      (parameters (ofBindings values) ++ bound.toList) := by
  have hnames : ((parameters (ofBindings values) ++ bound.toList).map (·.1)).Nodup := by
    have hbound : bound.toList.map (·.1) = _ := Condition.names_of_compile h
    rw [List.map_append, names_parameters, hbound]
    exact Request.nodup_names values c.values.length
  rw [Bindings.merge_eq_ofList rfl]
  exact (Bindings.indexed_ofList _).holds (Bindings.toList_ofList hnames)

/-- The parameters of an insertion are those of its assignments.  The parameters of an update
are those of its assignments and, behind them, those of its condition. -/
theorem parameters_stay_apart (values : Bindings) :
    let list := ofBindings values
    list.map (fun a => (a.column, a.value)) = values.columns ∧
    (list.map (·.placeholder)).Nodup ∧
    (∀ a ∈ list, Identifier.isPlaceholderName a.placeholder = true) ∧
    (∀ c sql bound, Condition.compile c = .ok (sql, bound) →
      ∀ a ∈ list, a.placeholder ∉ bound.names) ∧
    (∀ table mode st, insert table values mode = .ok st ↔
      list ≠ [] ∧ st = ⟨insertSql table list mode, Bindings.ofList (parameters list)⟩) ∧
    (Bindings.ofList (parameters list)).Holds (parameters list) ∧
    (∀ table c limit st, update table values c limit = .ok st ↔
      list ≠ [] ∧ ∃ sql bound, Condition.compile c = .ok (sql, bound) ∧
        st = ⟨updateSql table list sql limit,
          (Bindings.ofList (parameters list)).merge bound⟩) ∧
    (∀ c sql bound, Condition.compile c = .ok (sql, bound) →
      ((Bindings.ofList (parameters list)).merge bound).Holds
        (parameters list ++ bound.toList)) := by
  intro list
  refine ⟨map_ofBindings values, nodup_placeholders values, ?names, ?apart, ?insert,
    holds_parameters values, ?update, ?merge⟩
  case names => exact fun a ha => isPlaceholderName_placeholder ha
  case apart => exact fun c sql bound h a ha => placeholder_notMem_names ha h
  case insert => exact fun table mode st => insert_eq_ok_iff
  case update => exact fun table c limit st => update_eq_ok_iff
  case merge => exact fun c sql bound h => holds_merge values h

example :
    (ofBindings (Bindings.ofList [("_value_param_4", .null), ("`", .null), ("a", .null),
      ("a``", .null), ("_where_param_0", .null)])).map (·.placeholder) =
      ["_value_param_0", "a", "_value_param_3", "_value_param_4"] := by
  decide +kernel

end Statement

end TableGateway
