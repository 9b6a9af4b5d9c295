import TableGateway.Proofs.Sql.Masking
import TableGateway.Proofs.Statement.Binding

/-!
# Statements without their names

The text of a statement in which every quoted name is masked depends on the shape of its
request only: on the structure of its condition, on the directions of its order, on
its limits, and on which of its columns are left out.  Neither the content of a name nor
a value can change it.
-/

namespace TableGateway

open Placeholder

/-! ## Shapes -/

namespace Condition

mutual

def skeleton : Condition → Condition
  | .all => .all
  | .raw sql => .raw sql
  | .group op members => .group op (memberSkeletons members)
  | .compare _ op _ => .compare "" op .null
  | .isNull _ negated => .isNull "" negated
  | .between _ negated _ _ => .between "" negated .null .null
  | .isIn _ negated values => .isIn "" negated (List.replicate values.length .null)

def memberSkeletons : List Condition → List Condition
  | [] => []
  | c :: cs => skeleton c :: memberSkeletons cs

end

end Condition

/-- Which columns of an order are left out, and which are descending. -/
def OrderBy.shape : Option OrderBy → List (Bool × Bool)
  | some (.columns list) =>
    list.map fun key => (Identifier.clean key.1 = "", OrderBy.isDescending key.2)
  | _ => []

/-- Which entries of a map are left out since nothing is left of their columns. -/
def Bindings.shape (m : Bindings) : List Bool :=
  m.toList.map fun e => Identifier.clean e.1 = ""

/-- What is left of a request without its names and values. -/
inductive Shape where
  | select (condition : Condition) (order : List (Bool × Bool)) (limit offset : UInt64)
  | insert (values : List Bool) (mode : InsertMode)
  | update (values : List Bool) (condition : Condition) (limit : UInt64)
  | delete (condition : Condition) (limit : UInt64)

def Request.shape : Request → Shape
  | .select _ condition order limit offset =>
    .select condition.skeleton (OrderBy.shape order) limit offset
  | .insert _ values mode => .insert values.shape mode
  | .update _ values condition limit => .update values.shape condition.skeleton limit
  | .delete _ condition limit => .delete condition.skeleton limit

/-! ## Masked outlines -/

namespace Condition

theorem masked_asked (token : List Char) (cleaned : String) (op : Operator)
    (operands : List Value) :
    Outline.masked token (Outline.asked cleaned op operands) =
      token ++ ((" " ++ op.sql ++ op.before).toList ++
        op.between.toList.intercalate (List.replicate operands.length ['?']) ++
        op.after.toList) := by
  rw [Outline.asked, Outline.masked_name, Outline.masked_append, Outline.masked_append,
    Outline.masked_text, Outline.masked_text,
    Outline.masked_join_const token op.between operands _ ['?'] fun v => rfl]

theorem masked_grouped (token : List Char) (op : Connective) {os ps : List Outline}
    (h : os.map (Outline.masked token) = ps.map (Outline.masked token)) :
    Outline.masked token (Outline.grouped op os) =
      Outline.masked token (Outline.grouped op ps) := by
  have hparts : ∀ qs : List Outline,
      (qs.map fun o => Outline.text "(" ++ o ++ Outline.text ")").map (Outline.masked token) =
        (qs.map (Outline.masked token)).map fun cs => '(' :: (cs ++ [')']) := by
    intro qs
    rw [List.map_map, List.map_map]
    apply List.map_congr_left
    intro q _
    simp
  cases os with
  | nil =>
      rw [List.map_nil, eq_comm, List.map_eq_nil_iff] at h
      rw [h]
  | cons o os =>
      cases ps with
      | nil => simp at h
      | cons p ps =>
          rw [Outline.grouped, Outline.grouped, Outline.masked_join, Outline.masked_join, hparts,
            hparts, h]
          · simp
          · simp

mutual

theorem masked_skeleton (token : List Char) (c : Condition) :
    Outline.masked token c.skeleton.outline = Outline.masked token c.outline := by
  cases c with
  | all => rfl
  | raw sql => rfl
  | group op members =>
      rw [skeleton, outline, outline]
      exact masked_grouped token op (masked_memberSkeletons token members)
  | compare column op value => rw [skeleton, outline, outline, masked_asked, masked_asked]; rfl
  | isNull column negated => rw [skeleton, outline, outline, masked_asked, masked_asked]
  | between column negated low high =>
      rw [skeleton, outline, outline, masked_asked, masked_asked]
      rfl
  | isIn column negated values =>
      rw [skeleton, outline, outline]
      cases values with
      | nil => simp
      | cons v values =>
          rw [if_neg (by simp), if_neg (by simp), masked_asked, masked_asked,
            List.length_replicate]

theorem masked_memberSkeletons (token : List Char) (cs : List Condition) :
    (memberOutlines (memberSkeletons cs)).map (Outline.masked token) =
      (memberOutlines cs).map (Outline.masked token) := by
  cases cs with
  | nil => rfl
  | cons c cs =>
      rw [memberSkeletons, memberOutlines, memberOutlines, List.map_cons, List.map_cons,
        masked_skeleton token c, masked_memberSkeletons token cs]

end

theorem masked_of_skeleton {c d : Condition} (h : c.skeleton = d.skeleton) (token : List Char) :
    Outline.masked token c.outline = Outline.masked token d.outline := by
  rw [← masked_skeleton, h, masked_skeleton]

end Condition

theorem length_columns (m : Bindings) : m.columns.length = m.shape.count false := by
  rw [Bindings.columns, Bindings.shape]
  induction m.toList with
  | nil => rfl
  | cons e entries ih =>
      rw [keptColumns] at ih ⊢
      rw [List.filterMap_cons, List.map_cons, List.count_cons]
      by_cases hempty : Identifier.clean e.1 = ""
      · simp [hempty, ih]
      · simp [hempty, ih]

namespace OrderBy

def directions (shape : List (Bool × Bool)) : List Bool :=
  (shape.filter fun key => !key.1).map (·.2)

theorem map_keys (list : List (String × String)) :
    (keys list).map (·.2) = directions (shape (some (.columns list))) := by
  rw [keys, shape, directions]
  induction list with
  | nil => rfl
  | cons key list ih =>
      rw [List.filterMap_cons, List.map_cons, List.filter_cons]
      by_cases hempty : Identifier.clean key.1 = ""
      · simp [hempty, ih]
      · simp [hempty, ih]

def maskedKey (token : List Char) (descending : Bool) : List Char :=
  token ++ (if descending then " DESC" else " ASC").toList

def maskedClause (token : List Char) (directions : List Bool) : List Char :=
  if directions.isEmpty then []
  else " ORDER BY ".toList ++ ", ".toList.intercalate (directions.map (maskedKey token))

theorem masked_orderClause {order : Option OrderBy} (hraw : rawTexts order = [])
    (token : List Char) :
    Outline.masked token (Statement.orderClause order).outline =
      maskedClause token (directions (shape order)) := by
  cases order with
  | none => rfl
  | some order =>
      cases order with
      | raw sql => simp [rawTexts] at hraw
      | columns list =>
          rw [← map_keys, maskedClause]
          cases hkeys : keys list with
          | nil => simp [Statement.orderClause, clause?, hkeys]
          | cons key rest =>
              have hclause : Statement.orderClause (some (.columns list)) = .text " ORDER BY " ::
                  Clause.join ", " ((key :: rest).map keyClause) := by
                simp [Statement.orderClause, clause?, hkeys]
              have hparts : ((key :: rest).map keyClause).map
                    (fun c => Outline.masked token (Clause.outline c)) =
                  ((key :: rest).map (·.2)).map (maskedKey token) := by
                rw [List.map_map, List.map_map]
                apply List.map_congr_left
                intro k _
                simp [keyClause, maskedKey, Fragment.outline]
              rw [hclause, Clause.outline_cons, Outline.masked_append, Clause.outline_join,
                Outline.masked_join, List.map_map, Function.comp_def, hparts, Fragment.outline,
                Outline.masked_text]
              rfl

end OrderBy

namespace Request

theorem masked_insertedOutline (token : List Char) {cs ds : List (String × Value)}
    (h : cs.length = ds.length) :
    Outline.masked token (insertedOutline cs) = Outline.masked token (insertedOutline ds) := by
  have hnames := fun l : List (String × Value) => Outline.masked_join_const token ", " l
    (fun c => [.name c.1]) (token ++ []) fun c => rfl
  have hslots := fun l : List (String × Value) => Outline.masked_join_const token ", " l
    (fun c => [.slot c.2]) ['?'] fun c => rfl
  simp only [insertedOutline, Outline.masked_append, hnames, hslots, h]

theorem masked_updatedOutline (token : List Char) {cs ds : List (String × Value)}
    (h : cs.length = ds.length) :
    Outline.masked token (updatedOutline cs) = Outline.masked token (updatedOutline ds) := by
  have hpart : ∀ c : String × Value, Outline.masked token
      ([.name c.1] ++ Outline.text " = VALUES(" ++ [.name c.1] ++ Outline.text ")") =
        token ++ (" = VALUES(".toList ++ (token ++ ")".toList)) := by
    intro c
    simp
  rw [updatedOutline, updatedOutline, Outline.masked_append, Outline.masked_append,
    Outline.masked_join_const token ", " cs _ _ hpart,
    Outline.masked_join_const token ", " ds _ _ hpart, h]

theorem masked_assignedOutline (token : List Char) {cs ds : List (String × Value)}
    (h : cs.length = ds.length) :
    Outline.masked token (assignedOutline cs) = Outline.masked token (assignedOutline ds) := by
  have hpart : ∀ c : String × Value, Outline.masked token
      ([.name c.1] ++ Outline.text " = " ++ [.slot c.2]) = token ++ (" = ".toList ++ ['?']) := by
    intro c
    simp
  rw [assignedOutline, assignedOutline, Outline.masked_join_const token ", " cs _ _ hpart,
    Outline.masked_join_const token ", " ds _ _ hpart, h]

theorem masked_outline_of_shape {q r : Request} (hq : q.rawTexts = []) (hr : r.rawTexts = [])
    (hshape : q.shape = r.shape) (token : List Char) :
    Outline.masked token q.outline = Outline.masked token r.outline := by
  have hlength : ∀ {m n : Bindings}, m.shape = n.shape → m.columns.length = n.columns.length := by
    intro m n hmn
    rw [length_columns, length_columns, hmn]
  cases q with
  | select table condition order limit offset =>
      cases r with
      | select table' condition' order' limit' offset' =>
          simp only [shape, Shape.select.injEq] at hshape
          obtain ⟨hcondition, horder, rfl, rfl⟩ := hshape
          rw [rawTexts, List.append_eq_nil_iff] at hq hr
          simp only [outline, tableName, Outline.masked_append, Outline.masked_text,
            Outline.masked_name, Condition.masked_of_skeleton hcondition,
            OrderBy.masked_orderClause hq.2, OrderBy.masked_orderClause hr.2, horder]
      | insert => simp [shape] at hshape
      | update => simp [shape] at hshape
      | delete => simp [shape] at hshape
  | insert table values mode =>
      cases r with
      | insert table' values' mode' =>
          simp only [shape, Shape.insert.injEq] at hshape
          obtain ⟨hvalues, rfl⟩ := hshape
          have hcount := hlength hvalues
          simp only [outline, tableName, Outline.masked_append, Outline.masked_text,
            Outline.masked_name, masked_insertedOutline token hcount]
          split
          · rw [masked_updatedOutline token hcount]
          · rfl
      | select => simp [shape] at hshape
      | update => simp [shape] at hshape
      | delete => simp [shape] at hshape
  | update table values condition limit =>
      cases r with
      | update table' values' condition' limit' =>
          simp only [shape, Shape.update.injEq] at hshape
          obtain ⟨hvalues, hcondition, rfl⟩ := hshape
          simp only [outline, tableName, Outline.masked_append, Outline.masked_text,
            Outline.masked_name, Condition.masked_of_skeleton hcondition,
            masked_assignedOutline token (hlength hvalues)]
      | select => simp [shape] at hshape
      | insert => simp [shape] at hshape
      | delete => simp [shape] at hshape
  | delete table condition limit =>
      cases r with
      | delete table' condition' limit' =>
          simp only [shape, Shape.delete.injEq] at hshape
          obtain ⟨hcondition, rfl⟩ := hshape
          simp only [outline, tableName, Outline.masked_append, Outline.masked_text,
            Outline.masked_name, Condition.masked_of_skeleton hcondition]
      | select => simp [shape] at hshape
      | insert => simp [shape] at hshape
      | update => simp [shape] at hshape

end Request

/-! ## Clean outlines -/

namespace Condition

theorem clean_asked (column : String) (op : Operator) (operands : List Value) :
    (Outline.asked (Identifier.clean column) op operands).Clean := by
  have hname := Outline.clean_name (Identifier.quoteMark_notMem_clean column)
  have hoperator := Outline.clean_text (isPlain_operator op)
  have hoperands : (Outline.join op.between (operands.map fun v => [.slot v])).Clean := by
    apply Outline.clean_join (isPlain_between_after op).1
    intro o ho
    obtain ⟨v, -, rfl⟩ := List.mem_map.mp ho
    exact Outline.clean_slot v
  have hafter : (Outline.text op.after).Clean := Outline.clean_text (isPlain_between_after op).2
  exact hname.append ((hoperator.append hoperands).append hafter)

theorem clean_grouped (op : Connective) {os : List Outline} (h : ∀ o ∈ os, o.Clean) :
    (Outline.grouped op os).Clean := by
  cases os with
  | nil => exact Outline.clean_text (by decide)
  | cons o os =>
      rw [Outline.grouped]
      · apply Outline.clean_join (isPlain_connective op)
        intro p hp
        obtain ⟨q, hq, rfl⟩ := List.mem_map.mp hp
        have hopen : (Outline.text "(").Clean := Outline.clean_text (by decide)
        exact (hopen.append (h q hq)).append (Outline.clean_text (by decide))
      · simp

mutual

theorem clean_outline {c : Condition} (h : PlainTexts c.rawTexts) : c.outline.Clean := by
  cases c with
  | all => exact Outline.clean_text (by decide)
  | raw sql => exact Outline.clean_text (h sql (by simp [rawTexts]))
  | group op members =>
      rw [outline]
      exact clean_grouped op (clean_memberOutlines h)
  | compare column op value => exact clean_asked column _ [value]
  | isNull column negated => exact clean_asked column _ []
  | between column negated low high => exact clean_asked column _ [low, high]
  | isIn column negated values =>
      rw [outline]
      split
      · apply Outline.clean_text
        cases negated <;> decide
      · exact clean_asked column _ values

theorem clean_memberOutlines {cs : List Condition} (h : PlainTexts (memberRawTexts cs)) :
    ∀ o ∈ memberOutlines cs, o.Clean := by
  cases cs with
  | nil => simp [memberOutlines]
  | cons c cs =>
      rw [memberRawTexts] at h
      intro o ho
      rw [memberOutlines, List.mem_cons] at ho
      rcases ho with rfl | ho
      · exact clean_outline fun s hs => h s (List.mem_append_left _ hs)
      · exact clean_memberOutlines (fun s hs => h s (List.mem_append_right _ hs)) o ho

end

end Condition

namespace Statement

theorem clean_limitClause (limit : UInt64) : (limitClause limit).outline.Clean := by
  rw [limitClause]
  split
  · simp [Outline.Clean]
  · have hnumber := Outline.clean_text (Text.isPlainText_decimal limit.toNat)
    have hnil : Outline.Clean [] := by simp [Outline.Clean]
    have hverb : (Outline.text " LIMIT ").Clean := Outline.clean_text (by decide)
    exact hverb.append (hnumber.append hnil)

theorem clean_windowClause (limit offset : UInt64) :
    (windowClause limit offset).outline.Clean := by
  rw [windowClause]
  split
  · exact clean_limitClause limit
  · have hnil : Outline.Clean [] := by simp [Outline.Clean]
    have hnumber := fun n => Outline.clean_text (Text.isPlainText_decimal n)
    have hlimit : (Outline.text " LIMIT ").Clean := Outline.clean_text (by decide)
    have hoffset : (Outline.text " OFFSET ").Clean := Outline.clean_text (by decide)
    exact hlimit.append ((hnumber _).append (hoffset.append ((hnumber _).append hnil)))

theorem clean_orderClause {order : Option OrderBy} (hraw : OrderBy.rawTexts order = []) :
    (orderClause order).outline.Clean := by
  rcases orderClause_cases order with heq | ⟨sql, rfl, -⟩ | ⟨list, rfl, heq⟩
  · rw [heq]
    simp [Outline.Clean]
  · simp [OrderBy.rawTexts] at hraw
  · have hverb : (Outline.text " ORDER BY ").Clean := Outline.clean_text (by decide)
    rw [heq, Clause.outline_cons, Clause.outline_join, List.map_map]
    refine hverb.append (Outline.clean_join (by decide) ?_)
    intro o ho
    obtain ⟨key, hkey, rfl⟩ := List.mem_map.mp ho
    have hname := Outline.clean_name (quoteMark_notMem_key hkey)
    have hdirection : (Clause.outline [.text (if key.2 then " DESC" else " ASC")]).Clean := by
      cases key.2 <;> exact (Outline.clean_text (by decide)).append (by simp [Outline.Clean])
    exact hname.append hdirection

end Statement

namespace Request

theorem clean_joined {values : Bindings} {spell : String × Value → Outline}
    (h : ∀ c : String × Value, Outline.Clean [.name c.1] → (spell c).Clean) :
    (Outline.join ", " (values.columns.map spell)).Clean := by
  apply Outline.clean_join (by decide)
  intro o ho
  obtain ⟨c, hc, rfl⟩ := List.mem_map.mp ho
  exact h c (Outline.clean_name (Bindings.quoteMark_notMem_columns hc))

theorem clean_insertedOutline (values : Bindings) : (insertedOutline values.columns).Clean := by
  have hopen : (Outline.text " (").Clean := Outline.clean_text (by decide)
  have hmiddle : (Outline.text ") VALUES (").Clean := Outline.clean_text (by decide)
  have hclose : (Outline.text ")").Clean := Outline.clean_text (by decide)
  have hnames : (Outline.join ", " (values.columns.map fun c => [.name c.1])).Clean :=
    clean_joined fun c hname => hname
  have hslots : (Outline.join ", " (values.columns.map fun c => [.slot c.2])).Clean :=
    clean_joined fun c _ => Outline.clean_slot c.2
  exact (((hopen.append hnames).append hmiddle).append hslots).append hclose

theorem clean_updatedOutline (values : Bindings) : (updatedOutline values.columns).Clean := by
  have hverb : (Outline.text " ON DUPLICATE KEY UPDATE ").Clean := Outline.clean_text (by decide)
  refine hverb.append (clean_joined fun c hname => ?_)
  have hvalues : (Outline.text " = VALUES(").Clean := Outline.clean_text (by decide)
  exact ((hname.append hvalues).append hname).append (Outline.clean_text (by decide))

theorem clean_assignedOutline (values : Bindings) : (assignedOutline values.columns).Clean := by
  refine clean_joined fun c hname => ?_
  have hequals : (Outline.text " = ").Clean := Outline.clean_text (by decide)
  exact (hname.append hequals).append (Outline.clean_slot c.2)

theorem clean_outline {r : Request} (hraw : r.rawTexts = []) : r.outline.Clean := by
  have htable := fun table => Outline.clean_name (Identifier.quoteMark_notMem_clean table)
  have hwhere : (Outline.text " WHERE ").Clean := Outline.clean_text (by decide)
  have hcondition : ∀ {c : Condition}, c.rawTexts = [] → c.outline.Clean :=
    fun hc => Condition.clean_outline (plainTexts_of_eq_nil hc)
  cases r with
  | select table condition order limit offset =>
      rw [rawTexts, List.append_eq_nil_iff] at hraw
      have hverb : (Outline.text "SELECT * FROM ").Clean := Outline.clean_text (by decide)
      exact ((((hverb.append (htable table)).append hwhere).append (hcondition hraw.1)).append
        (Statement.clean_orderClause hraw.2)).append (Statement.clean_windowClause limit offset)
  | insert table values mode =>
      have hverb : (Outline.text (Statement.insertVerb mode)).Clean := by
        apply Outline.clean_text
        cases mode <;> decide
      refine ((hverb.append (htable table)).append (clean_insertedOutline values)).append ?_
      split
      · exact clean_updatedOutline values
      · simp [Outline.Clean]
  | update table values condition limit =>
      have hverb : (Outline.text "UPDATE ").Clean := Outline.clean_text (by decide)
      have hset : (Outline.text " SET ").Clean := Outline.clean_text (by decide)
      exact (((((hverb.append (htable table)).append hset).append
        (clean_assignedOutline values)).append hwhere).append (hcondition hraw)).append
          (Statement.clean_limitClause limit)
  | delete table condition limit =>
      have hverb : (Outline.text "DELETE FROM ").Clean := Outline.clean_text (by decide)
      exact (((hverb.append (htable table)).append hwhere).append (hcondition hraw)).append
        (Statement.clean_limitClause limit)

/-- Two statements that were built for requests of one shape differ in nothing but what
stands between backticks, once question marks have replaced their placeholders. -/
theorem masked_sql_of_shape {q r : Request} {s t : Statement} (hq : q.statement = .ok s)
    (hr : r.statement = .ok t) (hqraw : q.rawTexts = []) (hrraw : r.rawTexts = [])
    (hshape : q.shape = r.shape) (token : List Char) :
    mask token (Positional.ofSql s.sql).sql.toList =
      mask token (Positional.ofSql t.sql).sql.toList := by
  have hmasked : ∀ {q : Request} {s : Statement}, q.statement = .ok s → q.rawTexts = [] →
      mask token (Positional.ofSql s.sql).sql.toList = Outline.masked token q.outline := by
    intro q s hs hraw
    rw [sql_ofSql_statement hs (plainTexts_of_eq_nil hraw), String.toList_ofList]
    exact Outline.mask_chars (clean_outline hraw) token
  rw [hmasked hq hqraw, hmasked hr hrraw]
  exact masked_outline_of_shape hqraw hrraw hshape token

def harmless : Request :=
  .update "users" (Bindings.ofList [("name", .text "Ann"), (" \x60 ", .int 1)])
    (.group .or [.compare "id" .atMost (.int 2), .isIn "kind" true [.int 3, .int 4]]) 5

/-- The shape of `harmless` with names and values that try to leave their places. -/
def hostile : Request :=
  .update "x\x60; DROP TABLE users -- "
    (Bindings.ofList [("' :name, \x60id\x60 = 1 #", .text "\x60"), ("", .null)])
    (.group .or [.compare "1 OR :_where_param_1" .atMost (.text "?"),
      .isIn "/* \"" true [.null, .text " -- "]]) 5

theorem masked_sql_of_shape_hostile :
    ∃ s t, harmless.statement = .ok s ∧ hostile.statement = .ok t ∧
      mask ['T'] (Positional.ofSql s.sql).sql.toList =
        mask ['T'] (Positional.ofSql t.sql).sql.toList := by
  refine ⟨_, _, rfl, rfl, ?_⟩
  exact masked_sql_of_shape (q := harmless) (r := hostile) rfl rfl rfl rfl rfl ['T']

end Request

end TableGateway
