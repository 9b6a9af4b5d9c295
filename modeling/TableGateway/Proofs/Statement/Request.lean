import TableGateway.Proofs.Statement.Parts

/-!
# Requests

A request is a call of one of the four builders.  Its outline spells out what a server
gets of the statement: which columns are listed where, and which value stands behind
which question mark.  A clause that is built for a request has that outline, gives all
its placeholders different names, and is legible unless SQL of the caller's own
spoils it.
-/

namespace TableGateway

open Placeholder

inductive Request where
  | select (table : String) (condition : Condition) (order : Option OrderBy)
      (limit offset : UInt64)
  | insert (table : String) (values : Bindings) (mode : InsertMode)
  | update (table : String) (values : Bindings) (condition : Condition) (limit : UInt64)
  | delete (table : String) (condition : Condition) (limit : UInt64)

namespace Request

def statement : Request → Except Error Statement
  | .select table condition order limit offset =>
    Statement.select table condition order limit offset
  | .insert table values mode => Statement.insert table values mode
  | .update table values condition limit => Statement.update table values condition limit
  | .delete table condition limit => Statement.delete table condition limit

def clause : Request → Except Error Clause
  | .select table condition order limit offset =>
    Statement.selectClause table condition order limit offset
  | .insert table values mode => Statement.insertClause table values mode
  | .update table values condition limit => Statement.updateClause table values condition limit
  | .delete table condition limit => Statement.deleteClause table condition limit

theorem statement_eq (r : Request) : r.statement = r.clause.map Statement.ofClause := by
  cases r <;> rfl

def columns : Request → List (String × Value)
  | .select .. => []
  | .insert _ values _ => values.columns
  | .update _ values _ _ => values.columns
  | .delete .. => []

def compared : Request → List Value
  | .select _ condition _ _ _ => condition.values
  | .insert .. => []
  | .update _ _ condition _ => condition.values
  | .delete _ condition _ => condition.values

def rawTexts : Request → List String
  | .select _ condition order _ _ => condition.rawTexts ++ OrderBy.rawTexts order
  | .insert .. => []
  | .update _ _ condition _ => condition.rawTexts
  | .delete _ condition _ => condition.rawTexts

def tableName (table : String) : Outline :=
  [.name (Identifier.clean table)]

def insertedOutline (columns : List (String × Value)) : Outline :=
  Outline.text " (" ++ Outline.join ", " (columns.map fun c => [.name c.1]) ++
    Outline.text ") VALUES (" ++ Outline.join ", " (columns.map fun c => [.slot c.2]) ++
    Outline.text ")"

def updatedOutline (columns : List (String × Value)) : Outline :=
  Outline.text " ON DUPLICATE KEY UPDATE " ++
    Outline.join ", " (columns.map fun c =>
      [.name c.1] ++ Outline.text " = VALUES(" ++ [.name c.1] ++ Outline.text ")")

def assignedOutline (columns : List (String × Value)) : Outline :=
  Outline.join ", " (columns.map fun c => [.name c.1] ++ Outline.text " = " ++ [.slot c.2])

def outline : Request → Outline
  | .select table condition order limit offset =>
    Outline.text "SELECT * FROM " ++ tableName table ++ Outline.text " WHERE " ++
      condition.outline ++ (Statement.orderClause order).outline ++
      (Statement.windowClause limit offset).outline
  | .insert table values mode =>
    Outline.text (Statement.insertVerb mode) ++ tableName table ++
      insertedOutline values.columns ++
      (if mode = .updating then updatedOutline values.columns else [])
  | .update table values condition limit =>
    Outline.text "UPDATE " ++ tableName table ++ Outline.text " SET " ++
      assignedOutline values.columns ++ Outline.text " WHERE " ++ condition.outline ++
      (Statement.limitClause limit).outline
  | .delete table condition limit =>
    Outline.text "DELETE FROM " ++ tableName table ++ Outline.text " WHERE " ++
      condition.outline ++ (Statement.limitClause limit).outline

end Request

/-! ## Clauses of requests -/

namespace Request

structure Built (r : Request) (clause : Clause) : Prop where
  outline : clause.outline = r.outline
  names : (clause.bindings.map (·.1)).Nodup
  legible : PlainTexts r.rawTexts → clause.Legible

theorem compiled_of_ok {c : Condition} {clause : Clause}
    (h : Statement.whereClause c = .ok clause) :
    c.Compiled 0 clause (0 + c.values.length) := by
  have hpair : c.whereClause 0 = (.ok clause, (c.whereClause 0).2) := by
    rw [← h]
    rfl
  have hcompiled := Condition.compiled_of_whereClause hpair
  rwa [hcompiled.next] at hcompiled

theorem outline_joined (separator : String) (values : Bindings) (write : Assignment → Clause)
    (spell : String × Value → Outline)
    (h : ∀ a, (write a).outline = spell (a.column, a.value)) :
    (Clause.join separator ((Assignment.ofBindings values).map write)).outline =
      Outline.join separator (values.columns.map spell) := by
  rw [Clause.outline_join, ← Assignment.map_ofBindings, List.map_map, List.map_map]
  congr 1
  apply List.map_congr_left
  intro a _
  exact h a

theorem legible_joined {separator : String} (hplain : isPlainText separator = true)
    (hapart : ∀ cs, Apart (separator.toList ++ cs)) {values : Bindings}
    {write : Assignment → Clause}
    (h : ∀ a : Assignment, Identifier.quoteMark ∉ a.column.toList →
      Identifier.isPlaceholderName a.placeholder = true → (write a).Legible) :
    (Clause.join separator ((Assignment.ofBindings values).map write)).Legible := by
  apply Clause.legible_join hplain hapart
  intro c hc
  obtain ⟨a, ha, rfl⟩ := List.mem_map.mp hc
  exact h a (Assignment.quoteMark_notMem_column ha) (Assignment.isPlaceholderName_placeholder ha)

theorem bindings_joined_unbound (separator : String) (values : Bindings)
    (write : Assignment → Clause) (h : ∀ a, (write a).bindings = []) :
    (Clause.join separator ((Assignment.ofBindings values).map write)).bindings = [] := by
  rw [Clause.bindings_join, List.flatMap_map, List.flatMap_eq_nil_iff]
  intro a _
  exact h a

theorem bindings_joined_bound (separator : String) (list : List Assignment)
    (write : Assignment → Clause) (h : ∀ a, (write a).bindings = [(a.placeholder, a.value)]) :
    (Clause.join separator (list.map write)).bindings = Assignment.parameters list := by
  rw [Clause.bindings_join, List.flatMap_map]
  simp only [h]
  exact List.map_eq_flatMap.symm

theorem names_joined_bound (separator : String) (values : Bindings)
    (write : Assignment → Clause) (h : ∀ a, (write a).bindings = [(a.placeholder, a.value)]) :
    (Clause.join separator ((Assignment.ofBindings values).map write)).bindings.map (·.1) =
      (Assignment.ofBindings values).map (·.placeholder) := by
  rw [bindings_joined_bound separator _ write h, Assignment.names_parameters]

theorem apart_comma (cs : List Char) : Apart (", ".toList ++ cs) := by
  simp [Apart, Identifier.isWordPart]

theorem nodup_names (values : Bindings) (count : Nat) :
    ((Assignment.ofBindings values).map (·.placeholder) ++
      Condition.numberedFrom 0 count).Nodup := by
  rw [List.nodup_append]
  refine ⟨Assignment.nodup_placeholders values, Condition.nodup_numberedFrom 0 count, ?_⟩
  intro p hp q hq
  obtain ⟨a, ha, rfl⟩ := List.mem_map.mp hp
  obtain ⟨n, -, rfl⟩ := List.mem_map.mp hq
  exact Assignment.placeholder_ne_numbered ha n

theorem built_select {table : String} {condition : Condition} {order : Option OrderBy}
    {limit offset : UInt64} {clause : Clause}
    (h : Statement.selectClause table condition order limit offset = .ok clause) :
    Built (.select table condition order limit offset) clause := by
  obtain ⟨restriction, hrestriction, rfl⟩ := Statement.selectClause_eq_ok h
  have hcompiled := compiled_of_ok hrestriction
  constructor
  · simp [outline, tableName, hcompiled.outline, Fragment.outline, Fragment.ofName]
  · simp [Fragment.ofName, hcompiled.names, Condition.nodup_numberedFrom,
      Statement.bindings_orderClause, Statement.bindings_windowClause]
  · intro hplain
    rw [rawTexts] at hplain
    have hcondition := hcompiled.legible fun s hs => hplain s (List.mem_append_left _ hs)
    have hplainOrder : PlainTexts (OrderBy.rawTexts order) :=
      fun s hs => hplain s (List.mem_append_right _ hs)
    have horder := Statement.legible_orderClause hplainOrder
    have hwindow := Statement.legible_windowClause limit offset
    have htail := (hcondition.append horder.1 horder.2).append hwindow.1 hwindow.2
    have hfrom := (htail.text_cons (s := " WHERE ") (by decide)).ofName_cons table
    simpa using hfrom.text_cons (s := "SELECT * FROM ") (by decide)

theorem built_delete {table : String} {condition : Condition} {limit : UInt64} {clause : Clause}
    (h : Statement.deleteClause table condition limit = .ok clause) :
    Built (.delete table condition limit) clause := by
  obtain ⟨restriction, hrestriction, rfl⟩ := Statement.deleteClause_eq_ok h
  have hcompiled := compiled_of_ok hrestriction
  constructor
  · simp [outline, tableName, hcompiled.outline, Fragment.outline, Fragment.ofName]
  · simp [Fragment.ofName, hcompiled.names, Condition.nodup_numberedFrom,
      Statement.bindings_limitClause]
  · intro hplain
    have hlimit := Statement.legible_limitClause limit
    have htail := (hcompiled.legible hplain).append hlimit.1 hlimit.2
    have hfrom := (htail.text_cons (s := " WHERE ") (by decide)).ofName_cons table
    simpa using hfrom.text_cons (s := "DELETE FROM ") (by decide)

theorem legible_updateOnDuplicate (values : Bindings) :
    (Statement.updateOnDuplicate (Assignment.ofBindings values)).Legible := by
  refine (legible_joined (by decide) apart_comma ?_).text_cons (by decide)
  intro a hcolumn _
  have hclose : Clause.Legible [.text ")"] := Clause.legible_nil.text_cons (by decide)
  exact ((hclose.name_cons hcolumn).text_cons (by decide)).name_cons hcolumn

theorem bindings_updateOnDuplicate (values : Bindings) :
    (Statement.updateOnDuplicate (Assignment.ofBindings values)).bindings = [] :=
  bindings_joined_unbound ", " values _ fun _ => rfl

theorem legible_inserted (table : String) (values : Bindings) (mode : InsertMode) :
    Clause.Legible ([.text (Statement.insertVerb mode), .ofName table, .text " ("] ++
      (Clause.join ", " ((Assignment.ofBindings values).map fun a => [a.name]) ++
        .text ") VALUES (" :: (Clause.join ", "
          ((Assignment.ofBindings values).map fun a => [a.bound]) ++ [.text ")"]))) := by
  have hclose : Clause.Legible [.text ")"] := Clause.legible_nil.text_cons (by decide)
  have hslots : Clause.Legible
      (Clause.join ", " ((Assignment.ofBindings values).map fun a => [a.bound])) :=
    legible_joined (by decide) apart_comma fun a _ hplaceholder =>
      Clause.legible_nil.bound_cons hplaceholder apart_nil
  have hnames : Clause.Legible
      (Clause.join ", " ((Assignment.ofBindings values).map fun a => [a.name])) :=
    legible_joined (by decide) apart_comma fun a hcolumn _ => Clause.legible_nil.name_cons hcolumn
  have hvalues := (hslots.append hclose (by simp [Apart, Fragment.chars, Identifier.isWordPart]))
    |>.text_cons (s := ") VALUES (") (by decide)
  have hlist := (hnames.append hvalues (by simp [Apart, Fragment.chars, Identifier.isWordPart]))
    |>.text_cons (s := " (") (by decide)
  refine (hlist.ofName_cons table).text_cons ?_
  cases mode <;> decide

theorem built_insert {table : String} {values : Bindings} {mode : InsertMode} {clause : Clause}
    (h : Statement.insertClause table values mode = .ok clause) :
    Built (.insert table values mode) clause := by
  obtain ⟨-, rfl⟩ := Statement.insertClause_eq_ok_iff.mp h
  constructor
  · have hnames := outline_joined ", " values (fun a => [a.name]) (fun c => [.name c.1])
      fun a => rfl
    have hslots := outline_joined ", " values (fun a => [a.bound]) (fun c => [.slot c.2])
      fun a => rfl
    have hupdates := outline_joined ", " values
      (fun a => [a.name, .text " = VALUES(", a.name, .text ")"])
      (fun c => [.name c.1] ++ Outline.text " = VALUES(" ++ [.name c.1] ++ Outline.text ")")
      fun a => rfl
    simp only [outline, insertedOutline, updatedOutline, tableName]
    split <;> simp [Statement.updateOnDuplicate, hnames, hslots, hupdates, Fragment.outline,
      Fragment.ofName]
  · have hnone := bindings_joined_unbound ", " values (fun a => [a.name]) fun a => rfl
    have hbound := names_joined_bound ", " values (fun a => [a.bound]) fun a => rfl
    have hupdates := bindings_updateOnDuplicate values
    split <;> simp [hnone, hbound, hupdates, Fragment.ofName, Assignment.nodup_placeholders]
  · intro _
    have hinserted := legible_inserted table values mode
    split
    · have happended := hinserted.append (legible_updateOnDuplicate values)
        (by simp [Apart, Statement.updateOnDuplicate, Fragment.chars, Identifier.isWordPart])
      simpa using happended
    · simpa using hinserted

theorem built_update {table : String} {values : Bindings} {condition : Condition} {limit : UInt64}
    {clause : Clause} (h : Statement.updateClause table values condition limit = .ok clause) :
    Built (.update table values condition limit) clause := by
  obtain ⟨-, restriction, hrestriction, rfl⟩ := Statement.updateClause_eq_ok_iff.mp h
  have hcompiled := compiled_of_ok hrestriction
  constructor
  · have hassignments := outline_joined ", " values (fun a => [a.name, .text " = ", a.bound])
      (fun c => [.name c.1] ++ Outline.text " = " ++ [.slot c.2]) fun a => rfl
    simp [outline, assignedOutline, tableName, hassignments, hcompiled.outline, Fragment.outline,
      Fragment.ofName]
  · have hbound := names_joined_bound ", " values (fun a => [a.name, .text " = ", a.bound])
      fun a => rfl
    simp [hbound, hcompiled.names, Statement.bindings_limitClause, Fragment.ofName, nodup_names]
  · intro hplain
    have hlimit := Statement.legible_limitClause limit
    have hassignments : Clause.Legible (Clause.join ", "
        ((Assignment.ofBindings values).map fun a => [a.name, .text " = ", a.bound])) :=
      legible_joined (by decide) apart_comma fun a hcolumn hplaceholder =>
        ((Clause.legible_nil.bound_cons hplaceholder apart_nil).text_cons
          (by decide)).name_cons hcolumn
    have htail := (hcompiled.legible hplain).append hlimit.1 hlimit.2
    have hwhere := hassignments.append (htail.text_cons (s := " WHERE ") (by decide))
      (by simp [Apart, Fragment.chars, Identifier.isWordPart])
    have hset := (hwhere.text_cons (s := " SET ") (by decide)).ofName_cons table
    simpa using hset.text_cons (s := "UPDATE ") (by decide)

theorem built_of_clause {r : Request} {clause : Clause} (h : r.clause = .ok clause) :
    Built r clause := by
  cases r with
  | select table condition order limit offset => exact built_select h
  | insert table values mode => exact built_insert h
  | update table values condition limit => exact built_update h
  | delete table condition limit => exact built_delete h

end Request

end TableGateway
