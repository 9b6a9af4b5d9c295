import Mathlib.Data.List.Forall2
import TableGateway.Server.Cells

/-!
# Reading whole results

`Rule` lists, type by type, which reading of a cell is asked and what kind of value comes of it,
and cells are decoded accordingly.  A row is read by the places of its columns, whatever the
columns are called, and a result is read row by row.  Either every cell can be read, and then its
value stands where the cell stood, or some cell cannot be read and nothing is left of the result.
-/

namespace TableGateway.CellReader

variable {r : CellReader} {i : Nat} {type : String} {cell : Cell} {result : Except LinkError Value}
  {value : Value} {columns : List ResultColumn} {cells : List Cell} {row : Row}

/-! ## One cell -/

def ruledTypes : List String :=
  ["BOOLEAN", "TINYINT", "SMALLINT", "MEDIUMINT", "INT", "BIGINT", "TINYINT UNSIGNED",
    "SMALLINT UNSIGNED", "MEDIUMINT UNSIGNED", "INT UNSIGNED", "BIGINT UNSIGNED", "YEAR", "FLOAT",
    "DOUBLE", "DECIMAL", "DATE", "DATETIME", "TIME", "TIMESTAMP", "JSON", "BINARY", "VARBINARY",
    "TINYBLOB", "BLOB", "MEDIUMBLOB", "LONGBLOB", "BIT", "GEOMETRY"]

/-- What comes of a cell that is not NULL, under each type. -/
inductive Rule (r : CellReader) (i : Nat) (cell : Cell) : String → Except LinkError Value → Prop
  | truth : Rule r i cell "BOOLEAN" ((r.bool i "BOOLEAN" cell).map .bool)
  | signed {type : String} (h : type ∈ ["TINYINT", "SMALLINT", "MEDIUMINT", "INT", "BIGINT"]) :
      Rule r i cell type ((r.int64 i type cell).map .int)
  | unsigned {type : String} (h : type ∈ ["TINYINT UNSIGNED", "SMALLINT UNSIGNED",
      "MEDIUMINT UNSIGNED", "INT UNSIGNED", "BIGINT UNSIGNED"]) :
      Rule r i cell type ((r.uint64 i type cell).map .uint)
  | year : Rule r i cell "YEAR" ((r.uint16 i "YEAR" cell).map fun n => .uint n.toUInt64)
  | single : Rule r i cell "FLOAT"
      ((r.binary32 i "FLOAT" cell).map fun bits => .float (.ofBinary32 bits))
  | double : Rule r i cell "DOUBLE" ((r.binary64 i "DOUBLE" cell).map .float)
  | decimal : Rule r i cell "DECIMAL" ((r.decimal i "DECIMAL" cell).map .text)
  | date : Rule r i cell "DATE" ((r.date i "DATE" cell).map .text)
  | datetime : Rule r i cell "DATETIME" ((r.datetime i "DATETIME" cell).map .text)
  | timeOfDay {s : String} (h : r.timeOfDay i "TIME" cell = .ok s) :
      Rule r i cell "TIME" (.ok (.text s))
  | duration {cause : LinkError} (h : r.timeOfDay i "TIME" cell = .error cause) :
      Rule r i cell "TIME" ((r.duration i "TIME" cell).map .text)
  | instant : Rule r i cell "TIMESTAMP" ((r.instant i "TIMESTAMP" cell).map .text)
  | json : Rule r i cell "JSON" ((r.json i "JSON" cell).map fun j => .text j.compact)
  | bytes {type : String} (h : type ∈ ["BINARY", "VARBINARY", "TINYBLOB", "BLOB", "MEDIUMBLOB",
      "LONGBLOB", "BIT", "GEOMETRY"]) :
      Rule r i cell type ((r.bytes i type cell).map .bytes)
  | text {type s : String} (htype : type ∉ ruledTypes) (h : r.text i type cell = .ok s) :
      Rule r i cell type (.ok (.text s))
  | textless {type : String} {cause : LinkError} (htype : type ∉ ruledTypes)
      (h : r.text i type cell = .error cause) :
      Rule r i cell type ((r.bytes i type cell).map .bytes)

/-- What comes of a cell: NULL is null under every type. -/
inductive Reads (r : CellReader) (i : Nat) (type : String) (cell : Cell) :
    Except LinkError Value → Prop
  | null (h : r.isNull type cell = true) : Reads r i type cell (.ok .null)
  | ruled {result : Except LinkError Value} (h : r.isNull type cell = false)
      (hrule : Rule r i cell type result) : Reads r i type cell result

theorem rule_decodeBy (r : CellReader) (i : Nat) (type : String) (cell : Cell) :
    Rule r i cell type (r.decodeBy i type cell (.ofType type)) := by
  unfold ColumnRule.ofType
  -- One case for each name, in the order of the rules.
  split
  case h_1 => exact .truth
  case h_2 | h_3 | h_4 | h_5 | h_6 => exact .signed (by simp)
  case h_7 | h_8 | h_9 | h_10 | h_11 => exact .unsigned (by simp)
  case h_12 => exact .year
  case h_13 => exact .single
  case h_14 => exact .double
  case h_15 => exact .decimal
  case h_16 => exact .date
  case h_17 => exact .datetime
  case h_18 =>
    rw [decodeBy]
    split
    · exact .timeOfDay ‹_›
    · exact .duration ‹_›
  case h_19 => exact .instant
  case h_20 => exact .json
  case h_21 | h_22 | h_23 | h_24 | h_25 | h_26 | h_27 | h_28 => exact .bytes (by simp)
  case h_29 =>
    have hother : type ∉ ruledTypes := by
      simp_all [ruledTypes]
    rw [decodeBy]
    split
    · exact .text hother ‹_›
    · exact .textless hother ‹_›

theorem ofType_of_not_mem (h : type ∉ ruledTypes) : ColumnRule.ofType type = .plain := by
  unfold ColumnRule.ofType
  split
  case h_29 => rfl
  all_goals exact absurd (by decide) h

theorem Rule.decodeBy_eq (h : Rule r i cell type result) :
    r.decodeBy i type cell (.ofType type) = result := by
  cases h with
  | signed h | unsigned h =>
      simp only [List.mem_cons, List.not_mem_nil, or_false] at h
      rcases h with rfl | rfl | rfl | rfl | rfl <;> rfl
  | bytes h =>
      simp only [List.mem_cons, List.not_mem_nil, or_false] at h
      rcases h with rfl | rfl | rfl | rfl | rfl | rfl | rfl | rfl <;> rfl
  | timeOfDay h | duration h =>
      change r.decodeBy i "TIME" cell .time = _
      rw [decodeBy, h]
  | text htype h | textless htype h => rw [ofType_of_not_mem htype, decodeBy, h]
  | truth | year | single | double | decimal | date | datetime | instant | json => rfl

theorem reads_iff : r.Reads i type cell result ↔ r.decodeColumn i type cell = result := by
  constructor
  · rintro (hnull | ⟨hnull, hrule⟩)
    · rw [decodeColumn, if_pos hnull]
    · rw [decodeColumn, if_neg (by simp [hnull]), hrule.decodeBy_eq]
  · rintro rfl
    unfold decodeColumn
    split
    · rename_i hnull
      exact .null hnull
    · rename_i hnull
      exact .ruled (by simpa using hnull) (rule_decodeBy r i type cell)

theorem ne_null_of_map {α : Type} {x : Except LinkError α} {f : α → Value}
    (h : x.map f = .ok value) (hf : ∀ a, f a ≠ .null) : value ≠ .null := by
  cases x with
  | error cause => contradiction
  | ok a =>
      cases h
      exact hf a

theorem Rule.ne_null (h : Rule r i cell type (.ok value)) : value ≠ .null := by
  generalize hresult : Except.ok value = result at h
  cases h with
  | timeOfDay h | text htype h =>
      cases hresult
      simp
  | _ => exact ne_null_of_map hresult.symm (by simp)

theorem Reads.eq_null_iff (h : r.Reads i type cell (.ok value)) :
    value = .null ↔ r.isNull type cell = true := by
  rcases h with hnull | ⟨hnull, hrule⟩
  · exact iff_of_true rfl hnull
  · exact iff_of_false hrule.ne_null (by simp [hnull])

/-! ## Lists of results -/

section Lists

variable {α β ε : Type} {f : α → Except ε β}

theorem mapM_cases (f : α → Except ε β) (as : List α) :
    (∃ bs, as.mapM f = .ok bs ∧ List.Forall₂ (fun a b => f a = .ok b) as bs) ∨
      ∃ a ∈ as, ∃ e, f a = .error e ∧ as.mapM f = .error e := by
  induction as with
  | nil => exact .inl ⟨[], rfl, .nil⟩
  | cons a as ih =>
      cases hhead : f a with
      | error e =>
          refine .inr ⟨a, List.mem_cons_self, e, hhead, ?_⟩
          rw [List.mapM_cons, hhead]
          rfl
      | ok b =>
          rcases ih with ⟨bs, htail, hall⟩ | ⟨x, hx, e, hfault, htail⟩
          · refine .inl ⟨b :: bs, ?_, .cons hhead hall⟩
            rw [List.mapM_cons, hhead, htail]
            rfl
          · refine .inr ⟨x, List.mem_cons_of_mem a hx, e, hfault, ?_⟩
            rw [List.mapM_cons, hhead, htail]
            rfl

theorem exists_of_forall₂ {as : List α} {bs : List β} {related : α → β → Prop}
    (h : List.Forall₂ related as bs) {a : α} (ha : a ∈ as) : ∃ b, related a b := by
  induction h with
  | nil => contradiction
  | cons hhead htail ih =>
      rcases List.mem_cons.mp ha with rfl | ha
      · exact ⟨_, hhead⟩
      · exact ih ha

end Lists

/-! ## Rows -/

/-- The reader takes for NULL exactly what was sent as NULL. -/
def NullAsSent (r : CellReader) : Prop :=
  ∀ type cell, r.isNull type cell = true ↔ cell = none

structure EntryOf (r : CellReader) (cells : List Cell) (place : ResultColumn × Nat)
    (entry : String × Value) : Prop where
  name : entry.1 = place.1.name
  value : r.Reads place.2 place.1.typeName (cellAt cells place.2) (.ok entry.2)
  null : entry.2 = .null ↔ r.isNull place.1.typeName (cellAt cells place.2) = true
  nullAsSent : r.NullAsSent → (entry.2 = .null ↔ cellAt cells place.2 = none)

def RowOf (r : CellReader) (columns : List ResultColumn) (cells : List Cell) (row : Row) : Prop :=
  List.Forall₂ (r.EntryOf cells) columns.zipIdx row.columns

def FailsAt (r : CellReader) (columns : List ResultColumn) (cells : List Cell) (i : Nat)
    (cause : LinkError) : Prop :=
  ∃ column, (column, i) ∈ columns.zipIdx ∧
    r.Reads i column.typeName (cellAt cells i) (.error cause)

theorem RowOf.not_failsAt (h : r.RowOf columns cells row) {cause : LinkError} :
    ¬ r.FailsAt columns cells i cause := by
  rintro ⟨column, hcolumn, hfault⟩
  obtain ⟨entry, hentry⟩ := exists_of_forall₂ h hcolumn
  have hvalue := hentry.value
  rw [reads_iff] at hvalue hfault
  rw [hfault] at hvalue
  contradiction

theorem entryOf_of_decodeEntry {place : ResultColumn × Nat} {entry : String × Value}
    (h : r.decodeEntry cells place = .ok entry) : r.EntryOf cells place entry := by
  rw [decodeEntry] at h
  cases hvalue : r.decodeColumn place.2 place.1.typeName (cellAt cells place.2) with
  | error cause =>
      rw [hvalue] at h
      contradiction
  | ok value =>
      rw [hvalue] at h
      cases h
      have hreads := reads_iff.mpr hvalue
      exact ⟨rfl, hreads, hreads.eq_null_iff, fun hnull => hreads.eq_null_iff.trans (hnull _ _)⟩

theorem failsAt_of_decodeEntry {column : ResultColumn} {cause : LinkError}
    (hplace : (column, i) ∈ columns.zipIdx) (h : r.decodeEntry cells (column, i) = .error cause) :
    r.FailsAt columns cells i cause := by
  refine ⟨column, hplace, reads_iff.mpr ?_⟩
  rw [decodeEntry] at h
  cases hvalue : r.decodeColumn i column.typeName (cellAt cells i) with
  | error e =>
      rw [hvalue] at h
      cases h
      rfl
  | ok value =>
      rw [hvalue] at h
      contradiction

theorem decodeRow_cases (r : CellReader) (columns : List ResultColumn) (cells : List Cell) :
    (∃ row, r.decodeRow columns cells = .ok row ∧ r.RowOf columns cells row) ∨
      ∃ i cause, r.FailsAt columns cells i cause ∧ r.decodeRow columns cells = .error cause := by
  rcases mapM_cases (r.decodeEntry cells) columns.zipIdx with
    ⟨entries, hentries, hall⟩ | ⟨⟨column, i⟩, hplace, cause, hfault, hcells⟩
  · refine .inl ⟨⟨entries⟩, ?_, hall.imp fun place entry => entryOf_of_decodeEntry⟩
    rw [decodeRow, hentries]
    rfl
  · refine .inr ⟨i, cause, failsAt_of_decodeEntry hplace hfault, ?_⟩
    rw [decodeRow, hcells]
    rfl

/-! ## Results -/

def Unreadable (r : CellReader) (columns : List ResultColumn) (rows : List (List Cell)) : Prop :=
  ∃ cells ∈ rows, ∃ i cause, r.FailsAt columns cells i cause

theorem decodeRows_cases (r : CellReader) (columns : List ResultColumn)
    (rows : List (List Cell)) :
    (∃ list, r.decodeRows columns rows = .ok list ∧ List.Forall₂ (r.RowOf columns) rows list) ∨
      ∃ cells ∈ rows, ∃ i cause, r.FailsAt columns cells i cause ∧
        r.decodeRows columns rows = .error cause := by
  rcases mapM_cases (r.decodeRow columns) rows with
    ⟨list, hlist, hall⟩ | ⟨cells, hcells, cause, hfault, hrows⟩
  · refine .inl ⟨list, hlist, hall.imp fun cells row hrow => ?_⟩
    rcases decodeRow_cases r columns cells with ⟨row', hrow', hof⟩ | ⟨i, cause, -, hfault⟩
    · rw [hrow] at hrow'
      cases hrow'
      exact hof
    · rw [hrow] at hfault
      contradiction
  · rcases decodeRow_cases r columns cells with ⟨row, hrow, -⟩ | ⟨i, cause', hfails, hfault'⟩
    · rw [hfault] at hrow
      contradiction
    · rw [hfault] at hfault'
      cases hfault'
      exact .inr ⟨cells, hcells, i, cause, hfails, hrows⟩

theorem not_unreadable_of_rowsOf {rows : List (List Cell)} {list : List Row}
    (h : List.Forall₂ (r.RowOf columns) rows list) : ¬ r.Unreadable columns rows := by
  rintro ⟨cells, hcells, i, cause, hfails⟩
  obtain ⟨row, hrow⟩ := exists_of_forall₂ h hcells
  exact hrow.not_failsAt hfails

theorem unreadable_iff {rows : List (List Cell)} :
    r.Unreadable columns rows ↔ (r.decodeRows columns rows).isOk = false := by
  rcases decodeRows_cases r columns rows with
    ⟨list, hlist, hall⟩ | ⟨cells, hcells, i, cause, hfails, hfault⟩
  · rw [hlist]
    exact iff_of_false (not_unreadable_of_rowsOf hall) (by simp [Except.isOk, Except.toBool])
  · rw [hfault]
    exact iff_of_true ⟨cells, hcells, i, cause, hfails⟩ rfl

end TableGateway.CellReader
