import TableGateway.Condition.Where
import TableGateway.Sql.OrderBy

/-!
# Statements on one table

SELECT, INSERT, UPDATE and DELETE.

A column is assigned through a placeholder of its own name where that name is free and plain,
and through a numbered placeholder otherwise.  Both numbered stems are reserved, so the
placeholders of assignments and of conditions never meet.
-/

namespace TableGateway

structure Statement where
  sql : String
  bindings : Bindings

inductive InsertMode where
  | plain
  | replacing
  | updating
  deriving DecidableEq, Repr

structure Assignment where
  column : String
  placeholder : String
  value : Value
  deriving DecidableEq, Repr

namespace Assignment

def placeholderStem : String := "_value_param_"

def numbered (n : Nat) : String :=
  placeholderStem ++ String.ofList (Text.decimal n)

def isFree (taken : List String) (column : String) : Bool :=
  Identifier.isPlaceholderName column &&
    !Condition.placeholderStem.toList.isPrefixOf column.toList &&
    !placeholderStem.toList.isPrefixOf column.toList &&
    !taken.contains column

/-- The assignments of the entries from place `i` on.  An entry whose column is
empty when it is cleaned is left out but keeps its number. -/
def ofEntries (taken : List String) (i : Nat) : List (String × Value) → List Assignment
  | [] => []
  | (name, value) :: rest =>
    let column := Identifier.clean name
    if column = "" then ofEntries taken (i + 1) rest
    else
      let placeholder := if isFree taken column then column else numbered i
      ⟨column, placeholder, value⟩ :: ofEntries (placeholder :: taken) (i + 1) rest

def ofBindings (values : Bindings) : List Assignment :=
  ofEntries [] 0 values.toList

def name (a : Assignment) : Fragment :=
  .name a.column

def bound (a : Assignment) : Fragment :=
  .bound a.placeholder a.value

end Assignment

namespace Statement

def ofClause (c : Clause) : Statement :=
  ⟨c.sql, Bindings.ofList c.bindings⟩

/-- At most `limit` rows, where zero sets no limit. -/
def limitClause (limit : UInt64) : Clause :=
  if limit = 0 then [] else [.text " LIMIT ", Clause.number limit.toNat]

/-- The rows from `offset` on.  An offset needs a limit before it, so the
greatest number stands in for a limit that is not set. -/
def windowClause (limit offset : UInt64) : Clause :=
  if offset = 0 then limitClause limit
  else
    let limit := if limit = 0 then Nat.pow 2 64 - 1 else limit.toNat
    [.text " LIMIT ", Clause.number limit, .text " OFFSET ", Clause.number offset.toNat]

def orderClause (order : Option OrderBy) : Clause :=
  match order.bind OrderBy.clause? with
  | some clause => .text " ORDER BY " :: clause
  | none => []

def whereClause (c : Condition) : Except Error Clause :=
  (c.whereClause 0).1

def selectClause (table : String) (condition : Condition) (order : Option OrderBy)
    (limit offset : UInt64) : Except Error Clause := do
  let restriction ← whereClause condition
  return [.text "SELECT * FROM ", .ofName table, .text " WHERE "] ++ restriction ++
    orderClause order ++ windowClause limit offset

def assignments (table : String) (values : Bindings) : Except Error (List Assignment) :=
  match Assignment.ofBindings values with
  | [] => .error (.noColumns (Identifier.clean table))
  | list => .ok list

def insertVerb : InsertMode → String
  | .plain => "INSERT INTO "
  | .replacing => "REPLACE INTO "
  | .updating => "INSERT INTO "

def updateOnDuplicate (list : List Assignment) : Clause :=
  .text " ON DUPLICATE KEY UPDATE " ::
    Clause.join ", " (list.map fun a => [a.name, .text " = VALUES(", a.name, .text ")"])

def insertClause (table : String) (values : Bindings) (mode : InsertMode) :
    Except Error Clause := do
  let list ← assignments table values
  return [.text (insertVerb mode), .ofName table, .text " ("] ++
    Clause.join ", " (list.map fun a => [a.name]) ++ [.text ") VALUES ("] ++
    Clause.join ", " (list.map fun a => [a.bound]) ++ [.text ")"] ++
    (if mode = .updating then updateOnDuplicate list else [])

def updateClause (table : String) (values : Bindings) (condition : Condition) (limit : UInt64) :
    Except Error Clause := do
  let list ← assignments table values
  let restriction ← whereClause condition
  return [.text "UPDATE ", .ofName table, .text " SET "] ++
    Clause.join ", " (list.map fun a => [a.name, .text " = ", a.bound]) ++
    [.text " WHERE "] ++ restriction ++ limitClause limit

def deleteClause (table : String) (condition : Condition) (limit : UInt64) :
    Except Error Clause := do
  let restriction ← whereClause condition
  return [.text "DELETE FROM ", .ofName table, .text " WHERE "] ++ restriction ++
    limitClause limit

def select (table : String) (condition : Condition) (order : Option OrderBy)
    (limit offset : UInt64) : Except Error Statement :=
  (selectClause table condition order limit offset).map ofClause

def insert (table : String) (values : Bindings) (mode : InsertMode) : Except Error Statement :=
  (insertClause table values mode).map ofClause

def update (table : String) (values : Bindings) (condition : Condition) (limit : UInt64) :
    Except Error Statement :=
  (updateClause table values condition limit).map ofClause

def delete (table : String) (condition : Condition) (limit : UInt64) : Except Error Statement :=
  (deleteClause table condition limit).map ofClause

end Statement

end TableGateway
