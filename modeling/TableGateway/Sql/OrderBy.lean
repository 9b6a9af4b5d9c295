import TableGateway.Sql.Fragment
import TableGateway.Text.Keyword

/-!
# The order of rows

Rows are ordered by columns, or by SQL of the caller's own.
-/

namespace TableGateway

inductive OrderBy where
  | raw (sql : String)
  | columns (list : List (String × String))
  deriving DecidableEq, Repr

namespace OrderBy

def ascending (column : String) : OrderBy :=
  .columns [(column, "ASC")]

def descending (column : String) : OrderBy :=
  .columns [(column, "DESC")]

/-- Whether a word asks for the descending direction; every other word asks for
the ascending one. -/
def isDescending (direction : String) : Bool :=
  Text.equalsIgnoringCase (Text.trim direction.toList) ['D', 'E', 'S', 'C']

/-- The columns that keep a character when they are cleaned, and whether each is
descending. -/
def keys (list : List (String × String)) : List (String × Bool) :=
  list.filterMap fun (column, direction) =>
    let cleaned := Identifier.clean column
    if cleaned = "" then none else some (cleaned, isDescending direction)

def keyClause (key : String × Bool) : Clause :=
  [.name key.1, .text (if key.2 then " DESC" else " ASC")]

def clause? : OrderBy → Option Clause
  | .raw sql =>
    let trimmed := Text.trim sql.toList
    if trimmed.isEmpty then none else some [.text (String.ofList trimmed)]
  | .columns list =>
    if (keys list).isEmpty then none else some (Clause.join ", " ((keys list).map keyClause))

def sql? (o : OrderBy) : Option String :=
  o.clause?.map Clause.sql

end OrderBy

end TableGateway
