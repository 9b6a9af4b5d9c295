import TableGateway.Error
import TableGateway.Value

/-!
# Replies of a server

A server tells how many rows a statement has changed, or gives a table of cells.  A cell is
held as the server sends it, and the name of a column's type says how it can be read.
-/

namespace TableGateway

structure ResultColumn where
  name : String
  typeName : String
  deriving DecidableEq, Repr

/-- The bytes of a cell; none for NULL. -/
abbrev Cell := Option (List UInt8)

inductive ServerReply where
  | done (affected lastId : UInt64)
  | resultSet (columns : List ResultColumn) (rows : List (List Cell))
  deriving DecidableEq, Repr

end TableGateway
