import TableGateway.Bindings

/-!
# Rows of a result

A row has columns with their values in the order of the result.  Unlike the names of bindings,
column names may repeat.
-/

namespace TableGateway

structure Row where
  columns : List (String × Value)
  deriving DecidableEq, Repr

namespace Row

def empty : Row :=
  ⟨[]⟩

def push (r : Row) (column : String) (value : Value) : Row :=
  ⟨r.columns ++ [(column, value)]⟩

def get? (r : Row) (column : String) : Option Value :=
  r.columns.lookup column

def size (r : Row) : Nat :=
  r.columns.length

def isEmpty (r : Row) : Bool :=
  r.columns.isEmpty

def same (r other : Row) : Bool :=
  Bindings.sameEntries r.columns other.columns

def toJson (r : Row) : Json :=
  .object [("columns", .array (r.columns.map fun c => .array [.string c.1, c.2.toJson]))]

def toJsonText (r : Row) : String :=
  r.toJson.compact

end Row

end TableGateway
