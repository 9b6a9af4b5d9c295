import Std.Data.TreeMap
import TableGateway.Digest.Sha256
import TableGateway.Text.Blank
import TableGateway.Text.Bytes

/-!
# Prepared handles

Handles are kept under the digest of their SQL.  Blanks around the SQL do not count.  Two texts
with one digest are taken for the same text.
-/

namespace TableGateway

def signature (sql : String) : String :=
  Text.hex (Sha256.digest (Text.utf8 (String.ofList (Text.trim sql.toList))))

structure StatementCache (η : Type) where
  handles : Std.TreeMap String η

namespace StatementCache

variable {η : Type}

def empty : StatementCache η :=
  ⟨∅⟩

def get? (c : StatementCache η) (sql : String) : Option η :=
  c.handles[signature sql]?

def contains (c : StatementCache η) (sql : String) : Bool :=
  c.handles.contains (signature sql)

def insert (c : StatementCache η) (sql : String) (handle : η) : StatementCache η :=
  ⟨c.handles.insert (signature sql) handle⟩

def size (c : StatementCache η) : Nat :=
  c.handles.size

def isEmpty (c : StatementCache η) : Bool :=
  c.handles.isEmpty

end StatementCache

end TableGateway
