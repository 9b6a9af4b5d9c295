import TableGateway.Row
import TableGateway.Text.Blank

/-!
# Statements by their leading verb

The verb that a statement begins with says what its result means.
-/

namespace TableGateway

inductive Verb where
  | insert
  | modify
  | query
  | other
  deriving DecidableEq, Repr

inductive Output where
  | rows (list : List Row)
  | done (affected : UInt64)
  deriving DecidableEq, Repr

inductive Outcome where
  | insertId (id : UInt64)
  | affected (count : UInt64)
  | rows (list : List Row)
  | success
  deriving DecidableEq, Repr

namespace Outcome

def insertId? : Outcome → Option UInt64
  | .insertId id => some id
  | _ => none

def affected? : Outcome → Option UInt64
  | .affected count => some count
  | _ => none

def toRows : Outcome → List Row
  | .rows list => list
  | _ => []

end Outcome

namespace Verb

def leadingWord (sql : String) : String :=
  String.ofList (((Text.trimStart sql.toList).takeWhile Char.isAlpha).map Char.toUpper)

def ofWord (word : String) : Verb :=
  if word ∈ ["INSERT", "REPLACE"] then .insert
  else if word ∈ ["UPDATE", "DELETE"] then .modify
  else if word ∈ ["SELECT", "SHOW", "EXPLAIN", "DESCRIBE", "DESC"] then .query
  else .other

def classify (sql : String) : Verb :=
  ofWord (leadingWord sql)

def returnsRows (v : Verb) : Bool :=
  v == .query

def interpret (v : Verb) (output : Output) (lastId : UInt64) : Outcome :=
  match v, output with
  | .insert, _ => .insertId lastId
  | .modify, .done count => .affected count
  | .modify, .rows _ => .affected 0
  | .query, .rows list => .rows list
  | .query, .done _ => .rows []
  | .other, _ => .success

end Verb

end TableGateway
