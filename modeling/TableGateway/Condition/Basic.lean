import TableGateway.Condition.Operator
import TableGateway.Value

/-!
# Conditions on the rows of a table

A condition is a tree.  Its leaves ask something of one column, take every row, or hold SQL of
the caller's own; its inner nodes join conditions.  Columns are kept as they were given and are
cleaned when the condition becomes SQL.
-/

namespace TableGateway

inductive Condition where
  | all
  | raw (sql : String)
  | group (op : Connective) (members : List Condition)
  | compare (column : String) (op : Comparison) (value : Value)
  | isNull (column : String) (negated : Bool)
  | between (column : String) (negated : Bool) (low high : Value)
  | isIn (column : String) (negated : Bool) (values : List Value)
  deriving Repr

namespace Condition

/-- Equality with a value; equality with null is a test for null. -/
def equals (column : String) : Value → Condition
  | .null => .isNull column false
  | value => .compare column .equal value

def hasId (value : Value) : Condition :=
  equals "id" value

/-- Membership in a list, where the empty list asks nothing. -/
def anyOf (column : String) : List Value → Condition
  | [] => .all
  | values => .isIn column false values

def sameValues : List Value → List Value → Bool
  | [], [] => true
  | v :: vs, w :: ws => v.same w && sameValues vs ws
  | _, _ => false

mutual

def same : Condition → Condition → Bool
  | .all, .all => true
  | .raw a, .raw b => a == b
  | .group op members, .group op' members' => op == op' && sameMembers members members'
  | .compare column op value, .compare column' op' value' =>
    column == column' && op == op' && value.same value'
  | .isNull column negated, .isNull column' negated' => column == column' && negated == negated'
  | .between column negated low high, .between column' negated' low' high' =>
    column == column' && negated == negated' && low.same low' && high.same high'
  | .isIn column negated values, .isIn column' negated' values' =>
    column == column' && negated == negated' && sameValues values values'
  | _, _ => false

def sameMembers : List Condition → List Condition → Bool
  | [], [] => true
  | c :: cs, d :: ds => same c d && sameMembers cs ds
  | _, _ => false

end

mutual

def values : Condition → List Value
  | .all => []
  | .raw _ => []
  | .group _ members => memberValues members
  | .compare _ _ value => [value]
  | .isNull _ _ => []
  | .between _ _ low high => [low, high]
  | .isIn _ _ values => values

def memberValues : List Condition → List Value
  | [] => []
  | c :: cs => values c ++ memberValues cs

end

end Condition

end TableGateway
