import TableGateway.Condition.Grammar

/-!
# Writing conditions in the JSON notation

Every operator is named, also equality and membership.
-/

namespace TableGateway.Condition

def testJson (column : String) (op : Operator) (operands : List Json) : Json :=
  .array (.string column :: .string op.sql :: operands)

mutual

def toJson : Condition → Json
  | .all => .array []
  | .raw sql => .string sql
  | .group op members => .array (.string op.sql :: memberJson members)
  | .compare column op value => testJson column (.compare op) [value.toJson]
  | .isNull column negated => testJson column (.nullTest negated) [.null]
  | .between column negated low high =>
    testJson column (.range negated) [low.toJson, high.toJson]
  | .isIn column negated values =>
    testJson column (.membership negated) [.array (values.map Value.toJson)]

def memberJson : List Condition → List Json
  | [] => []
  | c :: cs => toJson c :: memberJson cs

end

end TableGateway.Condition
