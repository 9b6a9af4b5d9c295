import TableGateway.Condition.Basic
import TableGateway.Error
import TableGateway.Number.Literal

/-!
# The JSON notation of conditions

* `null`, a blank string and the empty list take every row.
* A number and a string that is a numeric literal ask for that `id`.
* Any other string is SQL.
* `["AND", c, …]` and `["OR", c, …]` join conditions.
* `[column, value]` asks for equality or, with a list, for membership.
* `[column, operator, operand, …]` names the operator.

What is wrong with a list is looked for from the left: its head, its length, its operator, the
number of its operands and then the operands.
-/

namespace TableGateway.Condition

/-- A number as an `id`: an integer where it equals one in the signed range. -/
def idOfFloat (x : Binary64) : Value :=
  match x.toInt? with
  | some n => if n.natAbs < Nat.pow 2 63 then .int (Int64.ofInt n) else .float x
  | none => .float x

def idOfNumber : Json.Number → Value
  | .integer n h => Value.ofNumber (.integer n h)
  | .float x => idOfFloat x

/-- A literal as an `id`.  An integer beyond the signed range keeps its digits
unless it has a minus; every other literal goes by its nearest number. -/
def idOfLiteral (l : Literal) : Value :=
  if l.isInteger && decide (-Int.pow 2 63 ≤ l.toInt) && decide (l.toInt < Int.pow 2 63) then
    .int (Int64.ofInt l.toInt)
  else if l.isInteger && !l.negative then .text (String.ofList l.whole)
  else idOfFloat l.toFloat

def ofText (s : String) : Condition :=
  let trimmed := Text.trim s.toList
  match Literal.ofChars? trimmed with
  | some l => hasId (idOfLiteral l)
  | none => if trimmed.isEmpty then .all else .raw s

def scalar? : Json → Except Error Value
  | .array items => .error (.malformed (.notScalar (.array items)))
  | .object members => .error (.malformed (.notScalar (.object members)))
  | j => .ok (Value.ofJson j)

def scalars? : List Json → Except Error (List Value)
  | [] => .ok []
  | j :: js => do
    let value ← scalar? j
    let values ← scalars? js
    return value :: values

def ofPair (column : String) : Json → Except Error Condition
  | .array items => (scalars? items).map (anyOf column)
  | .object _ => .error (.missing (.operator column))
  | .string s =>
    match Operator.ofText? s with
    | some (.nullTest negated) => .ok (.isNull column negated)
    | _ => .ok (.compare column .equal (.text s))
  | j => .ok (equals column (Value.ofJson j))

/-- A membership test takes one list, or its operands as the list. -/
def candidates : List Json → List Json
  | [.array items] => items
  | operands => operands

def ofOperator (column : String) (operands : List Json) : Operator → Except Error Condition
  | .compare op =>
    match operands with
    | [value] => (scalar? value).map (.compare column op)
    | _ => .error (.malformed (.operandCount op operands.length))
  | .nullTest negated => .ok (.isNull column negated)
  | .range negated =>
    match operands with
    | [low, high] => do
      let low ← scalar? low
      let high ← scalar? high
      return .between column negated low high
    | _ => .error (.missing (.bounds column operands.length))
  | .membership negated => (scalars? (candidates operands)).map (.isIn column negated)

def ofOperation (column : String) (operands : List Json) : Json → Except Error Condition
  | .string token =>
    match Operator.ofText? token with
    | some op => ofOperator column operands op
    | none => .error (.invalidOperator (String.ofList (Text.trim token.toList)))
  | j => .error (.malformed (.operatorNotText column j))

def ofColumn (column : String) : List Json → Except Error Condition
  | [] => .error (.missing (.value column))
  | [value] => ofPair column value
  | op :: operands => ofOperation column operands op

mutual

def parse : Json → Except Error Condition
  | .null => .ok .all
  | .bool b => .ok (.raw (if b then "true" else "false"))
  | .number n => .ok (hasId (idOfNumber n))
  | .string s => .ok (ofText s)
  | .object _ => .error (.malformed .objectGiven)
  | .array [] => .ok .all
  | .array (.string head :: rest) =>
    match Connective.ofWord? head with
    | some op => (parseAll rest).map (.group op)
    | none => ofColumn head rest
  | .array (head :: _) => .error (.malformed (.columnNotText head))

def parseAll : List Json → Except Error (List Condition)
  | [] => .ok []
  | j :: js => do
    let c ← parse j
    let cs ← parseAll js
    return c :: cs

end

end TableGateway.Condition
