import TableGateway.Condition.Basic
import TableGateway.Error
import TableGateway.Sql.Fragment

/-!
# Conditions as clauses behind WHERE

Every value gets a placeholder of its own, numbered from a given start in the order of the text.
A column must keep a character when it is cleaned, also where an empty list leaves it out of the
text.  The next free number is returned with the clause and with the fault alike.
-/

namespace TableGateway.Condition

def placeholderStem : String := "_where_param_"

def numbered (n : Nat) : String :=
  placeholderStem ++ String.ofList (Text.decimal n)

def boundFrom : Nat → List Value → List Fragment
  | _, [] => []
  | n, v :: vs => .bound (numbered n) v :: boundFrom (n + 1) vs

def columnFragment (column : String) : Except Error Fragment :=
  if Identifier.clean column = "" then .error (.malformed (.emptyColumn column))
  else .ok (.ofName column)

/-- A clause about one column, which uses up `uses` numbers. -/
def aboutColumn (column : String) (n uses : Nat) (clause : Fragment → Clause) :
    Except Error Clause × Nat :=
  match columnFragment column with
  | .ok name => (.ok (clause name), n + uses)
  | .error e => (.error e, n)

def grouped (op : Connective) : List Clause → Clause
  | [] => [.text "1"]
  | clauses =>
    Clause.join (" " ++ op.sql ++ " ") (clauses.map fun c => .text "(" :: (c ++ [.text ")"]))

def membership (negated : Bool) (values : List Value) (n : Nat) (name : Fragment) : Clause :=
  if values.isEmpty then [.text (if negated then "1" else "0")]
  else
    [name, .text (" " ++ (Operator.membership negated).sql ++ " (")] ++
      Clause.join ", " ((boundFrom n values).map fun b => [b]) ++ [.text ")"]

mutual

/-- The clause of a condition whose placeholders are numbered from `n`, and the next free number.
The count is not bounded here.  A count in words of 64 bits goes the same way while `n` and the
number of values fit into a word together; `compileFrom_lt_of_fits` states the bound. -/
def whereClause : Condition → Nat → Except Error Clause × Nat
  | .all, n => (.ok [.text "1"], n)
  | .raw sql, n => (.ok [.text sql], n)
  | .group op members, n =>
    match memberClauses members n with
    | (.ok clauses, next) => (.ok (grouped op clauses), next)
    | (.error e, next) => (.error e, next)
  | .compare column op value, n =>
    aboutColumn column n 1 fun name =>
      [name, .text (" " ++ op.sql ++ " "), .bound (numbered n) value]
  | .isNull column negated, n =>
    aboutColumn column n 0 fun name => [name, .text (" " ++ (Operator.nullTest negated).sql)]
  | .between column negated low high, n =>
    aboutColumn column n 2 fun name =>
      [name, .text (" " ++ (Operator.range negated).sql ++ " "), .bound (numbered n) low,
        .text " AND ", .bound (numbered (n + 1)) high]
  | .isIn column negated values, n =>
    aboutColumn column n values.length (membership negated values n)

/-- The clauses of the members of a group; the first fault ends the numbering. -/
def memberClauses : List Condition → Nat → Except Error (List Clause) × Nat
  | [], n => (.ok [], n)
  | c :: cs, n =>
    match whereClause c n with
    | (.error e, next) => (.error e, next)
    | (.ok clause, next) =>
      match memberClauses cs next with
      | (.error e, next) => (.error e, next)
      | (.ok clauses, next) => (.ok (clause :: clauses), next)

end

/-- The text and the bindings of a condition, and the next free number, which is subject to the
bound at `whereClause`. -/
def compileFrom (c : Condition) (n : Nat) : Except Error (String × Bindings) × Nat :=
  match whereClause c n with
  | (.ok clause, next) => (.ok (clause.sql, Bindings.ofList clause.bindings), next)
  | (.error e, next) => (.error e, next)

def compile (c : Condition) : Except Error (String × Bindings) :=
  (compileFrom c 0).1

end TableGateway.Condition
