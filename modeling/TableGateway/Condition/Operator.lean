import TableGateway.Text.Keyword

/-!
# Operators of conditions

Operators have one spelling each in SQL, and are read with any blanks between their words.
-/

namespace TableGateway

inductive Connective where
  | and
  | or
  deriving DecidableEq, Repr

namespace Connective

def sql : Connective → String
  | .and => "AND"
  | .or => "OR"

def ofWord? (s : String) : Option Connective :=
  let word := Text.trim s.toList
  if Text.equalsIgnoringCase word ['A', 'N', 'D'] then some .and
  else if Text.equalsIgnoringCase word ['O', 'R'] then some .or
  else none

end Connective

inductive Comparison where
  | equal
  | different
  | unequal
  | nullSafeEqual
  | atMost
  | atLeast
  | less
  | greater
  | like
  | notLike
  | rlike
  | notRlike
  deriving DecidableEq, Repr

namespace Comparison

def sql : Comparison → String
  | .equal => "="
  | .different => "!="
  | .unequal => "<>"
  | .nullSafeEqual => "<=>"
  | .atMost => "<="
  | .atLeast => ">="
  | .less => "<"
  | .greater => ">"
  | .like => "LIKE"
  | .notLike => "NOT LIKE"
  | .rlike => "RLIKE"
  | .notRlike => "NOT RLIKE"

def all : List Comparison :=
  [.equal, .different, .unequal, .nullSafeEqual, .atMost, .atLeast, .less, .greater,
    .like, .notLike, .rlike, .notRlike]

end Comparison

inductive Operator where
  | compare (op : Comparison)
  | nullTest (negated : Bool)
  | range (negated : Bool)
  | membership (negated : Bool)
  deriving DecidableEq, Repr

namespace Operator

def sql : Operator → String
  | .compare op => op.sql
  | .nullTest false => "IS NULL"
  | .nullTest true => "IS NOT NULL"
  | .range false => "BETWEEN"
  | .range true => "NOT BETWEEN"
  | .membership false => "IN"
  | .membership true => "NOT IN"

def all : List Operator :=
  Comparison.all.map .compare ++
    [.nullTest false, .nullTest true, .range false, .range true,
      .membership false, .membership true]

theorem mem_all (op : Operator) : op ∈ all := by
  cases op with
  | compare op => cases op <;> decide
  | nullTest negated => cases negated <;> decide
  | range negated => cases negated <;> decide
  | membership negated => cases negated <;> decide

/-- The operator with a given spelling; blanks between words count as one space
and letters as capitals. -/
def ofText? (s : String) : Option Operator :=
  all.find? fun op => op.sql == Text.keywordForm s

end Operator

end TableGateway
