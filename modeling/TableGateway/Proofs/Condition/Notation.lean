import TableGateway.Proofs.Condition.Grammar
import TableGateway.Proofs.Condition.Outline
import TableGateway.Proofs.Number.Spelling

/-!
# Reading written conditions

A written condition is read back as itself exactly when its columns are no connectives, its
SQL is neither blank nor a number, and JSON keeps its values apart.  Every other condition
is captured by another form of the notation or loses a value.
-/

namespace TableGateway

namespace Json

theorem Number.ofInt_of_inRange {n : Int} (h : -Int.pow 2 63 ≤ n ∧ n < Int.pow 2 64) :
    Number.ofInt n = .integer n h := by
  rw [Number.ofInt, dif_pos h]

theorem inRange_natCast {n : Nat} (h : n < Nat.pow 2 64) :
    -Int.pow 2 63 ≤ (n : Int) ∧ (n : Int) < Int.pow 2 64 := by
  have hnat : Nat.pow 2 64 = 2 ^ 64 := rfl
  have hpow : Int.pow 2 63 = 2 ^ 63 := rfl
  have hpow' : Int.pow 2 64 = 2 ^ 64 := rfl
  omega

theorem inRange_toInt (n : Int64) : -Int.pow 2 63 ≤ n.toInt ∧ n.toInt < Int.pow 2 64 := by
  have hlow := n.le_toInt
  have hhigh := n.toInt_lt
  have hpow : Int.pow 2 63 = 2 ^ 63 := rfl
  have hpow' : Int.pow 2 64 = 2 ^ 64 := rfl
  omega

end Json

namespace Value

/-- The values that JSON keeps as they are.  An unsigned integer in the signed range would
come back as a signed one. -/
def Kept : Value → Prop
  | .null => True
  | .bool _ => True
  | .int _ => True
  | .uint n => Nat.pow 2 63 ≤ n.toNat
  | .float x => x.isFinite = true
  | .text _ => True
  | .bytes _ => False

theorem ofNumber_ofInt_int (n : Int64) : ofNumber (.ofInt n.toInt) = .int n := by
  have hsigned : n.toInt < Int.pow 2 63 := n.toInt_lt
  rw [Json.Number.ofInt_of_inRange (Json.inRange_toInt n), ofNumber, if_pos hsigned,
    Int64.ofInt_toInt]

theorem ofNumber_ofInt_uint (n : UInt64) :
    ofNumber (.ofInt n.toNat) = .uint n ↔ Nat.pow 2 63 ≤ n.toNat := by
  have hpow : Int.pow 2 63 = 2 ^ 63 := rfl
  have hnat : Nat.pow 2 63 = 2 ^ 63 := rfl
  rw [Json.Number.ofInt_of_inRange (Json.inRange_natCast n.toNat_lt), ofNumber]
  by_cases hsigned : (n.toNat : Int) < Int.pow 2 63
  · rw [if_pos hsigned]
    simp only [reduceCtorEq, false_iff]
    omega
  · rw [if_neg hsigned, Int.toNat_natCast, UInt64.ofNat_toNat]
    simp only [true_iff]
    omega

theorem scalar?_toJson_iff (v : Value) : Condition.scalar? v.toJson = .ok v ↔ v.Kept := by
  cases v with
  | null => simp [toJson, Condition.scalar?, ofJson, Kept]
  | bool b => simp [toJson, Condition.scalar?, ofJson, Kept]
  | int n => simp [toJson, Condition.scalar?, ofJson, Kept, ofNumber_ofInt_int]
  | uint n => simp [toJson, Condition.scalar?, ofJson, Kept, ofNumber_ofInt_uint]
  | float x =>
      cases hfinite : x.isFinite with
      | true => simp [toJson, Condition.scalar?, ofJson, ofNumber, Kept, hfinite]
      | false => simp [toJson, Condition.scalar?, ofJson, Kept, hfinite]
  | text s => simp [toJson, Condition.scalar?, ofJson, Kept]
  | bytes b => simp [toJson, Condition.scalar?, Kept]

end Value

namespace Condition

theorem scalars?_map_toJson_iff (values : List Value) :
    scalars? (values.map Value.toJson) = .ok values ↔ ∀ v ∈ values, v.Kept := by
  induction values with
  | nil => simp [scalars?]
  | cons v values ih =>
      rw [List.map_cons, scalars?, List.forall_mem_cons, ← ih, ← Value.scalar?_toJson_iff]
      cases hv : scalar? v.toJson with
      | error e => simp [bind, Except.bind]
      | ok w =>
          cases hvalues : scalars? (values.map Value.toJson) with
          | error e => simp [bind, Except.bind]
          | ok ws => simp [bind, Except.bind, pure, Except.pure]

/-! ## Conditions that are read back -/

/-- SQL that the notation does not take for something else: it is not blank and no number. -/
def IsSql (s : String) : Prop :=
  Text.trim s.toList ≠ [] ∧ ¬ Literal.Spelled (Text.trim s.toList)

mutual

def columns : Condition → List String
  | .all => []
  | .raw _ => []
  | .group _ members => memberColumns members
  | .compare column _ _ => [column]
  | .isNull column _ => [column]
  | .between column _ _ _ => [column]
  | .isIn column _ _ => [column]

def memberColumns : List Condition → List String
  | [] => []
  | c :: cs => columns c ++ memberColumns cs

end

mutual

def Legible : Condition → Prop
  | .all => True
  | .raw sql => IsSql sql
  | .group _ members => LegibleMembers members
  | .compare column _ value => IsColumn column ∧ value.Kept
  | .isNull column _ => IsColumn column
  | .between column _ low high => IsColumn column ∧ low.Kept ∧ high.Kept
  | .isIn column _ values => IsColumn column ∧ ∀ v ∈ values, v.Kept

def LegibleMembers : List Condition → Prop
  | [] => True
  | c :: cs => Legible c ∧ LegibleMembers cs

end

mutual

theorem legible_iff (c : Condition) :
    c.Legible ↔ (∀ column ∈ c.columns, IsColumn column) ∧ (∀ sql ∈ c.rawTexts, IsSql sql) ∧
      ∀ v ∈ c.values, v.Kept := by
  cases c with
  | all => simp [Legible, columns, rawTexts, values]
  | raw sql => simp [Legible, columns, rawTexts, values]
  | group op members => simpa [Legible, columns, rawTexts, values] using legibleMembers_iff members
  | compare column op value => simp [Legible, columns, rawTexts, values]
  | isNull column negated => simp [Legible, columns, rawTexts, values]
  | between column negated low high => simp [Legible, columns, rawTexts, values]
  | isIn column negated list => simp [Legible, columns, rawTexts, values]

theorem legibleMembers_iff (cs : List Condition) :
    LegibleMembers cs ↔ (∀ column ∈ memberColumns cs, IsColumn column) ∧
      (∀ sql ∈ memberRawTexts cs, IsSql sql) ∧ ∀ v ∈ memberValues cs, v.Kept := by
  cases cs with
  | nil => simp [LegibleMembers, memberColumns, memberRawTexts, memberValues]
  | cons c cs =>
      rw [LegibleMembers, legible_iff c, legibleMembers_iff cs, memberColumns, memberRawTexts,
        memberValues, List.forall_mem_append, List.forall_mem_append, List.forall_mem_append]
      tauto

end

theorem hasId_ne_raw (v : Value) (sql : String) : hasId v ≠ .raw sql := by
  cases v <;> simp [hasId, equals]

theorem ofText_eq_raw_iff (sql : String) : ofText sql = .raw sql ↔ IsSql sql := by
  rw [IsSql, ← Literal.ofChars?_eq_none_iff]
  simp only [ofText]
  cases Literal.ofChars? (Text.trim sql.toList) with
  | some l => simp [hasId_ne_raw]
  | none => cases Text.trim sql.toList <;> simp

theorem parse_testJson_iff {column : String} {op : Operator} {operand : Json}
    {operands : List Json} {c : Condition} (hc : ∀ op members, c ≠ .group op members) :
    parse (testJson column op (operand :: operands)) = .ok c ↔
      IsColumn column ∧ ofOperator column (operand :: operands) op = .ok c := by
  rw [testJson, ← ofWord?_eq_none_iff]
  cases hword : Connective.ofWord? column with
  | none =>
      rw [parse_column (ofWord?_eq_none_iff.mp hword), ofColumn, ofOperation, ofText?_sql]
      · simp
      · simp
  | some connective =>
      -- The operator and the operands would be members of a group.
      rw [parse_connective hword]
      cases parseAll (.string op.sql :: operand :: operands) with
      | error e => simp [Except.map]
      | ok members => simpa [Except.map] using fun h => hc connective members h.symm

mutual

theorem parse_toJson_iff_legible (c : Condition) : parse c.toJson = .ok c ↔ c.Legible := by
  cases c with
  | all => simp [toJson, parse, Legible]
  | raw sql =>
      rw [toJson, parse, Legible, ← ofText_eq_raw_iff, Except.ok.injEq]
  | group op members =>
      rw [toJson, parse_connective (ofWord?_sql op), Legible,
        ← parseAll_memberJson_iff_legible members]
      cases parseAll (memberJson members) <;> simp [Except.map]
  | compare column op value =>
      rw [toJson, parse_testJson_iff (by simp), Legible, ← Value.scalar?_toJson_iff, ofOperator]
      cases scalar? value.toJson <;> simp [Except.map]
  | isNull column negated =>
      rw [toJson, parse_testJson_iff (by simp), Legible, ofOperator]
      simp
  | between column negated low high =>
      rw [toJson, parse_testJson_iff (by simp), Legible, ← Value.scalar?_toJson_iff low,
        ← Value.scalar?_toJson_iff high, ofOperator]
      cases scalar? low.toJson with
      | error e => simp [bind, Except.bind]
      | ok low' => cases scalar? high.toJson <;> simp [bind, Except.bind, pure, Except.pure]
  | isIn column negated values =>
      rw [toJson, parse_testJson_iff (by simp), Legible, ← scalars?_map_toJson_iff, ofOperator,
        candidates]
      cases scalars? (values.map Value.toJson) <;> simp [Except.map]

theorem parseAll_memberJson_iff_legible (cs : List Condition) :
    parseAll (memberJson cs) = .ok cs ↔ LegibleMembers cs := by
  cases cs with
  | nil => simp [memberJson, parseAll, LegibleMembers]
  | cons c cs =>
      rw [memberJson, parseAll, LegibleMembers, ← parse_toJson_iff_legible c,
        ← parseAll_memberJson_iff_legible cs]
      cases parse c.toJson with
      | error e => simp [bind, Except.bind]
      | ok c' => cases parseAll (memberJson cs) <;> simp [bind, Except.bind, pure, Except.pure]

end

/-- A written condition is read back as itself exactly when none of its columns is the word
of a connective, none of its SQL is blank or a number, and all its values are kept. -/
theorem parse_toJson_iff (c : Condition) :
    parse c.toJson = .ok c ↔
      (∀ column ∈ c.columns, IsColumn column) ∧ (∀ sql ∈ c.rawTexts, IsSql sql) ∧
        ∀ v ∈ c.values, v.Kept := by
  rw [parse_toJson_iff_legible, legible_iff]

/-- The word of a connective as a column makes a group of the test. -/
example : parse (toJson (.compare " or " .equal .null)) =
    .ok (.group .or [.raw "=", .all]) := rfl

end Condition

end TableGateway
