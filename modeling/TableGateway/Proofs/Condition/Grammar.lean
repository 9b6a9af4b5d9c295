import TableGateway.Condition.Notation

/-!
# Parts of the JSON notation

A text at the head of a list is a column unless it is the word of a connective.  Operators
are read back from their spellings, and lists of operands are read as values unless a list
or an object is among them.
-/

namespace TableGateway

def Json.isNested : Json → Bool
  | .array _ => true
  | .object _ => true
  | _ => false

namespace Condition

/-- The texts that name a column at the head of a list: no connective, whatever blanks are
around it and in whatever case its ASCII letters are. -/
def IsColumn (s : String) : Prop :=
  ∀ op : Connective, Text.equalsIgnoringCase (Text.trim s.toList) op.sql.toList = false

theorem ofWord?_eq_none_iff {s : String} : Connective.ofWord? s = none ↔ IsColumn s := by
  constructor
  · intro h op
    simp only [Connective.ofWord?] at h
    split at h
    · contradiction
    · rename_i hand
      split at h
      · contradiction
      · rename_i hor
        cases op with
        | and => exact Bool.eq_false_iff.mpr hand
        | or => exact Bool.eq_false_iff.mpr hor
  · intro h
    have hand : Text.equalsIgnoringCase (Text.trim s.toList) ['A', 'N', 'D'] = false := h .and
    have hor : Text.equalsIgnoringCase (Text.trim s.toList) ['O', 'R'] = false := h .or
    simp [Connective.ofWord?, hand, hor]

instance (s : String) : Decidable (IsColumn s) :=
  decidable_of_iff _ ofWord?_eq_none_iff

@[simp] theorem ofWord?_sql (op : Connective) : Connective.ofWord? op.sql = some op := by
  cases op <;> rfl

@[simp] theorem ofText?_sql (op : Operator) : Operator.ofText? op.sql = some op := by
  cases op with
  | compare op => cases op <;> decide
  | nullTest negated => cases negated <;> decide
  | range negated => cases negated <;> decide
  | membership negated => cases negated <;> decide

theorem exists_connective_of_not_isColumn {s : String} (h : ¬ IsColumn s) :
    ∃ op, Connective.ofWord? s = some op := by
  rw [← ofWord?_eq_none_iff] at h
  exact Option.ne_none_iff_exists'.mp h

theorem parse_column {column : String} (h : IsColumn column) (rest : List Json) :
    parse (.array (.string column :: rest)) = ofColumn column rest := by
  rw [parse, ofWord?_eq_none_iff.mpr h]

theorem parse_connective {head : String} {op : Connective}
    (h : Connective.ofWord? head = some op) (rest : List Json) :
    parse (.array (.string head :: rest)) = (parseAll rest).map (.group op) := by
  rw [parse, h]

/-! ## Operands -/

theorem scalar?_of_nested {j : Json} (h : j.isNested = true) :
    scalar? j = .error (.malformed (.notScalar j)) := by
  cases j <;> simp_all [Json.isNested, scalar?]

theorem scalar?_of_not_nested {j : Json} (h : j.isNested = false) :
    scalar? j = .ok (Value.ofJson j) := by
  cases j <;> simp_all [Json.isNested, scalar?]

theorem scalars?_eq_of_find {js : List Json} {nested : Json}
    (h : js.find? Json.isNested = some nested) :
    scalars? js = .error (.malformed (.notScalar nested)) := by
  induction js with
  | nil => contradiction
  | cons j js ih =>
      cases hnested : j.isNested with
      | true =>
          rw [List.find?_cons_of_pos hnested, Option.some.injEq] at h
          subst h
          rw [scalars?, scalar?_of_nested hnested]
          rfl
      | false =>
          rw [List.find?_cons_of_neg (by simp [hnested])] at h
          rw [scalars?, scalar?_of_not_nested hnested, ih h]
          rfl

theorem scalars?_eq_of_find_none {js : List Json} (h : js.find? Json.isNested = none) :
    scalars? js = .ok (js.map Value.ofJson) := by
  induction js with
  | nil => rfl
  | cons j js ih =>
      rw [List.find?_eq_none] at h
      have hj : j.isNested = false := Bool.eq_false_iff.mpr (h j List.mem_cons_self)
      have hjs : js.find? Json.isNested = none :=
        List.find?_eq_none.mpr fun k hk => h k (List.mem_cons_of_mem j hk)
      rw [scalars?, scalar?_of_not_nested hj, ih hjs]
      rfl

theorem scalars?_eq_error_iff {js : List Json} {e : Error} :
    scalars? js = .error e ↔
      ∃ nested, js.find? Json.isNested = some nested ∧ e = .malformed (.notScalar nested) := by
  cases h : js.find? Json.isNested with
  | none => simp [scalars?_eq_of_find_none h]
  | some nested => simp [scalars?_eq_of_find h, eq_comm]

end Condition

end TableGateway
