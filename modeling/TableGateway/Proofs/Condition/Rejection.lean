import Mathlib.Data.List.Basic
import TableGateway.Proofs.Condition.Grammar

/-!
# What the JSON notation rejects

The expressions of a JSON value are the value itself and, where it joins members, the
expressions of these.  Each expression can be at fault in one way that only its own shape
decides.  A value is rejected exactly when one of its expressions is at fault, and the error
is the fault of the first of them.
-/

namespace TableGateway

namespace Operator

def arity? : Operator → Option Nat
  | .compare _ => some 1
  | .nullTest _ => none
  | .range _ => some 2
  | .membership _ => none

def operandsRead : Operator → List Json → List Json
  | .compare _, operands => operands
  | .nullTest _, _ => []
  | .range _, operands => operands
  | .membership _, operands => Condition.candidates operands

end Operator

namespace Condition

mutual

def expressions : Json → List Json
  | .array (.string head :: rest) =>
    .array (.string head :: rest) :: if IsColumn head then [] else memberExpressions rest
  | j => [j]

def memberExpressions : List Json → List Json
  | [] => []
  | j :: js => expressions j ++ memberExpressions js

end

inductive TestFault (column : String) : Json → List Json → Error → Prop where
  | operatorKind {op : Json} {operands : List Json} (h : ∀ s, op ≠ .string s) :
    TestFault column op operands (.malformed (.operatorNotText column op))
  | operatorWord {token : String} {operands : List Json} (h : Operator.ofText? token = none) :
    TestFault column (.string token) operands
      (.invalidOperator (String.ofList (Text.trim token.toList)))
  | operandCount {token : String} {op : Comparison} {operands : List Json}
    (h : Operator.ofText? token = some (.compare op)) (hcount : operands.length ≠ 1) :
    TestFault column (.string token) operands (.malformed (.operandCount op operands.length))
  | bounds {token : String} {negated : Bool} {operands : List Json}
    (h : Operator.ofText? token = some (.range negated)) (hcount : operands.length ≠ 2) :
    TestFault column (.string token) operands (.missing (.bounds column operands.length))
  | nestedOperand {token : String} {op : Operator} {operands : List Json} {nested : Json}
    (h : Operator.ofText? token = some op) (hcount : ∀ n ∈ op.arity?, operands.length = n)
    (hnested : (op.operandsRead operands).find? Json.isNested = some nested) :
    TestFault column (.string token) operands (.malformed (.notScalar nested))

/-- Faults of an expression, its members apart. -/
inductive Fault : Json → Error → Prop where
  | object (members : List (String × Json)) : Fault (.object members) (.malformed .objectGiven)
  | head {first : Json} (h : ∀ s, first ≠ .string s) (rest : List Json) :
    Fault (.array (first :: rest)) (.malformed (.columnNotText first))
  | noValue {column : String} (h : IsColumn column) :
    Fault (.array [.string column]) (.missing (.value column))
  | noOperator {column : String} (h : IsColumn column) (members : List (String × Json)) :
    Fault (.array [.string column, .object members]) (.missing (.operator column))
  | nestedItem {column : String} {items : List Json} {nested : Json} (h : IsColumn column)
    (hnested : items.find? Json.isNested = some nested) :
    Fault (.array [.string column, .array items]) (.malformed (.notScalar nested))
  | test {column : String} {op : Json} {operands : List Json} {e : Error} (h : IsColumn column)
    (hoperands : operands ≠ []) (htest : TestFault column op operands e) :
    Fault (.array (.string column :: op :: operands)) e

/-! ## Faults of one expression -/

theorem map_eq_error_iff {α β : Type} {r : Except Error α} {f : α → β} {e : Error} :
    r.map f = .error e ↔ r = .error e := by
  cases r <;> simp [Except.map]

theorem map_scalars?_eq_error_iff {js : List Json} {f : List Value → Condition} {e : Error} :
    (scalars? js).map f = .error e ↔
      ∃ nested, js.find? Json.isNested = some nested ∧ e = .malformed (.notScalar nested) := by
  rw [map_eq_error_iff, scalars?_eq_error_iff]

theorem map_scalar?_eq_error_iff {j : Json} {f : Value → Condition} {e : Error} :
    (scalar? j).map f = .error e ↔
      ∃ nested, [j].find? Json.isNested = some nested ∧ e = .malformed (.notScalar nested) := by
  cases hj : j.isNested with
  | true => simp [scalar?_of_nested hj, hj, Except.map, eq_comm]
  | false => simp [scalar?_of_not_nested hj, hj, Except.map]

theorem bounds_eq_error_iff {low high : Json} {f : Value → Value → Condition} {e : Error} :
    (do
      let l ← scalar? low
      let h ← scalar? high
      return f l h : Except Error Condition) = .error e ↔
      ∃ nested, [low, high].find? Json.isNested = some nested ∧
        e = .malformed (.notScalar nested) := by
  cases hlow : low.isNested with
  | true => simp [scalar?_of_nested hlow, hlow, bind, Except.bind, eq_comm]
  | false =>
      cases hhigh : high.isNested with
      | true =>
          simp [scalar?_of_not_nested hlow, scalar?_of_nested hhigh, hlow, hhigh, bind,
            Except.bind, eq_comm]
      | false =>
          simp [scalar?_of_not_nested hlow, scalar?_of_not_nested hhigh, hlow, hhigh, bind,
            Except.bind, pure, Except.pure]

theorem ofOperator_compare_of_length_ne {column : String} {op : Comparison}
    {operands : List Json} (h : operands.length ≠ 1) :
    ofOperator column operands (.compare op) =
      .error (.malformed (.operandCount op operands.length)) := by
  rw [ofOperator]
  rintro value rfl
  exact h rfl

theorem ofOperator_range_of_length_ne {column : String} {negated : Bool}
    {operands : List Json} (h : operands.length ≠ 2) :
    ofOperator column operands (.range negated) =
      .error (.missing (.bounds column operands.length)) := by
  rw [ofOperator]
  rintro low high rfl
  exact h rfl

theorem ofOperator_eq_error_iff_nested {column : String} {op : Operator} {operands : List Json}
    {e : Error} (hcount : ∀ n ∈ op.arity?, operands.length = n) :
    ofOperator column operands op = .error e ↔
      ∃ nested, (op.operandsRead operands).find? Json.isNested = some nested ∧
        e = .malformed (.notScalar nested) := by
  cases op with
  | compare op =>
      obtain ⟨value, rfl⟩ := List.length_eq_one_iff.mp (hcount 1 rfl)
      exact map_scalar?_eq_error_iff
  | nullTest negated => simp [ofOperator, Operator.operandsRead]
  | range negated =>
      obtain ⟨low, high, rfl⟩ := List.length_eq_two.mp (hcount 2 rfl)
      exact bounds_eq_error_iff
  | membership negated => exact map_scalars?_eq_error_iff

theorem testFault_iff_of_ofText? {column token : String} {op : Operator} {operands : List Json}
    {e : Error} (hop : Operator.ofText? token = some op) :
    TestFault column (.string token) operands e ↔ ofOperator column operands op = .error e := by
  constructor
  · intro h
    cases h with
    | operatorKind h => exact absurd rfl (h token)
    | operatorWord h => simp [hop] at h
    | operandCount h hcount =>
        cases hop.symm.trans h
        exact ofOperator_compare_of_length_ne hcount
    | bounds h hcount =>
        cases hop.symm.trans h
        exact ofOperator_range_of_length_ne hcount
    | nestedOperand h hcount hnested =>
        cases hop.symm.trans h
        exact (ofOperator_eq_error_iff_nested hcount).mpr ⟨_, hnested, rfl⟩
  · intro h
    by_cases hcount : ∀ n ∈ op.arity?, operands.length = n
    · obtain ⟨nested, hnested, rfl⟩ := (ofOperator_eq_error_iff_nested hcount).mp h
      exact .nestedOperand hop hcount hnested
    · cases op with
      | compare op =>
          have hlength : operands.length ≠ 1 := by simpa [Operator.arity?] using hcount
          rw [ofOperator_compare_of_length_ne hlength] at h
          cases h
          exact .operandCount hop hlength
      | nullTest negated => simp [Operator.arity?] at hcount
      | range negated =>
          have hlength : operands.length ≠ 2 := by simpa [Operator.arity?] using hcount
          rw [ofOperator_range_of_length_ne hlength] at h
          cases h
          exact .bounds hop hlength
      | membership negated => simp [Operator.arity?] at hcount

theorem ofOperation_eq_error_iff {column : String} {op : Json} {operands : List Json}
    {e : Error} : ofOperation column operands op = .error e ↔ TestFault column op operands e := by
  cases op with
  | string token =>
      rw [ofOperation]
      cases hop : Operator.ofText? token with
      | some op => exact (testFault_iff_of_ofText? hop).symm
      | none =>
          constructor
          · rintro ⟨⟩
            exact .operatorWord hop
          · intro h
            cases h with
            | operatorKind h => exact absurd rfl (h token)
            | operatorWord h => rfl
            | operandCount h hcount => simp [hop] at h
            | bounds h hcount => simp [hop] at h
            | nestedOperand h hcount hnested => simp [hop] at h
  | _ =>
      rw [ofOperation]
      · constructor
        · rintro ⟨⟩
          exact .operatorKind (by simp)
        · rintro ⟨⟩
          rfl
      · simp

theorem ofPair_eq_error_iff {column : String} (h : IsColumn column) {value : Json} {e : Error} :
    ofPair column value = .error e ↔ Fault (.array [.string column, value]) e := by
  have hshape : Fault (.array [.string column, value]) e ↔
      (∃ members, value = .object members ∧ e = .missing (.operator column)) ∨
        ∃ items nested, value = .array items ∧ items.find? Json.isNested = some nested ∧
          e = .malformed (.notScalar nested) := by
    constructor
    · intro hfault
      cases hfault with
      | head hfirst => exact absurd rfl (hfirst column)
      | noOperator _ members => exact .inl ⟨members, rfl, rfl⟩
      | nestedItem _ hnested => exact .inr ⟨_, _, rfl, hnested, rfl⟩
      | test _ hoperands => exact absurd rfl hoperands
    · rintro (⟨members, rfl, rfl⟩ | ⟨items, nested, rfl, hnested, rfl⟩)
      · exact .noOperator h members
      · exact .nestedItem h hnested
  rw [hshape]
  cases value with
  | array items => simp [ofPair, map_scalars?_eq_error_iff]
  | object members => simp [ofPair, eq_comm]
  | string s =>
      rw [ofPair]
      split <;> simp
  | null => simp [ofPair]
  | bool b => simp [ofPair]
  | number n => simp [ofPair]

theorem ofColumn_eq_error_iff {column : String} (h : IsColumn column) {rest : List Json}
    {e : Error} :
    ofColumn column rest = .error e ↔ Fault (.array (.string column :: rest)) e := by
  match rest with
  | [] =>
      rw [ofColumn]
      constructor
      · rintro ⟨⟩
        exact .noValue h
      · intro hfault
        cases hfault with
        | head hfirst => exact absurd rfl (hfirst column)
        | noValue _ => rfl
  | [value] => exact ofPair_eq_error_iff h
  | op :: operand :: operands =>
      rw [ofColumn, ofOperation_eq_error_iff]
      · constructor
        · exact .test h (List.cons_ne_nil operand operands)
        · intro hfault
          cases hfault with
          | head hfirst => exact absurd rfl (hfirst column)
          | test _ _ htest => exact htest
      · simp

theorem not_fault_of_not_isColumn {head : String} (h : ¬ IsColumn head) {rest : List Json}
    {e : Error} : ¬ Fault (.array (.string head :: rest)) e := by
  intro hfault
  cases hfault with
  | head hfirst => exact hfirst head rfl
  | noValue hcolumn => exact h hcolumn
  | noOperator hcolumn => exact h hcolumn
  | nestedItem hcolumn => exact h hcolumn
  | test hcolumn => exact h hcolumn

/-! ## The first fault -/

def FirstFault (js : List Json) (e : Error) : Prop :=
  ∃ before j after, js = before ++ j :: after ∧ Fault j e ∧ ∀ k ∈ before, ∀ e', ¬ Fault k e'

theorem not_firstFault_nil (e : Error) : ¬ FirstFault [] e := by
  rintro ⟨before, j, after, h, -⟩
  simp at h

theorem firstFault_cons {j : Json} {js : List Json} {e : Error} :
    FirstFault (j :: js) e ↔ Fault j e ∨ (∀ e', ¬ Fault j e') ∧ FirstFault js e := by
  constructor
  · rintro ⟨before, k, after, hsplit, hfault, hbefore⟩
    cases before with
    | nil =>
        cases hsplit
        exact .inl hfault
    | cons k' before =>
        cases hsplit
        rw [List.forall_mem_cons] at hbefore
        exact .inr ⟨hbefore.1, before, k, after, rfl, hfault, hbefore.2⟩
  · rintro (hfault | ⟨hnone, before, k, after, rfl, hfault, hbefore⟩)
    · exact ⟨[], j, js, rfl, hfault, by simp⟩
    · exact ⟨j :: before, k, after, rfl, hfault, List.forall_mem_cons.mpr ⟨hnone, hbefore⟩⟩

theorem exists_firstFault_iff {js : List Json} :
    (∃ e, FirstFault js e) ↔ ∃ j ∈ js, ∃ e, Fault j e := by
  induction js with
  | nil => simp [not_firstFault_nil]
  | cons j js ih =>
      simp only [firstFault_cons, List.exists_mem_cons_iff, ← ih, exists_or, exists_and_left]
      by_cases hfault : ∃ e, Fault j e
      · simp [hfault]
      · simp [not_exists.mp hfault]

theorem firstFault_append {js ks : List Json} {e : Error} :
    FirstFault (js ++ ks) e ↔
      FirstFault js e ∨ (∀ e', ¬ FirstFault js e') ∧ FirstFault ks e := by
  induction js with
  | nil => simp [not_firstFault_nil]
  | cons j js ih =>
      simp only [List.cons_append, firstFault_cons, ih]
      by_cases hfault : ∃ e', Fault j e'
      · obtain ⟨e', he'⟩ := hfault
        have hsome : ¬ ∀ e', ¬ Fault j e' := fun h => h e' he'
        simp [hsome]
      · simp [not_exists.mp hfault]

/-! ## Whole values -/

theorem not_fault_of_not_nested {j : Json} {e : Error} (h : j.isNested = false) :
    ¬ Fault j e := by
  intro hfault
  cases hfault <;> contradiction

theorem firstFault_singleton {j : Json} {e : Error} : FirstFault [j] e ↔ Fault j e := by
  simp [firstFault_cons, not_firstFault_nil]

theorem parse_head_eq_error_iff {first : Json} (h : ∀ s, first ≠ .string s) (rest : List Json)
    {e : Error} : parse (.array (first :: rest)) = .error e ↔ Fault (.array (first :: rest)) e := by
  rw [parse]
  · constructor
    · rintro ⟨⟩
      exact .head h rest
    · intro hfault
      cases hfault with
      | head _ _ => rfl
      | noValue _ => exact absurd rfl (h _)
      | noOperator _ _ => exact absurd rfl (h _)
      | nestedItem _ _ => exact absurd rfl (h _)
      | test _ _ _ => exact absurd rfl (h _)
  · exact fun s hs => h s hs

theorem parseAll_cons_eq_error_iff {j : Json} {js : List Json} {e : Error} :
    parseAll (j :: js) = .error e ↔
      parse j = .error e ∨ (∀ e', ¬ parse j = .error e') ∧ parseAll js = .error e := by
  rw [parseAll]
  cases parse j with
  | error e' => simp [bind, Except.bind]
  | ok c => cases parseAll js <;> simp [bind, Except.bind, pure, Except.pure]

mutual

theorem parse_eq_error_iff_firstFault (j : Json) (e : Error) :
    parse j = .error e ↔ FirstFault (expressions j) e := by
  cases j with
  | array items =>
      cases items with
      | nil =>
          simp only [parse, expressions, firstFault_singleton, reduceCtorEq, false_iff]
          rintro ⟨⟩
      | cons first rest =>
          by_cases htext : ∃ head, first = .string head
          · obtain ⟨head, rfl⟩ := htext
            rw [expressions, firstFault_cons]
            by_cases hcolumn : IsColumn head
            · rw [if_pos hcolumn, parse_column hcolumn, ofColumn_eq_error_iff hcolumn]
              simp [not_firstFault_nil]
            · -- The array itself has no fault: all depends on its members.
              obtain ⟨op, hop⟩ := exists_connective_of_not_isColumn hcolumn
              rw [if_neg hcolumn, parse_connective hop, map_eq_error_iff,
                parseAll_eq_error_iff_firstFault rest]
              simp [not_fault_of_not_isColumn hcolumn]
          · have hhead := not_exists.mp htext
            rw [expressions, firstFault_singleton, parse_head_eq_error_iff hhead]
            exact fun head rest' h => hhead head (List.cons.inj (Json.array.inj h)).1
  | object members =>
      rw [parse, expressions, firstFault_singleton]
      · constructor
        · rintro ⟨⟩
          exact .object members
        · rintro ⟨⟩
          rfl
      · simp
  | _ => simpa [parse, expressions, firstFault_singleton] using not_fault_of_not_nested rfl

theorem parseAll_eq_error_iff_firstFault (js : List Json) (e : Error) :
    parseAll js = .error e ↔ FirstFault (memberExpressions js) e := by
  cases js with
  | nil => simp [parseAll, memberExpressions, not_firstFault_nil]
  | cons j js =>
      simp only [parseAll_cons_eq_error_iff, memberExpressions, firstFault_append,
        parse_eq_error_iff_firstFault j, parseAll_eq_error_iff_firstFault js]

end

/-- A JSON value is rejected exactly when one of its expressions is at fault, and the error is
the fault of the leftmost one. -/
theorem parse_eq_error_iff (j : Json) :
    ((∃ e, parse j = .error e) ↔ ∃ p ∈ expressions j, ∃ e, Fault p e) ∧
      ∀ e, parse j = .error e ↔ ∃ before p after, expressions j = before ++ p :: after ∧
        Fault p e ∧ ∀ q ∈ before, ∀ e', ¬ Fault q e' := by
  refine ⟨?_, parse_eq_error_iff_firstFault j⟩
  simp only [parse_eq_error_iff_firstFault]
  exact exists_firstFault_iff

/-- A member that names an unknown operator comes before one that lacks a value. -/
example : parse (.array [.string " and ", .array [.string "a", .string " ~= ", .null],
    .array [.string "b"]]) = .error (.invalidOperator "~=") := rfl

end Condition

end TableGateway
