import TableGateway.Proofs.Condition.Outline
import TableGateway.Proofs.Sql.Occurrence

/-!
# Counting placeholders

Compiling a condition counts its values.  The placeholders are numbered without a gap from
the number at the start, in the order of the values, of the bindings and of the text.  A
fault stops the count but never turns it back, so conditions that are compiled one after
the other have no placeholder in common.
-/

namespace TableGateway.Condition

/-! ## The count never turns back -/

/-- The count has gone on from `n`, by no more than `uses`. -/
def Advances (n uses next : Nat) : Prop :=
  n ≤ next ∧ next ≤ n + uses

theorem Advances.trans {n m next uses uses' : Nat} (h : Advances n uses m)
    (h' : Advances m uses' next) : Advances n (uses + uses') next := by
  obtain ⟨hlower, hupper⟩ := h
  obtain ⟨hlower', hupper'⟩ := h'
  exact ⟨by omega, by omega⟩

theorem Advances.mono {n uses more next : Nat} (h : Advances n uses next) (hmore : uses ≤ more) :
    Advances n more next := by
  obtain ⟨hlower, hupper⟩ := h
  exact ⟨hlower, by omega⟩

theorem advances_aboutColumn (column : String) (n uses : Nat) (clause : Fragment → Clause) :
    Advances n uses (aboutColumn column n uses clause).2 := by
  rw [aboutColumn]
  split
  · exact ⟨Nat.le_add_right n uses, Nat.le_refl _⟩
  · exact ⟨Nat.le_refl n, Nat.le_add_right n uses⟩

mutual

theorem advances_whereClause (c : Condition) (n : Nat) :
    Advances n c.values.length (whereClause c n).2 := by
  cases c with
  | all | raw sql =>
      rw [whereClause]
      exact ⟨Nat.le_refl n, Nat.le_refl n⟩
  | group op members =>
      have hmembers := advances_memberClauses members n
      rw [whereClause, values]
      split
      · rename_i hresult
        rwa [hresult] at hmembers
      · rename_i hresult
        rwa [hresult] at hmembers
  | compare column op value =>
      rw [whereClause]
      exact advances_aboutColumn column n 1 _
  | isNull column negated =>
      rw [whereClause]
      exact advances_aboutColumn column n 0 _
  | between column negated low high =>
      rw [whereClause]
      exact advances_aboutColumn column n 2 _
  | isIn column negated list =>
      rw [whereClause]
      exact advances_aboutColumn column n list.length _

theorem advances_memberClauses (cs : List Condition) (n : Nat) :
    Advances n (memberValues cs).length (memberClauses cs n).2 := by
  cases cs with
  | nil =>
      rw [memberClauses]
      exact ⟨Nat.le_refl n, Nat.le_refl n⟩
  | cons c cs =>
      have hfirst := advances_whereClause c n
      rw [memberClauses, memberValues, List.length_append]
      split
      · rename_i hresult
        rw [hresult] at hfirst
        exact hfirst.mono (Nat.le_add_right _ _)
      · rename_i middle hresult
        rw [hresult] at hfirst
        have hrest := advances_memberClauses cs middle
        split
        · rename_i hresults
          rw [hresults] at hrest
          exact hfirst.trans hrest
        · rename_i hresults
          rw [hresults] at hrest
          exact hfirst.trans hrest

end

theorem advances_compileFrom (c : Condition) (n : Nat) :
    Advances n c.values.length (compileFrom c n).2 := by
  have hclause := advances_whereClause c n
  rw [compileFrom]
  split
  · rename_i hresult
    rwa [hresult] at hclause
  · rename_i hresult
    rwa [hresult] at hclause

/-- Whether a condition compiles or not, a count in machine words does not overflow if the number
at the start and the values of the condition fit into a word together. -/
theorem compileFrom_lt_of_fits {c : Condition} {n size : Nat} (h : n + c.values.length < size) :
    (compileFrom c n).2 < size :=
  Nat.lt_of_le_of_lt (advances_compileFrom c n).2 h

/-! ## Conditions that share a count -/

def compileAll : List Condition → Nat → List (Except Error (String × Bindings))
  | [], _ => []
  | c :: cs, n => (compileFrom c n).1 :: compileAll cs (compileFrom c n).2

def boundNames : Except Error (String × Bindings) → List String
  | .ok compiled => compiled.2.names
  | .error _ => []

section Compiled

variable {c : Condition} {n next : Nat} {sql : String} {bindings : Bindings}

theorem toList_of_compileFrom (h : c.compileFrom n = (.ok (sql, bindings), next)) :
    bindings.toList = (numberedFrom n c.values.length).zip c.values := by
  obtain ⟨clause, hclause, -, rfl⟩ := compiled_of_compileFrom h
  rw [hclause.toList_ofList, Clause.bindings_eq_zip, hclause.names, hclause.outline,
    values_outline]

theorem names_of_compileFrom (h : c.compileFrom n = (.ok (sql, bindings), next)) :
    bindings.names = numberedFrom n c.values.length := by
  rw [Bindings.names, toList_of_compileFrom h, List.map_fst_zip]
  rw [length_numberedFrom]

theorem next_of_compileFrom (h : c.compileFrom n = (.ok (sql, bindings), next)) :
    next = n + c.values.length := by
  obtain ⟨clause, hclause, -, -⟩ := compiled_of_compileFrom h
  exact hclause.next

theorem bareNames_of_compileFrom (h : c.compileFrom n = (.ok (sql, bindings), next))
    (hraw : c.rawTexts = []) : Placeholder.bareNames sql.toList = bindings.names := by
  rw [names_of_compileFrom h]
  obtain ⟨clause, hclause, rfl, -⟩ := compiled_of_compileFrom h
  have hlegible := hclause.legible (plainTexts_of_eq_nil hraw)
  rw [Clause.sql, String.toList_ofList, hlegible.bareNames_chars, hclause.names]

end Compiled

theorem exists_boundNames_eq (c : Condition) (n : Nat) :
    ∃ count, boundNames (compileFrom c n).1 = numberedFrom n count ∧
      n + count ≤ (compileFrom c n).2 := by
  have hle := (advances_compileFrom c n).1
  cases hresult : compileFrom c n with
  | mk result next =>
      rw [hresult] at hle
      cases result with
      | error e => exact ⟨0, rfl, hle⟩
      | ok compiled =>
          refine ⟨c.values.length, names_of_compileFrom hresult, ?_⟩
          rw [next_of_compileFrom hresult]

theorem exists_numbers_compileAll (cs : List Condition) (n : Nat) :
    ∃ ks : List Nat, (compileAll cs n).flatMap boundNames = ks.map numbered ∧
      ks.Pairwise (· < ·) ∧ ∀ k ∈ ks, n ≤ k := by
  induction cs generalizing n with
  | nil => exact ⟨[], rfl, .nil, by simp⟩
  | cons c cs ih =>
      obtain ⟨count, hnames, hle⟩ := exists_boundNames_eq c n
      obtain ⟨ks, hrest, hsorted, hlower⟩ := ih (compileFrom c n).2
      refine ⟨List.range' n count ++ ks, ?_, ?_, ?_⟩
      · rw [compileAll, List.flatMap_cons, hnames, hrest, numberedFrom, List.map_append]
      · rw [List.pairwise_append]
        refine ⟨List.pairwise_lt_range', hsorted, fun j hj k hk => ?_⟩
        have hupper := List.mem_range'_1.mp hj
        have hbeyond := hlower k hk
        omega
      · intro k hk
        rcases List.mem_append.mp hk with hk | hk
        · exact (List.mem_range'_1.mp hk).1
        · have hbeyond := hlower k hk
          omega

theorem nodup_compileAll (cs : List Condition) (n : Nat) :
    ((compileAll cs n).flatMap boundNames).Nodup := by
  obtain ⟨ks, hnames, hsorted, -⟩ := exists_numbers_compileAll cs n
  rw [hnames]
  refine List.pairwise_map.mpr (hsorted.imp fun hlt hsame => ?_)
  exact absurd (numbered_injective hsame) (Nat.ne_of_lt hlt)

/-- A compiled condition has counted its values: they are bound in order to placeholders
that are numbered from the start, the text has these placeholders in this order and each of
them once, and no condition that goes on with the count has one of them again. -/
theorem numbered_of_compileFrom {c : Condition} {n next : Nat} {sql : String}
    {bindings : Bindings} (h : c.compileFrom n = (.ok (sql, bindings), next)) :
    next = n + c.values.length ∧
      bindings.size = c.values.length ∧
      bindings.toList = (numberedFrom n c.values.length).zip c.values ∧
      (c.rawTexts = [] →
        Placeholder.bareNames sql.toList = numberedFrom n c.values.length) ∧
      (numberedFrom n c.values.length).Nodup ∧
      ∀ others, (bindings.names ++ (compileAll others next).flatMap boundNames).Nodup := by
  refine ⟨next_of_compileFrom h, ?_, toList_of_compileFrom h, ?_, nodup_numberedFrom n _, ?_⟩
  · have hlength := congrArg List.length (names_of_compileFrom h)
    rwa [length_numberedFrom, Bindings.names, List.length_map, Bindings.toList,
      Array.length_toList] at hlength
  · intro hraw
    rw [bareNames_of_compileFrom h hraw, names_of_compileFrom h]
  · intro others
    have hnames := nodup_compileAll (c :: others) n
    rwa [compileAll, List.flatMap_cons, h] at hnames

/-- A condition whose columns look like placeholders. -/
def masquerade : Condition :=
  .group .or [.compare ":_where_param_9" .equal (.int 1),
    .group .and [.between "a` = :b" true (.int 2) (.text ":c"), .isIn ":d" false []],
    .isIn "e" true [.null, .int 3]]

theorem numbered_of_compileFrom_masquerade :
    ∃ sql bindings, masquerade.compileFrom 9 = (.ok (sql, bindings), 14) ∧
      Placeholder.bareNames sql.toList =
        ["_where_param_9", "_where_param_10", "_where_param_11", "_where_param_12",
          "_where_param_13"] := by
  refine ⟨_, _, rfl, ?_⟩
  exact (numbered_of_compileFrom (c := masquerade) rfl).2.2.2.1 rfl

end TableGateway.Condition
