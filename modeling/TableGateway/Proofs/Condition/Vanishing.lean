import TableGateway.Proofs.Condition.Outline

/-!
# Columns of which nothing is left

A condition cannot be compiled exactly if one of its leaves asks about a column that is empty
when it is cleaned.  Leaves are compiled from left to right, so the error names the first such
column, and the count stops behind the values of the leaves before it.
-/

namespace TableGateway.Condition

mutual

def leaves : Condition → List Condition
  | .group _ members => memberLeaves members
  | c => [c]

def memberLeaves : List Condition → List Condition
  | [] => []
  | c :: cs => leaves c ++ memberLeaves cs

end

def column? : Condition → Option String
  | .compare column _ _ => some column
  | .isNull column _ => some column
  | .between column _ _ _ => some column
  | .isIn column _ _ => some column
  | _ => none

/-- Whether a condition asks about a column of which cleaning leaves nothing. -/
def Vanishes (c : Condition) : Prop :=
  ∃ column ∈ c.column?, Identifier.clean column = ""

/-- The first leaf that vanishes has this column, and these leaves before it. -/
def StopsAt (list before : List Condition) (column : String) : Prop :=
  ∃ leaf after, list = before ++ leaf :: after ∧ leaf.column? = some column ∧
    Identifier.clean column = "" ∧ ∀ c ∈ before, ¬ c.Vanishes

mutual

theorem values_leaves (c : Condition) : c.leaves.flatMap values = c.values := by
  cases c with
  | group op members => exact values_memberLeaves members
  | _ => exact List.append_nil _

theorem values_memberLeaves (cs : List Condition) :
    (memberLeaves cs).flatMap values = memberValues cs := by
  cases cs with
  | nil => rfl
  | cons c cs =>
      rw [memberLeaves, List.flatMap_append, values_leaves c, values_memberLeaves cs, memberValues]

end

/-! ## The first leaf that vanishes -/

section StopsAt

variable {c : Condition} {list others before : List Condition} {column : String}

theorem not_stopsAt_nil : ¬ StopsAt [] before column := by
  rintro ⟨leaf, after, hsplit, -⟩
  simp at hsplit

theorem stopsAt_singleton :
    StopsAt [c] before column ↔
      before = [] ∧ c.column? = some column ∧ Identifier.clean column = "" := by
  constructor
  · rintro ⟨leaf, after, hsplit, hcolumn, hempty, -⟩
    obtain ⟨rfl, hleaf⟩ | ⟨rfl, hnil⟩ := List.singleton_eq_append_iff.mp hsplit
    · cases hleaf
      exact ⟨rfl, hcolumn, hempty⟩
    · simp at hnil
  · rintro ⟨rfl, hcolumn, hempty⟩
    exact ⟨c, [], rfl, hcolumn, hempty, by simp⟩

theorem StopsAt.exists_vanishes (h : StopsAt list before column) : ∃ c ∈ list, c.Vanishes := by
  obtain ⟨leaf, after, rfl, hcolumn, hempty, -⟩ := h
  exact ⟨leaf, by simp, column, hcolumn, hempty⟩

theorem stopsAt_append :
    StopsAt (list ++ others) before column ↔ StopsAt list before column ∨
      (∀ c ∈ list, ¬ c.Vanishes) ∧ ∃ rest, before = list ++ rest ∧ StopsAt others rest column := by
  constructor
  · rintro ⟨leaf, after, hsplit, hcolumn, hempty, hbefore⟩
    obtain ⟨rest, rfl, hothers⟩ | ⟨inside, hlist, hafter⟩ := List.append_eq_append_iff.mp hsplit
    · rw [List.forall_mem_append] at hbefore
      exact .inr ⟨hbefore.1, rest, rfl, leaf, after, hothers, hcolumn, hempty, hbefore.2⟩
    · cases inside with
      | nil =>
          -- The leaf is the first of the others.
          rw [List.append_nil] at hlist
          subst hlist
          exact .inr ⟨hbefore, [], by simp, leaf, after, hafter.symm, hcolumn, hempty, by simp⟩
      | cons first inside =>
          cases hafter
          exact .inl ⟨leaf, inside, hlist, hcolumn, hempty, hbefore⟩
  · rintro (⟨leaf, after, rfl, hcolumn, hempty, hbefore⟩ |
      ⟨hlist, rest, rfl, leaf, after, rfl, hcolumn, hempty, hbefore⟩)
    · exact ⟨leaf, after ++ others, by simp, hcolumn, hempty, hbefore⟩
    · exact ⟨leaf, after, by simp, hcolumn, hempty, List.forall_mem_append.mpr ⟨hlist, hbefore⟩⟩

theorem exists_stopsAt_iff :
    (∃ before column, StopsAt list before column) ↔ ∃ c ∈ list, c.Vanishes := by
  constructor
  · rintro ⟨before, column, h⟩
    exact h.exists_vanishes
  · intro h
    induction list with
    | nil => simp at h
    | cons c list ih =>
        by_cases hc : c.Vanishes
        · obtain ⟨column, hcolumn, hempty⟩ := hc
          exact ⟨[], column, c, list, rfl, hcolumn, hempty, by simp⟩
        · obtain ⟨before, column, hstops⟩ := ih (by simpa [hc] using h)
          have hfirst : ∀ d ∈ [c], ¬ d.Vanishes := by simpa using hc
          exact ⟨c :: before, column, stopsAt_append.mpr (.inr ⟨hfirst, before, rfl, hstops⟩)⟩

end StopsAt

/-! ## Clauses and faults -/

section Leaf

variable {c : Condition} {column : String} {n uses : Nat} {build : Fragment → Clause}

theorem aboutColumn_of_ne (h : Identifier.clean column ≠ "") :
    aboutColumn column n uses build = (.ok (build (.ofName column)), n + uses) := by
  simp [aboutColumn, columnFragment, h]

theorem aboutColumn_of_eq (h : Identifier.clean column = "") :
    aboutColumn column n uses build = (.error (.malformed (.emptyColumn column)), n) := by
  simp [aboutColumn, columnFragment, h]

theorem clean_ne_of_kept (hleaf : c.leaves = [c]) (hcolumn : c.column? = some column)
    (h : ∀ l ∈ c.leaves, ¬ l.Vanishes) : Identifier.clean column ≠ "" := by
  intro hempty
  rw [hleaf, List.forall_mem_singleton] at h
  exact h ⟨column, hcolumn, hempty⟩

theorem aboutColumn_of_stopsAt {asked : String} {before : List Condition}
    (hleaf : c.leaves = [c]) (hcolumn : c.column? = some asked)
    (h : StopsAt c.leaves before column) :
    aboutColumn asked n uses build =
      (.error (.malformed (.emptyColumn column)), n + (before.flatMap values).length) := by
  rw [hleaf, stopsAt_singleton, hcolumn] at h
  obtain ⟨rfl, hsame, hempty⟩ := h
  cases hsame
  exact aboutColumn_of_eq hempty

end Leaf

mutual

theorem whereClause_of_kept {c : Condition} (h : ∀ l ∈ c.leaves, ¬ l.Vanishes) (n : Nat) :
    ∃ clause, whereClause c n = (.ok clause, n + c.values.length) := by
  cases c with
  | all => exact ⟨_, by rw [whereClause]; rfl⟩
  | raw sql => exact ⟨_, by rw [whereClause]; rfl⟩
  | group op members =>
      obtain ⟨clauses, hclauses⟩ := memberClauses_of_kept h n
      exact ⟨grouped op clauses, by rw [whereClause, hclauses]; rfl⟩
  | compare column op value =>
      rw [whereClause, aboutColumn_of_ne (clean_ne_of_kept rfl rfl h)]
      exact ⟨_, rfl⟩
  | isNull column negated =>
      rw [whereClause, aboutColumn_of_ne (clean_ne_of_kept rfl rfl h)]
      exact ⟨_, rfl⟩
  | between column negated low high =>
      rw [whereClause, aboutColumn_of_ne (clean_ne_of_kept rfl rfl h)]
      exact ⟨_, rfl⟩
  | isIn column negated list =>
      rw [whereClause, aboutColumn_of_ne (clean_ne_of_kept rfl rfl h)]
      exact ⟨_, rfl⟩

theorem memberClauses_of_kept {cs : List Condition} (h : ∀ l ∈ memberLeaves cs, ¬ l.Vanishes)
    (n : Nat) : ∃ clauses, memberClauses cs n = (.ok clauses, n + (memberValues cs).length) := by
  cases cs with
  | nil => exact ⟨[], by rw [memberClauses]; rfl⟩
  | cons c cs =>
      rw [memberLeaves, List.forall_mem_append] at h
      obtain ⟨clause, hclause⟩ := whereClause_of_kept h.1 n
      obtain ⟨clauses, hclauses⟩ := memberClauses_of_kept h.2 (n + c.values.length)
      rw [memberClauses, hclause, memberValues, List.length_append, ← Nat.add_assoc]
      exact ⟨clause :: clauses, by simp only [hclauses]⟩

end

mutual

theorem whereClause_of_stopsAt {c : Condition} {before : List Condition} {column : String}
    (h : StopsAt c.leaves before column) (n : Nat) :
    whereClause c n =
      (.error (.malformed (.emptyColumn column)), n + (before.flatMap values).length) := by
  cases c with
  | all => simp [leaves, stopsAt_singleton, column?] at h
  | raw sql => simp [leaves, stopsAt_singleton, column?] at h
  | group op members => rw [whereClause, memberClauses_of_stopsAt h n]
  | compare asked op value => rw [whereClause, aboutColumn_of_stopsAt rfl rfl h]
  | isNull asked negated => rw [whereClause, aboutColumn_of_stopsAt rfl rfl h]
  | between asked negated low high => rw [whereClause, aboutColumn_of_stopsAt rfl rfl h]
  | isIn asked negated list => rw [whereClause, aboutColumn_of_stopsAt rfl rfl h]

theorem memberClauses_of_stopsAt {cs : List Condition} {before : List Condition}
    {column : String} (h : StopsAt (memberLeaves cs) before column) (n : Nat) :
    memberClauses cs n =
      (.error (.malformed (.emptyColumn column)), n + (before.flatMap values).length) := by
  cases cs with
  | nil => exact absurd h not_stopsAt_nil
  | cons c cs =>
      rw [memberLeaves, stopsAt_append] at h
      rcases h with h | ⟨hkept, rest, rfl, h⟩
      · rw [memberClauses, whereClause_of_stopsAt h n]
      · obtain ⟨clause, hclause⟩ := whereClause_of_kept hkept n
        rw [memberClauses, hclause]
        simp only [memberClauses_of_stopsAt h, List.flatMap_append, values_leaves,
          List.length_append, Nat.add_assoc]

end

theorem exists_compileFrom_error_iff (c : Condition) (n : Nat) :
    (∃ e next, c.compileFrom n = (.error e, next)) ↔ ∃ l ∈ c.leaves, l.Vanishes := by
  constructor
  · rintro ⟨e, next, h⟩
    by_contra hkept
    simp only [not_exists, not_and] at hkept
    obtain ⟨clause, hclause⟩ := whereClause_of_kept hkept n
    simp [compileFrom, hclause] at h
  · intro h
    obtain ⟨before, column, hstops⟩ := exists_stopsAt_iff.mpr h
    exact ⟨_, _, by rw [compileFrom, whereClause_of_stopsAt hstops n]⟩

theorem compileFrom_eq_error_iff (c : Condition) (n : Nat) (e : Error) (next : Nat) :
    c.compileFrom n = (.error e, next) ↔
      ∃ before column, StopsAt c.leaves before column ∧ e = .malformed (.emptyColumn column) ∧
        next = n + (before.flatMap values).length := by
  constructor
  · intro h
    have hvanishes := (exists_compileFrom_error_iff c n).mp ⟨e, next, h⟩
    obtain ⟨before, column, hstops⟩ := exists_stopsAt_iff.mpr hvanishes
    rw [compileFrom, whereClause_of_stopsAt hstops n] at h
    cases h
    exact ⟨before, column, hstops, rfl, rfl⟩
  · rintro ⟨before, column, hstops, rfl, rfl⟩
    rw [compileFrom, whereClause_of_stopsAt hstops n]

end TableGateway.Condition
