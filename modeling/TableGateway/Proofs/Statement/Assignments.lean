import TableGateway.Proofs.Sql.Numbering

/-!
# Assignments

The assignments of a map are its columns that keep a character when they are cleaned,
in the order of the map and with their values.  Their placeholders can stand behind a
colon, differ from each other, and are never placeholders of a condition, whatever
the columns are called.
-/

namespace TableGateway

def keptColumns (entries : List (String × Value)) : List (String × Value) :=
  entries.filterMap fun e =>
    if Identifier.clean e.1 = "" then none else some (Identifier.clean e.1, e.2)

namespace Bindings

def columns (m : Bindings) : List (String × Value) :=
  keptColumns m.toList

theorem quoteMark_notMem_columns {m : Bindings} {c : String × Value} (h : c ∈ m.columns) :
    Identifier.quoteMark ∉ c.1.toList := by
  rw [columns, keptColumns, List.mem_filterMap] at h
  obtain ⟨e, -, he⟩ := h
  split at he
  · contradiction
  · simp only [Option.some.injEq] at he
    rw [← he]
    exact Identifier.quoteMark_notMem_clean e.1

end Bindings

namespace Assignment

theorem map_ofEntries (taken : List String) (i : Nat) (entries : List (String × Value)) :
    (ofEntries taken i entries).map (fun a => (a.column, a.value)) = keptColumns entries := by
  induction entries generalizing taken i with
  | nil => rfl
  | cons e entries ih =>
      rw [ofEntries, keptColumns, List.filterMap_cons]
      by_cases hempty : Identifier.clean e.1 = ""
      · simp only [hempty, if_true]
        exact ih taken (i + 1)
      · simp only [hempty, if_false, List.map_cons, ih]
        rfl

theorem map_ofBindings (m : Bindings) :
    (ofBindings m).map (fun a => (a.column, a.value)) = m.columns :=
  map_ofEntries [] 0 m.toList

theorem quoteMark_notMem_column {m : Bindings} {a : Assignment} (h : a ∈ ofBindings m) :
    Identifier.quoteMark ∉ a.column.toList := by
  have hcolumn : (a.column, a.value) ∈ m.columns := by
    rw [← map_ofBindings]
    exact List.mem_map.mpr ⟨a, h, rfl⟩
  exact Bindings.quoteMark_notMem_columns hcolumn

/-! ## Placeholders of assignments -/

def TakenBelow (taken : List String) (i : Nat) : Prop :=
  ∀ p ∈ taken, placeholderStem.toList.isPrefixOf p.toList = true → ∃ k < i, p = numbered k

theorem TakenBelow.succ {taken : List String} {i : Nat} (h : TakenBelow taken i) :
    TakenBelow taken (i + 1) := by
  intro p hp hstem
  obtain ⟨k, hk, hpk⟩ := h p hp hstem
  exact ⟨k, by omega, hpk⟩

theorem placeholderStem_isPrefixOf_numbered (n : Nat) :
    placeholderStem.toList.isPrefixOf (numbered n).toList = true := by
  rw [numbered, String.toList_append, List.isPrefixOf_iff_prefix]
  exact List.prefix_append _ _

theorem TakenBelow.numbered_notMem {taken : List String} {i : Nat} (h : TakenBelow taken i) :
    numbered i ∉ taken := by
  intro hmem
  obtain ⟨k, hk, hik⟩ := h _ hmem (placeholderStem_isPrefixOf_numbered i)
  have := numbered_injective hik
  omega

def choose (taken : List String) (i : Nat) (column : String) : String :=
  if isFree taken column then column else numbered i

theorem choose_notMem {taken : List String} {i : Nat} (h : TakenBelow taken i)
    (column : String) : choose taken i column ∉ taken := by
  rw [choose]
  split
  · rename_i hfree
    simp only [isFree, Bool.and_eq_true, Bool.not_eq_true', List.contains_eq_mem,
      decide_eq_false_iff_not] at hfree
    exact hfree.2
  · exact h.numbered_notMem

theorem TakenBelow.choose_cons {taken : List String} {i : Nat} (h : TakenBelow taken i)
    (column : String) : TakenBelow (choose taken i column :: taken) (i + 1) := by
  intro p hp hstem
  rcases List.mem_cons.mp hp with rfl | hp
  · rw [choose] at hstem ⊢
    split at hstem
    · rename_i hfree
      simp only [isFree, Bool.and_eq_true, Bool.not_eq_true'] at hfree
      rw [hfree.1.2] at hstem
      contradiction
    · rename_i hfree
      exact ⟨i, by omega, by rw [if_neg hfree]⟩
  · exact h.succ p hp hstem

theorem isPlaceholderName_choose (taken : List String) (i : Nat) (column : String) :
    Identifier.isPlaceholderName (choose taken i column) = true := by
  rw [choose]
  split
  · rename_i hfree
    simp only [isFree, Bool.and_eq_true] at hfree
    exact hfree.1.1.1
  · exact isPlaceholderName_numbered i

theorem stem_not_isPrefixOf_choose (taken : List String) (i : Nat) (column : String) :
    Condition.placeholderStem.toList.isPrefixOf (choose taken i column).toList = false := by
  rw [choose]
  split
  · rename_i hfree
    simp only [isFree, Bool.and_eq_true, Bool.not_eq_true'] at hfree
    exact hfree.1.1.2
  · rw [numbered, String.toList_append]
    rfl

theorem ofEntries_cons (taken : List String) (i : Nat) (e : String × Value)
    (entries : List (String × Value)) :
    ofEntries taken i (e :: entries) =
      if Identifier.clean e.1 = "" then ofEntries taken (i + 1) entries
      else ⟨Identifier.clean e.1, choose taken i (Identifier.clean e.1), e.2⟩ ::
        ofEntries (choose taken i (Identifier.clean e.1) :: taken) (i + 1) entries := by
  rw [ofEntries]
  rfl

theorem exists_choose_of_mem {taken : List String} {i : Nat} {entries : List (String × Value)}
    {a : Assignment} (h : a ∈ ofEntries taken i entries) :
    ∃ used j column, a.placeholder = choose used j column := by
  induction entries generalizing taken i with
  | nil => simp [ofEntries] at h
  | cons e entries ih =>
      rw [ofEntries_cons] at h
      by_cases hempty : Identifier.clean e.1 = ""
      · rw [if_pos hempty] at h
        exact ih h
      · rw [if_neg hempty] at h
        rcases List.mem_cons.mp h with hfirst | hrest
        · exact ⟨taken, i, Identifier.clean e.1, by rw [hfirst]⟩
        · exact ih hrest

theorem placeholders_fresh {taken : List String} {i : Nat} (h : TakenBelow taken i)
    (entries : List (String × Value)) :
    ((ofEntries taken i entries).map (·.placeholder)).Nodup ∧
      ∀ a ∈ ofEntries taken i entries, a.placeholder ∉ taken := by
  -- That no placeholder is taken must be carried along: it sets the first apart from the rest.
  induction entries generalizing taken i with
  | nil => simp [ofEntries]
  | cons e entries ih =>
      rw [ofEntries_cons]
      by_cases hempty : Identifier.clean e.1 = ""
      · rw [if_pos hempty]
        exact ih h.succ
      · rw [if_neg hempty]
        have hnew := choose_notMem h (Identifier.clean e.1)
        obtain ⟨hnodup, hrest⟩ := ih (h.choose_cons (Identifier.clean e.1))
        generalize choose taken i (Identifier.clean e.1) = p at hnew hnodup hrest ⊢
        constructor
        · rw [List.map_cons, List.nodup_cons]
          refine ⟨fun hmem => ?_, hnodup⟩
          obtain ⟨a, ha, heq⟩ := List.mem_map.mp hmem
          apply hrest a ha
          rw [heq]
          exact List.mem_cons_self
        · intro a ha
          rcases List.mem_cons.mp ha with hfirst | ha
          · rw [hfirst]
            exact hnew
          · exact fun hmem => hrest a ha (List.mem_cons_of_mem _ hmem)

theorem nodup_placeholders (m : Bindings) :
    ((ofBindings m).map (·.placeholder)).Nodup := by
  have hempty : TakenBelow [] 0 := by simp [TakenBelow]
  exact (placeholders_fresh hempty m.toList).1

theorem isPlaceholderName_placeholder {m : Bindings} {a : Assignment} (h : a ∈ ofBindings m) :
    Identifier.isPlaceholderName a.placeholder = true := by
  obtain ⟨used, j, column, hchoose⟩ := exists_choose_of_mem h
  rw [hchoose]
  exact isPlaceholderName_choose used j column

theorem placeholder_ne_numbered {m : Bindings} {a : Assignment} (h : a ∈ ofBindings m) (n : Nat) :
    a.placeholder ≠ Condition.numbered n := by
  intro heq
  obtain ⟨used, j, column, hchoose⟩ := exists_choose_of_mem h
  have hstem := stem_not_isPrefixOf_choose used j column
  rw [← hchoose, heq, Condition.placeholderStem_isPrefixOf_numbered] at hstem
  contradiction

/-! ## Parameters -/

def parameters (list : List Assignment) : List (String × Value) :=
  list.map fun a => (a.placeholder, a.value)

theorem names_parameters (list : List Assignment) :
    (parameters list).map (·.1) = list.map (·.placeholder) := by
  rw [parameters, List.map_map]
  rfl

end Assignment

end TableGateway
