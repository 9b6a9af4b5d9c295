import TableGateway.Bindings

/-!
# Entries of bindings

The index of bindings gives the place of every name that occurs among the entries and
of no other.  Hence entries with different names are kept as they are and in order,
and looking a name up finds the value of its entry.
-/

namespace TableGateway.Bindings

def Indexed (m : Bindings) : Prop :=
  ∀ (name : String) (i : Nat), m.index[name]? = some i ↔ ∃ v, m.entries[i]? = some (name, v)

theorem indexed_empty : Indexed empty := by
  intro name i
  simp [empty]

theorem Indexed.notMem_names_iff {m : Bindings} (h : m.Indexed) (name : String) :
    name ∉ m.names ↔ m.index[name]? = none := by
  constructor
  · intro hname
    cases hplace : m.index[name]? with
    | none => rfl
    | some i =>
        obtain ⟨v, hentry⟩ := (h name i).mp hplace
        have hmem : (name, v) ∈ m.toList := by
          rw [toList, List.mem_iff_getElem?]
          exact ⟨i, by simpa using hentry⟩
        exact absurd (List.mem_map.mpr ⟨(name, v), hmem, rfl⟩) hname
  · intro hnone hname
    obtain ⟨⟨name', v⟩, hmem, rfl⟩ := List.mem_map.mp hname
    rw [toList, List.mem_iff_getElem?] at hmem
    obtain ⟨i, hentry⟩ := hmem
    have hplace := (h name' i).mpr ⟨v, by simpa using hentry⟩
    rw [hnone] at hplace
    contradiction

theorem Indexed.insert {m : Bindings} (h : m.Indexed) (name : String) (value : Value) :
    (m.insert name value).Indexed := by
  intro name' j
  cases hplace : m.index[name]? with
  | some i =>
      obtain ⟨old, hold⟩ := (h name i).mp hplace
      have hi : i < m.entries.size := (Array.getElem?_eq_some_iff.mp hold).1
      simp only [Bindings.insert, hplace]
      by_cases hj : j = i
      · subst hj
        rw [h name' j, hold, Array.getElem?_setIfInBounds_self_of_lt hi]
        simp
      · rw [h name' j, Array.getElem?_setIfInBounds_ne (Ne.symm hj)]
  | none =>
      simp only [Bindings.insert, hplace]
      rw [Std.TreeMap.getElem?_insert, Array.getElem?_push]
      by_cases hname : name = name'
      · subst hname
        have habsent : ∀ v, m.entries[j]? ≠ some (name, v) := by
          intro v hentry
          have := (h name j).mpr ⟨v, hentry⟩
          rw [hplace] at this
          contradiction
        by_cases hj : j = m.entries.size
        · simp [hj]
        · simp [hj, habsent, Ne.symm hj]
      · have hcompare : compare name name' ≠ .eq := by simpa using hname
        rw [if_neg hcompare, h name' j]
        by_cases hj : j = m.entries.size
        · simp [hj, hname]
        · simp [hj]

theorem Indexed.insertAll {m : Bindings} (h : m.Indexed) (entries : List (String × Value)) :
    (m.insertAll entries).Indexed := by
  induction entries generalizing m with
  | nil => exact h
  | cons e entries ih => exact ih (h.insert e.1 e.2)

theorem Indexed.toList_insert {m : Bindings} (h : m.Indexed) {name : String}
    (hname : name ∉ m.names) (value : Value) :
    (m.insert name value).toList = m.toList ++ [(name, value)] := by
  rw [h.notMem_names_iff] at hname
  simp [Bindings.insert, hname, toList]

theorem Indexed.toList_insertAll {m : Bindings} (h : m.Indexed) {entries : List (String × Value)}
    (hnames : (m.names ++ entries.map (·.1)).Nodup) :
    (m.insertAll entries).toList = m.toList ++ entries := by
  induction entries generalizing m with
  | nil => simp [Bindings.insertAll]
  | cons e entries ih =>
      have hfresh : e.1 ∉ m.names := by
        intro hmem
        rw [List.nodup_append] at hnames
        exact hnames.2.2 e.1 hmem e.1 (by simp) rfl
      have hentries := h.toList_insert hfresh e.2
      have hnext : (m.insert e.1 e.2).names = m.names ++ [e.1] := by
        rw [names, hentries, List.map_append]
        rfl
      have hrest := ih (h.insert e.1 e.2) (by
        rw [hnext, List.append_assoc]
        exact hnames)
      rw [hentries, List.append_assoc] at hrest
      exact hrest

theorem Indexed.get?_of_mem {m : Bindings} (h : m.Indexed) {name : String} {v : Value}
    (hmem : (name, v) ∈ m.toList) : m.get? name = some v := by
  rw [toList, List.mem_iff_getElem?] at hmem
  obtain ⟨i, hentry⟩ := hmem
  have hentry' : m.entries[i]? = some (name, v) := by simpa using hentry
  rw [get?, (h name i).mpr ⟨v, hentry'⟩]
  simp [hentry']

theorem indexed_ofList (entries : List (String × Value)) : Indexed (ofList entries) :=
  indexed_empty.insertAll entries

theorem toList_ofList {entries : List (String × Value)} (hnames : (entries.map (·.1)).Nodup) :
    (ofList entries).toList = entries :=
  indexed_empty.toList_insertAll hnames

theorem insertAll_append (m : Bindings) (entries more : List (String × Value)) :
    m.insertAll (entries ++ more) = (m.insertAll entries).insertAll more :=
  List.foldl_append

theorem merge_eq_ofList {m : Bindings} {entries : List (String × Value)}
    (h : m.toList = entries) (first : List (String × Value)) :
    (ofList first).merge m = ofList (first ++ entries) := by
  rw [merge, h, ofList, ofList, insertAll_append]

/-- The entries are those of the list, and each name is found with its value. -/
def Holds (m : Bindings) (entries : List (String × Value)) : Prop :=
  m.toList = entries ∧ ∀ e ∈ entries, m.get? e.1 = some e.2

theorem Indexed.holds {m : Bindings} (h : m.Indexed) {entries : List (String × Value)}
    (hentries : m.toList = entries) : m.Holds entries := by
  refine ⟨hentries, fun e he => h.get?_of_mem ?_⟩
  rw [hentries]
  exact he

end TableGateway.Bindings
