import Mathlib.Data.List.Induction
import Mathlib.Data.List.Nodup
import TableGateway.Proofs.Bindings.Entries

/-!
# Bindings and how they were made

Bindings are made by collecting entries, inserting one and merging others.  However that was
done, they are told from the list of all that was bound on the way: every name stands where
it was bound first and has the value that it was bound to last.
-/

namespace TableGateway

inductive Recipe where
  | collect (entries : List (String × Value))
  | insert (recipe : Recipe) (name : String) (value : Value)
  | merge (recipe other : Recipe)

namespace Recipe

def bindings : Recipe → Bindings
  | .collect entries => .ofList entries
  | .insert recipe name value => recipe.bindings.insert name value
  | .merge recipe other => recipe.bindings.merge other.bindings

def history : Recipe → List (String × Value)
  | .collect entries => entries
  | .insert recipe name value => recipe.history ++ [(name, value)]
  | .merge recipe other => recipe.history ++ other.history

end Recipe

/-! ## First occurrences -/

theorem eraseDups_concat (names : List String) (name : String) :
    (names ++ [name]).eraseDups =
      if name ∈ names then names.eraseDups else names.eraseDups ++ [name] := by
  rw [List.eraseDups_append]
  by_cases h : name ∈ names
  · simp [List.removeAll, h]
  · simp [List.removeAll, h, List.eraseDups_cons]

theorem eraseDups_of_nodup {names : List String} (h : names.Nodup) : names.eraseDups = names := by
  induction names using List.reverseRecOn with
  | nil => rfl
  | append_singleton names name ih =>
      rw [← List.concat_eq_append, List.nodup_concat] at h
      rw [eraseDups_concat, if_neg h.1, ih h.2]

theorem nodup_eraseDups (names : List String) : names.eraseDups.Nodup := by
  induction names using List.reverseRecOn with
  | nil => exact List.nodup_nil
  | append_singleton names name ih =>
      rw [eraseDups_concat]
      split
      · exact ih
      · rename_i hname
        rw [← List.concat_eq_append, List.nodup_concat, List.mem_eraseDups]
        exact ⟨hname, ih⟩

/-- What occurs first in two lists can be told without what is repeated in one of them. -/
theorem eraseDups_append_eraseDups (names others : List String) :
    (names.eraseDups ++ others.eraseDups).eraseDups = (names ++ others).eraseDups := by
  induction others using List.reverseRecOn with
  | nil =>
      have hnodup := eraseDups_of_nodup (nodup_eraseDups names)
      simpa using hnodup
  | append_singleton others name ih =>
      rw [eraseDups_concat, ← List.append_assoc, eraseDups_concat, ← ih]
      by_cases h : name ∈ others
      · rw [if_pos h, if_pos (List.mem_append_right names h)]
      · rw [if_neg h, ← List.append_assoc, eraseDups_concat]
        simp only [List.mem_append, List.mem_eraseDups]

namespace Bindings

structure Agrees (m n : Bindings) : Prop where
  entries : m.entries = n.entries
  index : m.index.Equiv n.index

variable {m n : Bindings}

/-! ## One more name -/

theorem Indexed.nodup_names (h : m.Indexed) : m.names.Nodup := by
  rw [List.nodup_iff_getElem?_ne_getElem?]
  intro i j hij hj heq
  -- The index has one place for a name, so it cannot stand at both.
  have hlast : m.names[j]? = some m.names[j] := List.getElem?_eq_getElem hj
  have hplace : ∀ k, m.names[k]? = some m.names[j] → m.index[m.names[j]]? = some k := by
    intro k hk
    rw [h]
    simpa [names, toList] using hk
  have hsame := (hplace i (heq.trans hlast)).symm.trans (hplace j hlast)
  exact absurd (Option.some.inj hsame) (Nat.ne_of_lt hij)

theorem Indexed.contains_iff (h : m.Indexed) (name : String) :
    m.contains name = true ↔ name ∈ m.names := by
  have habsent := h.notMem_names_iff name
  rw [contains, Std.TreeMap.contains_eq_isSome_getElem?, Option.isSome_iff_ne_none]
  exact not_iff_comm.mp habsent

theorem Indexed.get?_eq_none (h : m.Indexed) {name : String} (hname : name ∉ m.names) :
    m.get? name = none := by
  rw [h.notMem_names_iff] at hname
  simp [get?, hname]

/-! ## One more binding -/

theorem toList_insert_of_place {name : String} {i : Nat} (h : m.index[name]? = some i)
    (value : Value) : (m.insert name value).toList = m.toList.set i (name, value) := by
  simp [Bindings.insert, h, toList]

theorem toList_insert_of_none {name : String} (h : m.index[name]? = none) (value : Value) :
    (m.insert name value).toList = m.toList ++ [(name, value)] := by
  simp [Bindings.insert, h, toList]

theorem Indexed.getElem?_of_place (h : m.Indexed) {name : String} {i : Nat}
    (hplace : m.index[name]? = some i) : ∃ v, m.toList[i]? = some (name, v) := by
  obtain ⟨v, hentry⟩ := (h name i).mp hplace
  exact ⟨v, by simpa [toList] using hentry⟩

theorem Indexed.names_insert (h : m.Indexed) (name : String) (value : Value) :
    (m.insert name value).names = if name ∈ m.names then m.names else m.names ++ [name] := by
  cases hplace : m.index[name]? with
  | none =>
      have habsent := (h.notMem_names_iff name).mpr hplace
      rw [if_neg habsent, names, toList_insert_of_none hplace, List.map_append]
      rfl
  | some i =>
      obtain ⟨old, hold⟩ := h.getElem?_of_place hplace
      have hsame : m.names[i]? = some name := by simp [names, hold]
      rw [if_pos (List.mem_of_getElem? hsame), names, toList_insert_of_place hplace, List.map_set]
      obtain ⟨hi, hname⟩ := List.getElem?_eq_some_iff.mp hsame
      rw [← hname]
      exact List.set_getElem_self hi

theorem Indexed.mem_insert_self (h : m.Indexed) (name : String) (value : Value) :
    (name, value) ∈ (m.insert name value).toList := by
  cases hplace : m.index[name]? with
  | none => simp [toList_insert_of_none hplace]
  | some i =>
      obtain ⟨old, hold⟩ := h.getElem?_of_place hplace
      rw [toList_insert_of_place hplace]
      exact List.mem_set (List.getElem?_eq_some_iff.mp hold).1 _

theorem Indexed.mem_insert_of_ne (h : m.Indexed) {name other : String} (hne : other ≠ name)
    (value : Value) {v : Value} (hmem : (other, v) ∈ m.toList) :
    (other, v) ∈ (m.insert name value).toList := by
  cases hplace : m.index[name]? with
  | none => simp [toList_insert_of_none hplace, hmem]
  | some i =>
      obtain ⟨old, hold⟩ := h.getElem?_of_place hplace
      obtain ⟨j, hj⟩ := List.mem_iff_getElem?.mp hmem
      have hij : i ≠ j := by
        rintro rfl
        rw [hold] at hj
        exact hne (congrArg Prod.fst (Option.some.inj hj)).symm
      rw [toList_insert_of_place hplace]
      apply List.mem_of_getElem?
      rw [List.getElem?_set_ne hij]
      exact hj

theorem Indexed.get?_insert (h : m.Indexed) (name : String) (value : Value) (other : String) :
    (m.insert name value).get? other = if other = name then some value else m.get? other := by
  have hnext := h.insert name value
  by_cases hother : other = name
  · subst hother
    rw [if_pos rfl]
    exact hnext.get?_of_mem (h.mem_insert_self other value)
  · rw [if_neg hother]
    by_cases hmem : other ∈ m.names
    · obtain ⟨⟨_, v⟩, hentry, rfl⟩ := List.mem_map.mp hmem
      rw [h.get?_of_mem hentry]
      exact hnext.get?_of_mem (h.mem_insert_of_ne hother value hentry)
    · have hfresh : other ∉ (m.insert name value).names := by
        rw [h.names_insert]
        split <;> simp [hmem, hother]
      rw [h.get?_eq_none hmem, hnext.get?_eq_none hfresh]

/-! ## Many bindings -/

theorem Indexed.names_insertAll (h : m.Indexed) (entries : List (String × Value)) :
    (m.insertAll entries).names = (m.names ++ entries.map (·.1)).eraseDups := by
  induction entries using List.reverseRecOn with
  | nil =>
      rw [List.map_nil, List.append_nil, eraseDups_of_nodup h.nodup_names]
      rfl
  | append_singleton entries e ih =>
      rw [insertAll_append, List.map_append, ← List.append_assoc]
      change ((m.insertAll entries).insert e.1 e.2).names = (_ ++ [e.1]).eraseDups
      rw [(h.insertAll entries).names_insert, eraseDups_concat, ih]
      simp only [List.mem_eraseDups]

theorem Indexed.get?_insertAll (h : m.Indexed) (entries : List (String × Value)) (name : String) :
    (m.insertAll entries).get? name = (entries.reverse.lookup name).or (m.get? name) := by
  induction entries using List.reverseRecOn with
  | nil => rfl
  | append_singleton entries e ih =>
      rw [insertAll_append]
      change ((m.insertAll entries).insert e.1 e.2).get? name = _
      rw [(h.insertAll entries).get?_insert, ih, List.reverse_concat, List.lookup_cons]
      by_cases hname : name = e.1
      · simp [hname]
      · have hbeq : (name == e.1) = false := beq_false_of_ne hname
        rw [if_neg hname, hbeq]

theorem Indexed.lookup_reverse (h : m.Indexed) (name : String) :
    m.toList.reverse.lookup name = m.get? name := by
  cases hlookup : m.toList.reverse.lookup name with
  | none =>
      rw [List.lookup_eq_none_iff] at hlookup
      rw [h.get?_eq_none]
      intro hmem
      obtain ⟨e, he, rfl⟩ := List.mem_map.mp hmem
      exact absurd (hlookup e (List.mem_reverse.mpr he)) (by simp)
  | some v =>
      obtain ⟨later, earlier, hsplit, -⟩ := List.lookup_eq_some_iff.mp hlookup
      have hmem : (name, v) ∈ m.toList.reverse := by simp [hsplit]
      rw [h.get?_of_mem (List.mem_reverse.mp hmem)]

theorem Indexed.toList_eq (h : m.Indexed) :
    m.toList = m.names.filterMap fun name => (m.get? name).map (name, ·) := by
  have hself : ∀ e ∈ m.toList, (m.get? e.1).map (e.1, ·) = some e := by
    intro e he
    rw [h.get?_of_mem he]
    rfl
  rw [names, List.filterMap_map]
  exact (List.filterMap_some.symm.trans (List.filterMap_congr hself).symm)

/-! ## Equality -/

theorem sameEntries_names {entries others : List (String × Value)}
    (h : sameEntries entries others = true) : entries.map (·.1) = others.map (·.1) := by
  fun_induction sameEntries entries others with
  | case1 => rfl
  | case2 a v rest b w others ih =>
      simp only [Bool.and_eq_true, beq_iff_eq] at h
      rw [List.map_cons, List.map_cons, h.1.1, ih h.2]
  | case3 => contradiction

theorem Indexed.place_eq (hm : m.Indexed) (hn : n.Indexed) (hnames : m.names = n.names) :
    m.index.Equiv n.index := by
  apply Std.TreeMap.Equiv.of_forall_constGet?_eq
  intro name
  have hplace : ∀ {k : Bindings}, k.Indexed → ∀ i,
      k.index[name]? = some i ↔ k.names[i]? = some name := by
    intro k hk i
    rw [hk]
    simp [names, toList]
  apply Option.ext
  intro i
  exact (hplace hm i).trans ((hnames ▸ hplace hn i).symm)

/-- Bindings are equal exactly if their entries are: the index says nothing more. -/
theorem Indexed.same_eq (hm : m.Indexed) (hn : n.Indexed) :
    m.same n = sameEntries m.toList n.toList := by
  rw [same]
  cases h : sameEntries m.toList n.toList with
  | false => rfl
  | true =>
      have hindex := hm.place_eq hn (sameEntries_names h)
      rw [Std.TreeMap.equiv_iff_toList_eq] at hindex
      simp [hindex]

theorem Indexed.agrees_iff (hm : m.Indexed) (hn : n.Indexed) :
    m.Agrees n ↔ m.toList = n.toList := by
  constructor
  · intro h
    rw [toList, h.entries, toList]
  · intro h
    exact ⟨Array.toList_inj.mp h, hm.place_eq hn (by rw [names, h, names])⟩

end Bindings

/-! ## Bindings and their history -/

namespace Recipe

open Bindings

theorem indexed_bindings (r : Recipe) : r.bindings.Indexed := by
  induction r with
  | collect entries => exact indexed_ofList entries
  | insert recipe name value ih => exact ih.insert name value
  | merge recipe other ih _ => exact ih.insertAll other.bindings.toList

theorem names_bindings (r : Recipe) :
    r.bindings.names = (r.history.map (·.1)).eraseDups := by
  induction r with
  | collect entries => exact indexed_empty.names_insertAll entries
  | insert recipe name value ih =>
      rw [bindings, recipe.indexed_bindings.names_insert, ih, history, List.map_append]
      change _ = (_ ++ [name]).eraseDups
      rw [eraseDups_concat]
      simp only [List.mem_eraseDups]
  | merge recipe other ih ih' =>
      have hnames : other.bindings.toList.map (·.1) = _ := ih'
      rw [bindings, Bindings.merge, recipe.indexed_bindings.names_insertAll, hnames,
        ih, eraseDups_append_eraseDups, history, List.map_append]

theorem get?_bindings (r : Recipe) (name : String) :
    r.bindings.get? name = r.history.reverse.lookup name := by
  induction r with
  | collect entries =>
      have hnone : empty.get? name = none := by simp [get?, empty]
      rw [bindings, ofList, indexed_empty.get?_insertAll, hnone, Option.or_none, history]
  | insert recipe other value ih =>
      rw [bindings, recipe.indexed_bindings.get?_insert, ih, history, List.reverse_concat,
        List.lookup_cons]
      by_cases hname : name = other
      · simp [hname]
      · have hbeq : (name == other) = false := beq_false_of_ne hname
        rw [if_neg hname, hbeq]
  | merge recipe other ih ih' =>
      rw [bindings, Bindings.merge, recipe.indexed_bindings.get?_insertAll,
        other.indexed_bindings.lookup_reverse, ih, ih', history, List.reverse_append,
        List.lookup_append]

theorem agrees_of_history_eq {r r' : Recipe} (h : r.history = r'.history) :
    r.bindings.Agrees r'.bindings := by
  rw [r.indexed_bindings.agrees_iff r'.indexed_bindings, r.indexed_bindings.toList_eq,
    r'.indexed_bindings.toList_eq, names_bindings, names_bindings, h]
  simp only [get?_bindings, h]

/-- Bindings keep the order of the first bindings and the values of the last ones, and their
index says where every name is.  They are told apart by their entries alone, and it does not
matter how they were merged. -/
theorem first_places_last_values (r : Recipe) :
    r.bindings.names.Nodup ∧
    (∀ (name : String) (i : Nat), r.bindings.index[name]? = some i ↔
      ∃ v, r.bindings.entries[i]? = some (name, v)) ∧
    (∀ name : String, ∀ i ∈ r.bindings.index[name]?, i < r.bindings.size) ∧
    r.bindings.names = (r.history.map (·.1)).eraseDups ∧
    (∀ name, r.bindings.get? name = r.history.reverse.lookup name) ∧
    (∀ name, r.bindings.contains name = true ↔ name ∈ r.history.map (·.1)) ∧
    (∀ (name : String) (value : Value), (r.bindings.insert name value).toList =
      match r.bindings.index[name]? with
      | some i => r.bindings.toList.set i (name, value)
      | none => r.bindings.toList ++ [(name, value)]) ∧
    (∀ r' : Recipe, (r.bindings.Agrees r'.bindings ↔ r.bindings.toList = r'.bindings.toList) ∧
      r.bindings.same r'.bindings = sameEntries r.bindings.toList r'.bindings.toList) ∧
    (∀ r' : Recipe, r.bindings.merge r'.bindings =
      r'.bindings.toList.foldl (fun m e => m.insert e.1 e.2) r.bindings) ∧
    ∀ r' r'' : Recipe,
      ((r.bindings.merge r'.bindings).merge r''.bindings).Agrees
        (r.bindings.merge (r'.bindings.merge r''.bindings)) := by
  have h := r.indexed_bindings
  refine ⟨h.nodup_names, h, ?bounds, names_bindings r, get?_bindings r, ?contains, ?insert,
    fun r' => ⟨h.agrees_iff r'.indexed_bindings, h.same_eq r'.indexed_bindings⟩,
    fun r' => rfl, ?assoc⟩
  case bounds =>
    intro name i hplace
    obtain ⟨v, hentry⟩ := (h name i).mp hplace
    exact (Array.getElem?_eq_some_iff.mp hentry).1
  case contains =>
    intro name
    rw [h.contains_iff, names_bindings, List.mem_eraseDups]
  case insert =>
    intro name value
    cases hplace : r.bindings.index[name]? with
    | none => exact toList_insert_of_none hplace value
    | some i => exact toList_insert_of_place hplace value
  case assoc =>
    intro r' r''
    have hhistory : (merge (merge r r') r'').history = (merge r (merge r' r'')).history :=
      List.append_assoc _ _ _
    exact agrees_of_history_eq hhistory

example : (merge (.collect [("b", .int 1), ("a", .null), ("b", .int 3)])
    (.insert (.collect [("c", .int 4)]) "a" (.int 5))).bindings.toList =
      [("b", .int 3), ("a", .int 5), ("c", .int 4)] := by
  decide +kernel

end Recipe

end TableGateway
