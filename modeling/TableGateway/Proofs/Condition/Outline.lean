import TableGateway.Proofs.Bindings.Entries
import TableGateway.Proofs.Sql.Numbering

/-!
# Outlines of conditions

The outline of a condition says what a server gets of it.  A clause that a condition
becomes has that outline, numbers its placeholders one after the other in the order of
the text, and is legible unless SQL of the caller's own spoils it.
-/

namespace TableGateway

open Placeholder

/-! ## The shape of the text -/

namespace Operator

def before : Operator → String
  | .compare _ => " "
  | .nullTest _ => ""
  | .range _ => " "
  | .membership _ => " ("

def between : Operator → String
  | .compare _ => ""
  | .nullTest _ => ""
  | .range _ => " AND "
  | .membership _ => ", "

def after : Operator → String
  | .compare _ => ""
  | .nullTest _ => ""
  | .range _ => ""
  | .membership _ => ")"

end Operator

namespace Outline

def asked (cleaned : String) (op : Operator) (operands : List Value) : Outline :=
  .name cleaned :: (text (" " ++ op.sql ++ op.before) ++
    join op.between (operands.map fun v => [.slot v]) ++ text op.after)

def grouped (op : Connective) : List Outline → Outline
  | [] => text "1"
  | members => join (" " ++ op.sql ++ " ") (members.map fun o => text "(" ++ o ++ text ")")

end Outline

namespace Condition

mutual

def outline : Condition → Outline
  | .all => Outline.text "1"
  | .raw sql => Outline.text sql
  | .group op members => Outline.grouped op (memberOutlines members)
  | .compare column op value => Outline.asked (Identifier.clean column) (.compare op) [value]
  | .isNull column negated => Outline.asked (Identifier.clean column) (.nullTest negated) []
  | .between column negated low high =>
    Outline.asked (Identifier.clean column) (.range negated) [low, high]
  | .isIn column negated values =>
    if values.isEmpty then Outline.text (if negated then "1" else "0")
    else Outline.asked (Identifier.clean column) (.membership negated) values

def memberOutlines : List Condition → List Outline
  | [] => []
  | c :: cs => outline c :: memberOutlines cs

end

mutual

def rawTexts : Condition → List String
  | .raw sql => [sql]
  | .group _ members => memberRawTexts members
  | _ => []

def memberRawTexts : List Condition → List String
  | [] => []
  | c :: cs => rawTexts c ++ memberRawTexts cs

end

end Condition

namespace Condition

theorem values_asked (cleaned : String) (op : Operator) (operands : List Value) :
    (Outline.asked cleaned op operands).values = operands := by
  have hslots : (operands.map fun v => [Piece.slot v]).flatMap Outline.values = operands := by
    rw [List.flatMap_map]
    exact List.flatMap_singleton' operands
  simp [Outline.asked, Outline.values_join, hslots]

theorem values_grouped (op : Connective) (members : List Outline) :
    (Outline.grouped op members).values = members.flatMap Outline.values := by
  cases members with
  | nil => exact Outline.values_text "1"
  | cons o os =>
      rw [Outline.grouped, Outline.values_join, List.flatMap_map]
      · simp
      · simp

mutual

theorem values_outline (c : Condition) : c.outline.values = c.values := by
  cases c with
  | all => exact Outline.values_text "1"
  | raw sql => exact Outline.values_text sql
  | group op members => rw [outline, values_grouped, values, values_memberOutlines]
  | compare column op value => exact values_asked _ _ [value]
  | isNull column negated => exact values_asked _ _ []
  | between column negated low high => exact values_asked _ _ [low, high]
  | isIn column negated list =>
      rw [outline, values]
      cases list with
      | nil => exact Outline.values_text _
      | cons v list => exact values_asked _ _ (v :: list)

theorem values_memberOutlines (cs : List Condition) :
    (memberOutlines cs).flatMap Outline.values = memberValues cs := by
  cases cs with
  | nil => rfl
  | cons c cs =>
      rw [memberOutlines, List.flatMap_cons, values_outline c, values_memberOutlines cs,
        memberValues]

end

end Condition

/-- Whether SQL of the caller's own has no character that opens a quotation, a comment
or a placeholder. -/
def PlainTexts (texts : List String) : Prop :=
  ∀ s ∈ texts, isPlainText s = true

instance (texts : List String) : Decidable (PlainTexts texts) :=
  inferInstanceAs (Decidable (∀ s ∈ texts, isPlainText s = true))

theorem plainTexts_of_eq_nil {texts : List String} (h : texts = []) : PlainTexts texts := by
  rw [h]
  exact fun s hs => absurd hs List.not_mem_nil

/-! ## The clauses that conditions are made of -/

namespace Condition

theorem outline_boundFrom (values : List Value) (n : Nat) :
    ((boundFrom n values).map fun b => Clause.outline [b]) = values.map fun v => [.slot v] := by
  induction values generalizing n with
  | nil => rfl
  | cons v values ih =>
      rw [boundFrom, List.map_cons, List.map_cons, ih]
      rfl

theorem bindings_boundFrom (values : List Value) (n : Nat) :
    (Clause.bindings (boundFrom n values)).map (·.1) = numberedFrom n values.length := by
  induction values generalizing n with
  | nil => rfl
  | cons v values ih =>
      rw [boundFrom, Clause.bindings_bound, List.map_cons, ih]
      rfl

theorem legible_of_mem_boundFrom {values : List Value} {n : Nat} {b : Fragment}
    (h : b ∈ boundFrom n values) : Clause.Legible [b] := by
  induction values generalizing n with
  | nil => simp [boundFrom] at h
  | cons v values ih =>
      rw [boundFrom, List.mem_cons] at h
      rcases h with rfl | h
      · exact Clause.legible_nil.bound_cons (isPlaceholderName_numbered n) apart_nil
      · exact ih h

theorem outline_grouped (op : Connective) (clauses : List Clause) :
    (grouped op clauses).outline = Outline.grouped op (clauses.map Clause.outline) := by
  cases clauses with
  | nil => rfl
  | cons c cs =>
      rw [grouped, Clause.outline_join, List.map_map, List.map_cons, Outline.grouped,
        ← List.map_cons, List.map_map]
      · congr 1
        apply List.map_congr_left
        intro d _
        simp [Fragment.outline]
      · simp
      · simp

theorem bindings_grouped (op : Connective) (clauses : List Clause) :
    (grouped op clauses).bindings = clauses.flatMap Clause.bindings := by
  cases clauses with
  | nil => rfl
  | cons c cs =>
      rw [grouped, Clause.bindings_join, List.flatMap_map]
      · simp only [Clause.bindings_text, Clause.bindings_append, Clause.bindings_nil,
          List.append_nil]
      · simp

theorem isPlain_connective (op : Connective) :
    isPlainText (" " ++ op.sql ++ " ") = true := by
  cases op <;> decide

theorem legible_grouped (op : Connective) {clauses : List Clause}
    (h : ∀ c ∈ clauses, Clause.Legible c) : (grouped op clauses).Legible := by
  cases clauses with
  | nil => exact Clause.legible_nil.text_cons (by decide)
  | cons c cs =>
      rw [grouped]
      · apply Clause.legible_join (isPlain_connective op)
        · intro rest
          simp [Apart, Identifier.isWordPart]
        · intro d hd
          obtain ⟨e, he, rfl⟩ := List.mem_map.mp hd
          have hclose : Clause.Legible [.text ")"] := Clause.legible_nil.text_cons (by decide)
          refine ((h e he).append hclose ?_).text_cons (by decide)
          simp [Apart, Fragment.chars, Identifier.isWordPart]
      · simp

theorem isPlain_operator (op : Operator) :
    isPlainText (" " ++ op.sql ++ op.before) = true := by
  cases op with
  | compare op => cases op <;> decide
  | nullTest negated => cases negated <;> decide
  | range negated => cases negated <;> decide
  | membership negated => cases negated <;> decide

theorem isPlain_between_after (op : Operator) :
    isPlainText op.between = true ∧ isPlainText op.after = true := by
  have htexts : ∀ s ∈ ["", " AND ", ", ", ")"], isPlainText s = true := by decide
  cases op <;>
    exact ⟨htexts _ (by simp [Operator.between]), htexts _ (by simp [Operator.after])⟩

theorem outline_membership (column : String) (negated : Bool) (values : List Value) (n : Nat) :
    (membership negated values n (.ofName column)).outline =
      (isIn column negated values).outline := by
  rw [membership, outline]
  cases values with
  | nil => exact List.append_nil _
  | cons v values =>
      rw [if_neg (by simp), if_neg (by simp)]
      rw [Clause.outline_append, Clause.outline_append, Clause.outline_join, List.map_map]
      simp only [Function.comp_def, outline_boundFrom]
      simp only [Clause.outline_cons, Clause.outline_nil, List.append_nil]
      rfl

theorem bindings_membership (column : String) (negated : Bool) (values : List Value) (n : Nat) :
    (Clause.bindings (membership negated values n (.ofName column))).map (·.1) =
      numberedFrom n values.length := by
  rw [membership]
  cases values with
  | nil => rfl
  | cons v values =>
      rw [if_neg (by simp), Clause.bindings_append, Clause.bindings_append, Clause.bindings_join,
        List.flatMap_map, Clause.flatMap_bindings, ← bindings_boundFrom]
      simp [Fragment.ofName]

theorem legible_membership (column : String) (negated : Bool) (values : List Value) (n : Nat) :
    Clause.Legible (membership negated values n (.ofName column)) := by
  rw [membership]
  cases values with
  | nil =>
      refine Clause.legible_nil.text_cons ?_
      cases negated <;> decide
  | cons v values =>
      rw [if_neg (by simp), List.append_assoc]
      have hclose : Clause.Legible [.text ")"] := Clause.legible_nil.text_cons (by decide)
      have hjoined : Clause.Legible
          (Clause.join ", " ((boundFrom n (v :: values)).map fun b => [b])) := by
        apply Clause.legible_join (by decide)
        · intro rest
          simp [Apart, Identifier.isWordPart]
        · intro c hc
          obtain ⟨b, hb, rfl⟩ := List.mem_map.mp hc
          exact legible_of_mem_boundFrom hb
      have htail := hjoined.append hclose (by simp [Apart, Fragment.chars, Identifier.isWordPart])
      exact (htail.text_cons (isPlain_operator (.membership negated))).ofName_cons column

/-! ## Clauses of conditions -/

/-- What is known of a clause that a condition becomes when its placeholders are
numbered from `n`. -/
structure Compiled (c : Condition) (n : Nat) (clause : Clause) (next : Nat) : Prop where
  outline : clause.outline = c.outline
  names : clause.bindings.map (·.1) = numberedFrom n c.values.length
  next : next = n + c.values.length
  legible : PlainTexts c.rawTexts → clause.Legible

structure CompiledMembers (cs : List Condition) (n : Nat) (clauses : List Clause) (next : Nat) :
    Prop where
  outline : clauses.map Clause.outline = memberOutlines cs
  names : (clauses.flatMap Clause.bindings).map (·.1) = numberedFrom n (memberValues cs).length
  next : next = n + (memberValues cs).length
  legible : PlainTexts (memberRawTexts cs) → ∀ c ∈ clauses, Clause.Legible c

theorem compiled_compare (column : String) (op : Comparison) (value : Value) (n : Nat) :
    Compiled (.compare column op value) n
      [.ofName column, .text (" " ++ op.sql ++ " "), .bound (numbered n) value] (n + 1) where
  outline := by
    simp [outline, Outline.asked, Operator.sql, Operator.before, Operator.between,
      Operator.after, Fragment.outline, Fragment.ofName]
  names := rfl
  next := rfl
  legible := by
    intro _
    have hbound : Clause.Legible [.bound (numbered n) value] :=
      Clause.legible_nil.bound_cons (isPlaceholderName_numbered n) apart_nil
    exact (hbound.text_cons (isPlain_operator (.compare op))).ofName_cons column

theorem compiled_isNull (column : String) (negated : Bool) (n : Nat) :
    Compiled (.isNull column negated) n
      [.ofName column, .text (" " ++ (Operator.nullTest negated).sql)] n where
  outline := by cases negated <;> rfl
  names := rfl
  next := rfl
  legible := by
    intro _
    refine (Clause.legible_nil.text_cons ?_).ofName_cons column
    cases negated <;> decide

theorem compiled_between (column : String) (negated : Bool) (low high : Value) (n : Nat) :
    Compiled (.between column negated low high) n
      [.ofName column, .text (" " ++ (Operator.range negated).sql ++ " "),
        .bound (numbered n) low, .text " AND ", .bound (numbered (n + 1)) high] (n + 2) where
  outline := by cases negated <;> rfl
  names := rfl
  next := rfl
  legible := by
    intro _
    have hhigh : Clause.Legible [.bound (numbered (n + 1)) high] :=
      Clause.legible_nil.bound_cons (isPlaceholderName_numbered (n + 1)) apart_nil
    have hand : Clause.Legible [.text " AND ", .bound (numbered (n + 1)) high] :=
      hhigh.text_cons (by decide)
    have hlow := hand.bound_cons (v := low) (isPlaceholderName_numbered n)
      (by simp [Apart, Fragment.chars, Identifier.isWordPart])
    exact (hlow.text_cons (isPlain_operator (.range negated))).ofName_cons column

theorem compiled_isIn (column : String) (negated : Bool) (list : List Value) (n : Nat) :
    Compiled (.isIn column negated list) n (membership negated list n (.ofName column))
      (n + list.length) where
  outline := outline_membership column negated list n
  names := bindings_membership column negated list n
  next := rfl
  legible := fun _ => legible_membership column negated list n

theorem aboutColumn_ok {column : String} {n uses next : Nat} {build : Fragment → Clause}
    {clause : Clause} (h : aboutColumn column n uses build = (.ok clause, next)) :
    clause = build (.ofName column) ∧ next = n + uses := by
  rw [aboutColumn, columnFragment] at h
  split at h
  · rename_i name hname
    split at hname
    · contradiction
    · cases hname
      cases h
      exact ⟨rfl, rfl⟩
  · cases h

mutual

theorem compiled_of_whereClause {c : Condition} {n next : Nat} {clause : Clause}
    (h : whereClause c n = (.ok clause, next)) : Compiled c n clause next := by
  cases c with
  | all =>
      rw [whereClause] at h
      cases h
      exact ⟨rfl, rfl, rfl, fun _ => Clause.legible_nil.text_cons (by decide)⟩
  | raw sql =>
      rw [whereClause] at h
      cases h
      refine ⟨List.append_nil _, rfl, rfl, fun hplain => ?_⟩
      exact Clause.legible_nil.text_cons (hplain sql (by simp [rawTexts]))
  | group op members =>
      rw [whereClause] at h
      split at h
      · rename_i clauses _ hmembers
        cases h
        have hcompiled := compiled_of_memberClauses hmembers
        refine ⟨?_, ?_, hcompiled.next, fun hplain => legible_grouped op (hcompiled.legible hplain)⟩
        · rw [outline_grouped, hcompiled.outline, outline]
        · rw [bindings_grouped, hcompiled.names, values]
      · cases h
  | compare column op value =>
      rw [whereClause] at h
      obtain ⟨rfl, rfl⟩ := aboutColumn_ok h
      exact compiled_compare column op value n
  | isNull column negated =>
      rw [whereClause] at h
      obtain ⟨rfl, rfl⟩ := aboutColumn_ok h
      exact compiled_isNull column negated _
  | between column negated low high =>
      rw [whereClause] at h
      obtain ⟨rfl, rfl⟩ := aboutColumn_ok h
      exact compiled_between column negated low high n
  | isIn column negated list =>
      rw [whereClause] at h
      obtain ⟨rfl, rfl⟩ := aboutColumn_ok h
      exact compiled_isIn column negated list n

theorem compiled_of_memberClauses {cs : List Condition} {n next : Nat} {clauses : List Clause}
    (h : memberClauses cs n = (.ok clauses, next)) : CompiledMembers cs n clauses next := by
  cases cs with
  | nil =>
      rw [memberClauses] at h
      cases h
      exact ⟨rfl, rfl, rfl, fun _ c hc => absurd hc List.not_mem_nil⟩
  | cons c cs =>
      rw [memberClauses] at h
      split at h
      · cases h
      · rename_i clause middle hclause
        split at h
        · cases h
        · rename_i clauses _ hclauses
          cases h
          have hfirst := compiled_of_whereClause hclause
          have hrest := compiled_of_memberClauses hclauses
          obtain rfl := hfirst.next
          refine ⟨?_, ?_, ?_, ?_⟩
          · rw [List.map_cons, hfirst.outline, hrest.outline, memberOutlines]
          · rw [List.flatMap_cons, List.map_append, hfirst.names, hrest.names, memberValues,
              List.length_append, numberedFrom_add]
          · rw [hrest.next, memberValues, List.length_append, Nat.add_assoc]
          · intro hplain d hd
            rw [memberRawTexts] at hplain
            rcases List.mem_cons.mp hd with rfl | hd
            · exact hfirst.legible fun s hs => hplain s (List.mem_append_left _ hs)
            · exact hrest.legible (fun s hs => hplain s (List.mem_append_right _ hs)) d hd

end

theorem compiled_of_compileFrom {c : Condition} {n next : Nat} {sql : String} {bindings : Bindings}
    (h : c.compileFrom n = (.ok (sql, bindings), next)) :
    ∃ clause, c.Compiled n clause next ∧ sql = clause.sql ∧
      bindings = Bindings.ofList clause.bindings := by
  rw [compileFrom] at h
  split at h
  · rename_i clause next' hclause
    cases h
    exact ⟨clause, compiled_of_whereClause hclause, rfl, rfl⟩
  · cases h

theorem Compiled.toList_ofList {c : Condition} {n next : Nat} {clause : Clause}
    (h : c.Compiled n clause next) :
    (Bindings.ofList clause.bindings).toList = clause.bindings := by
  apply Bindings.toList_ofList
  rw [h.names]
  exact nodup_numberedFrom n c.values.length

end Condition

end TableGateway
