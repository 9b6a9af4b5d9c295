import Mathlib.Data.List.DropRight
import TableGateway.Proofs.Digest.Signature
import TableGateway.Proofs.Statement.Binding

/-!
# The verbs of built statements

A text keeps its leading word when the blanks around it are dropped, because no letter is a
blank.  Every builder writes its verb first, so the kind of a statement is known from the
request alone, whatever stands in the table name, the columns and the condition.
-/

namespace TableGateway

namespace Text

variable {cs : List Char}

theorem isBlank_of_isAlpha {c : Char} (h : c.isAlpha = true) : isBlank c = false := by
  have hletter : (65 ≤ c.toNat ∧ c.toNat ≤ 90) ∨ (97 ≤ c.toNat ∧ c.toNat ≤ 122) := by
    rcases Bool.or_eq_true_iff.mp h with hupper | hlower
    · exact .inl (of_decide_eq_true hupper)
    · obtain ⟨hle, hge⟩ := Bool.and_eq_true_iff.mp hlower
      exact .inr ⟨of_decide_eq_true hle, of_decide_eq_true hge⟩
  simp only [isBlank, Bool.or_eq_false_iff, Bool.and_eq_false_iff, decide_eq_false_iff_not,
    beq_eq_false_iff_ne]
  omega

theorem takeWhile_isAlpha_blanks (h : ∀ c ∈ cs, isBlank c = true) :
    cs.takeWhile Char.isAlpha = [] := by
  cases cs with
  | nil => rfl
  | cons c cs =>
      apply List.takeWhile_cons_of_neg
      intro halpha
      have hblank := h c List.mem_cons_self
      rw [isBlank_of_isAlpha halpha] at hblank
      contradiction

theorem takeWhile_isAlpha_trimEnd (cs : List Char) :
    (trimEnd cs).takeWhile Char.isAlpha = cs.takeWhile Char.isAlpha := by
  have hsplit : trimEnd cs ++ cs.rtakeWhile isBlank = cs := List.rdropWhile_append_rtakeWhile
  have hblanks : (cs.rtakeWhile isBlank).takeWhile Char.isAlpha = [] :=
    takeWhile_isAlpha_blanks fun c hc => List.mem_rtakeWhile_imp hc
  conv_rhs => rw [← hsplit, List.takeWhile_append, hblanks, List.append_nil]
  split
  · next hall => exact (List.takeWhile_prefix Char.isAlpha).eq_of_length hall
  · rfl

end Text

namespace Verb

theorem leadingWord_trimmed (sql : String) : leadingWord (Text.trimmed sql) = leadingWord sql := by
  rw [leadingWord, leadingWord, Text.trimmed, String.toList_ofList, Text.trimStart_trim, Text.trim,
    Text.takeWhile_isAlpha_trimEnd]

@[simp] theorem classify_trimmed (sql : String) : classify (Text.trimmed sql) = classify sql := by
  rw [classify, classify, leadingWord_trimmed]

theorem leadingWord_append {cs : List Char}
    (h : (Text.trimStart cs).dropWhile Char.isAlpha ≠ []) (rest : List Char) :
    leadingWord (String.ofList (cs ++ rest)) = leadingWord (String.ofList cs) := by
  have hstart : Text.trimStart cs ≠ [] := by
    intro hnil
    rw [hnil] at h
    contradiction
  have hlength : ((Text.trimStart cs).takeWhile Char.isAlpha).length ≠
      (Text.trimStart cs).length := by
    intro hall
    have hword := (List.takeWhile_prefix Char.isAlpha).eq_of_length hall
    exact h (List.dropWhile_eq_nil_iff.mpr (List.takeWhile_eq_self_iff.mp hword))
  have hblanks : Text.trimStart (cs ++ rest) = Text.trimStart cs ++ rest := by
    rw [Text.trimStart, List.dropWhile_append, if_neg]
    · rfl
    · exact fun hempty => hstart (List.isEmpty_iff.mp hempty)
  rw [leadingWord, leadingWord, String.toList_ofList, String.toList_ofList, hblanks,
    List.takeWhile_append, if_neg hlength]

end Verb

theorem Clause.classify_opening {opening : String} {rest : Clause}
    (h : (Text.trimStart opening.toList).dropWhile Char.isAlpha ≠ []) :
    Verb.classify (Clause.sql (.text opening :: rest)) = Verb.classify opening := by
  rw [Clause.sql, Clause.chars_cons, Fragment.chars, Verb.classify, Verb.leadingWord_append h,
    String.ofList_toList, Verb.classify]

namespace Request

def verb : Request → Verb
  | .select .. => .query
  | .insert .. => .insert
  | .update .. => .modify
  | .delete .. => .modify

theorem classify_statement {r : Request} {st : Statement} (h : r.statement = .ok st) :
    Verb.classify st.sql = r.verb := by
  obtain ⟨clause, hclause, rfl⟩ := exists_clause h
  cases r with
  | select table condition order limit offset =>
      obtain ⟨restriction, -, rfl⟩ := Statement.selectClause_eq_ok hclause
      exact (Clause.classify_opening (by decide)).trans rfl
  | insert table values mode =>
      obtain ⟨-, rfl⟩ := Statement.insertClause_eq_ok_iff.mp hclause
      refine (Clause.classify_opening ?_).trans ?_
      · cases mode <;> decide
      · cases mode <;> rfl
  | update table values condition limit =>
      obtain ⟨-, restriction, -, rfl⟩ := Statement.updateClause_eq_ok_iff.mp hclause
      exact (Clause.classify_opening (by decide)).trans rfl
  | delete table condition limit =>
      obtain ⟨restriction, -, rfl⟩ := Statement.deleteClause_eq_ok hclause
      exact (Clause.classify_opening (by decide)).trans rfl

end Request

end TableGateway
