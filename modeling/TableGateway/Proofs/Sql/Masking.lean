import TableGateway.Proofs.Sql.Lexing

/-!
# Masked outlines

A token in the place of every quoted name masks a text.  Where backticks stand around
names only, the masked text of an outline is found piece by piece, and neither a name
nor a value is left in it.
-/

namespace TableGateway

open Placeholder

/-! ## Masked texts -/

/-- A text with a token in the place of every part that stands between backticks. -/
def mask (token : List Char) : List Char → List Char
  | [] => []
  | c :: cs =>
    if c = Identifier.quoteMark then
      match nameLength? cs with
      | some n => token ++ mask token (cs.drop n)
      | none => c :: mask token cs
    else c :: mask token cs
  termination_by cs => cs.length
  decreasing_by all_goals simp only [List.length_drop, List.length_cons]; omega

theorem mask_cons_of_ne {c : Char} (h : c ≠ Identifier.quoteMark) (token cs : List Char) :
    mask token (c :: cs) = c :: mask token cs := by
  rw [mask, if_neg h]

theorem mask_quoted_append {s : List Char} (h : Identifier.quoteMark ∉ s)
    (token cs : List Char) :
    mask token (Identifier.quoteMark :: (s ++ Identifier.quoteMark :: cs)) =
      token ++ mask token cs := by
  have hsplit : s ++ Identifier.quoteMark :: cs = (s ++ [Identifier.quoteMark]) ++ cs := by simp
  have hlength : s.length + 1 = (s ++ [Identifier.quoteMark]).length := by simp
  rw [mask, if_pos rfl, nameLength?_append h]
  simp only
  rw [hsplit, hlength, List.drop_left]

namespace Piece

/-- Whether a backtick in the text of a piece can only be one that quotes its name. -/
def Clean : Piece → Prop
  | .char c => c ≠ Identifier.quoteMark
  | .name cleaned => Identifier.quoteMark ∉ cleaned.toList
  | .slot _ => True

def masked (token : List Char) : Piece → List Char
  | .char c => [c]
  | .name _ => token
  | .slot _ => ['?']

end Piece

namespace Outline

def Clean (o : Outline) : Prop :=
  ∀ p ∈ o, p.Clean

def masked (token : List Char) (o : Outline) : List Char :=
  o.flatMap (Piece.masked token)

theorem mask_chars {o : Outline} (h : o.Clean) (token : List Char) :
    mask token o.chars = o.masked token := by
  induction o with
  | nil => rw [chars, List.flatMap_nil, mask]; rfl
  | cons p o ih =>
      have hrest := ih fun q hq => h q (List.mem_cons_of_mem p hq)
      have hp := h p List.mem_cons_self
      cases p with
      | char c =>
          have hchars : chars (.char c :: o) = c :: chars o := rfl
          rw [hchars, mask_cons_of_ne hp, hrest]
          rfl
      | name cleaned =>
          have hchars : chars (.name cleaned :: o) = Identifier.quoteMark ::
              (cleaned.toList ++ Identifier.quoteMark :: chars o) := by
            simp [chars, Piece.chars, Fragment.chars]
          rw [hchars, mask_quoted_append hp, hrest]
          rfl
      | slot v =>
          have hchars : chars (.slot v :: o) = '?' :: chars o := rfl
          rw [hchars, mask_cons_of_ne (by decide), hrest]
          rfl

@[simp] theorem masked_nil (token : List Char) : masked token [] = [] := rfl

@[simp] theorem masked_append (token : List Char) (o p : Outline) :
    masked token (o ++ p) = masked token o ++ masked token p :=
  List.flatMap_append

@[simp] theorem masked_name (token : List Char) (s : String) (o : Outline) :
    masked token (.name s :: o) = token ++ masked token o := rfl

@[simp] theorem masked_slot (token : List Char) (v : Value) (o : Outline) :
    masked token (.slot v :: o) = '?' :: masked token o := rfl

@[simp] theorem masked_text (token : List Char) (s : String) :
    masked token (text s) = s.toList := by
  simp [masked, text, Piece.masked, List.flatMap_map]

theorem masked_join (token : List Char) (separator : String) (os : List Outline) :
    masked token (join separator os) = separator.toList.intercalate (os.map (masked token)) := by
  rw [masked, join, flatMap_intercalate, ← masked, masked_text]
  rfl

theorem masked_join_const {α : Type} (token : List Char) (separator : String) (l : List α)
    (spell : α → Outline) (part : List Char) (h : ∀ a, masked token (spell a) = part) :
    masked token (join separator (l.map spell)) =
      separator.toList.intercalate (List.replicate l.length part) := by
  rw [masked_join, List.map_map]
  congr 1
  induction l with
  | nil => rfl
  | cons a l ih =>
      rw [List.map_cons, ih, List.length_cons, List.replicate_succ, Function.comp_apply, h]

end Outline

/-! ## Backticks quote names only -/

namespace Outline

theorem Clean.append {o p : Outline} (ho : Clean o) (hp : Clean p) : Clean (o ++ p) := by
  intro q hq
  rcases List.mem_append.mp hq with hq | hq
  · exact ho q hq
  · exact hp q hq

theorem clean_text {s : String} (h : isPlainText s = true) : Clean (text s) := by
  intro p hp
  obtain ⟨c, hc, rfl⟩ := List.mem_map.mp hp
  have hplain := List.all_eq_true.mp h c hc
  rintro rfl
  exact absurd hplain (by decide)

theorem clean_name {cleaned : String} (h : Identifier.quoteMark ∉ cleaned.toList) :
    Clean [.name cleaned] := by
  intro p hp
  rw [List.mem_singleton.mp hp]
  exact h

theorem clean_slot (v : Value) : Clean [.slot v] := by
  intro p hp
  rw [List.mem_singleton.mp hp]
  trivial

theorem clean_join {separator : String} (hseparator : isPlainText separator = true)
    {os : List Outline} (h : ∀ o ∈ os, Clean o) : Clean (join separator os) := by
  cases os with
  | nil => simp [Clean]
  | cons o os =>
      rw [join, intercalate_cons]
      refine (h o List.mem_cons_self).append ?_
      intro p hp
      obtain ⟨q, hq, hp⟩ := List.mem_flatMap.mp hp
      exact (clean_text hseparator).append (h q (List.mem_cons_of_mem o hq)) p hp

end Outline

end TableGateway
