import TableGateway.Proofs.Identifier.Cleaning
import TableGateway.Proofs.Sql.Outline
import TableGateway.Sql.Placeholder

/-!
# Lexemes of clauses

A text without quotes, comments and colons is read character by character; a name
between backticks is one lexeme whatever it holds; and a placeholder ends where no
letter, digit or underscore follows.  A clause made of such parts is read back as its
fragments, so that putting question marks into its text gives its outline.
-/

namespace TableGateway.Placeholder

def isPlain (c : Char) : Bool :=
  !(['\x27', '\x22', Identifier.quoteMark, ':', '#', '-', '/'].contains c)

def isPlainText (s : String) : Bool :=
  s.toList.all isPlain

/-- Whether a text cannot go on with a name that ends right before it. -/
def Apart (cs : List Char) : Prop :=
  ∀ c ∈ cs.head?, Identifier.isWordPart c = false

theorem apart_nil : Apart [] := by
  simp [Apart]

theorem Apart.append {cs ds : List Char} (hcs : Apart cs) (hds : Apart ds) : Apart (cs ++ ds) := by
  cases cs with
  | nil => exact hds
  | cons c cs => exact hcs

/-! ## The head of a text -/

theorem lexemes_cons (c : Char) (cs : List Char) :
    lexemes (c :: cs) = (firstLexeme c cs).1 :: lexemes (cs.drop (firstLexeme c cs).2) := by
  rw [lexemes]

theorem lexemes_plain_cons {c : Char} (h : isPlain c = true) (cs : List Char) :
    lexemes (c :: cs) = .verbatim [c] :: lexemes cs := by
  have hcovered : coveredLength? c cs = none := by
    simp [isPlain] at h
    simp [coveredLength?, h]
  have hcolon : c ≠ ':' := by
    rintro rfl
    exact absurd h (by decide)
  rw [lexemes_cons, firstLexeme, hcovered]
  simp [hcolon]

theorem lexemes_plain_append {s : List Char} (h : ∀ c ∈ s, isPlain c = true) (cs : List Char) :
    lexemes (s ++ cs) = s.map (fun c => .verbatim [c]) ++ lexemes cs := by
  induction s with
  | nil => rfl
  | cons c s ih =>
      rw [List.cons_append, lexemes_plain_cons (h c (by simp)),
        ih fun d hd => h d (List.mem_cons_of_mem c hd)]
      rfl

theorem lexemes_covered_append {c : Char} {s cs : List Char}
    (h : coveredLength? c (s ++ cs) = some s.length) :
    lexemes (c :: (s ++ cs)) = .verbatim (c :: s) :: lexemes cs := by
  rw [lexemes_cons, firstLexeme, h]
  simp only [List.take_left, List.drop_left]

theorem nameLength?_append {s : List Char} (h : Identifier.quoteMark ∉ s) (cs : List Char) :
    nameLength? (s ++ Identifier.quoteMark :: cs) = some (s.length + 1) := by
  induction s with
  | nil => rfl
  | cons c s ih =>
      rw [List.mem_cons, not_or] at h
      have hc : c ≠ Identifier.quoteMark := fun heq => h.1 heq.symm
      simp [nameLength?, hc, ih h.2]

theorem lexemes_quoted_append {s : List Char} (h : Identifier.quoteMark ∉ s) (cs : List Char) :
    lexemes (Identifier.quoteMark :: (s ++ Identifier.quoteMark :: cs)) =
      .verbatim (Identifier.quoteMark :: (s ++ [Identifier.quoteMark])) :: lexemes cs := by
  have hcovered : coveredLength? Identifier.quoteMark (s ++ [Identifier.quoteMark] ++ cs) =
      some (s ++ [Identifier.quoteMark]).length := by
    rw [List.append_assoc, List.singleton_append, List.length_append, List.length_singleton]
    exact nameLength?_append h cs
  simpa using lexemes_covered_append hcovered

theorem takeWhile_append_of_apart (cs : List Char) {rest : List Char} (h : Apart rest) :
    (cs ++ rest).takeWhile Identifier.isWordPart = cs.takeWhile Identifier.isWordPart := by
  have hrest : rest.takeWhile Identifier.isWordPart = [] := by
    cases rest with
    | nil => rfl
    | cons c rest =>
        have hc : Identifier.isWordPart c = false := h c rfl
        simp [hc]
  rw [List.takeWhile_append, hrest, List.append_nil]
  split
  · rename_i hlength
    exact ((List.takeWhile_prefix _).eq_of_length hlength).symm
  · rfl

theorem nameAt_append {name : String} {cs : List Char}
    (hname : Identifier.isPlaceholderName name = true) (hcs : Apart cs) :
    nameAt (name.toList ++ cs) = name.toList := by
  rw [Identifier.isPlaceholderName] at hname
  cases hchars : name.toList with
  | nil => simp [hchars] at hname
  | cons c rest =>
      rw [hchars] at hname
      simp only [Bool.and_eq_true] at hname
      have hwhole := List.takeWhile_eq_self_iff.mpr (List.all_eq_true.mp hname.2)
      rw [List.cons_append, nameAt, if_pos hname.1, takeWhile_append_of_apart rest hcs, hwhole]

theorem toList_ne_nil_of_isPlaceholderName {name : String}
    (h : Identifier.isPlaceholderName name = true) : name.toList ≠ [] := by
  intro hnil
  simp [Identifier.isPlaceholderName, hnil] at h

theorem lexemes_named_append {name : String} {cs : List Char}
    (hname : Identifier.isPlaceholderName name = true) (hcs : Apart cs) :
    lexemes (':' :: (name.toList ++ cs)) = .named name.toList :: lexemes cs := by
  have hcovered : coveredLength? ':' (name.toList ++ cs) = none := by
    simp [coveredLength?, Identifier.quoteMark]
  have hne := toList_ne_nil_of_isPlaceholderName hname
  rw [lexemes_cons, firstLexeme, hcovered]
  simp [nameAt_append hname hcs, hne]

end TableGateway.Placeholder

namespace TableGateway

def Fragment.lexemes : Fragment → List Placeholder.Lexeme
  | .text s => s.toList.map fun c => .verbatim [c]
  | .name cleaned => [.verbatim (Fragment.name cleaned).chars]
  | .bound placeholder _ => [.named placeholder.toList]

namespace Clause

open Placeholder

/-! ## Legible clauses -/

def lexemes (c : Clause) : List Lexeme :=
  c.flatMap Fragment.lexemes

@[simp] theorem lexemes_cons (f : Fragment) (c : Clause) :
    lexemes (f :: c) = f.lexemes ++ lexemes c := rfl

@[simp] theorem lexemes_append (c d : Clause) : lexemes (c ++ d) = lexemes c ++ lexemes d :=
  List.flatMap_append

/-- Whether the text of a clause is read as its fragments, whatever comes behind it
that does not go on with its last word. -/
def Legible (c : Clause) : Prop :=
  ∀ rest, Apart rest →
    Placeholder.lexemes (c.chars ++ rest) = c.lexemes ++ Placeholder.lexemes rest

theorem legible_nil : Legible [] := by
  intro rest _
  rfl

theorem Legible.append {c d : Clause} (hc : Legible c) (hd : Legible d) (hapart : Apart d.chars) :
    Legible (c ++ d) := by
  intro rest hrest
  rw [chars_append, List.append_assoc, hc _ (hapart.append hrest), hd rest hrest,
    lexemes_append, List.append_assoc]

theorem Legible.text_cons {s : String} {c : Clause} (hs : isPlainText s = true)
    (hc : Legible c) : Legible (.text s :: c) := by
  intro rest hrest
  rw [chars_cons, Fragment.chars, List.append_assoc, lexemes_plain_append (List.all_eq_true.mp hs),
    hc rest hrest,
    lexemes_cons, List.append_assoc]
  rfl

theorem Legible.name_cons {cleaned : String} {c : Clause}
    (hcleaned : Identifier.quoteMark ∉ cleaned.toList) (hc : Legible c) :
    Legible (.name cleaned :: c) := by
  intro rest hrest
  have htext : chars (.name cleaned :: c) ++ rest = Identifier.quoteMark ::
      (cleaned.toList ++ Identifier.quoteMark :: (c.chars ++ rest)) := by
    simp [Fragment.chars]
  rw [htext, lexemes_quoted_append hcleaned, hc rest hrest]
  rfl

theorem Legible.ofName_cons {c : Clause} (hc : Legible c) (name : String) :
    Legible (.ofName name :: c) :=
  hc.name_cons (Identifier.quoteMark_notMem_clean name)

theorem Legible.bound_cons {placeholder : String} {v : Value} {c : Clause}
    (hplaceholder : Identifier.isPlaceholderName placeholder = true) (hc : Legible c)
    (hapart : Apart c.chars) : Legible (.bound placeholder v :: c) := by
  intro rest hrest
  have htext : chars (.bound placeholder v :: c) ++ rest =
      ':' :: (placeholder.toList ++ (c.chars ++ rest)) := by
    simp [Fragment.chars]
  rw [htext, lexemes_named_append hplaceholder (hapart.append hrest), hc rest hrest]
  rfl

theorem legible_join {separator : String} (hplain : isPlainText separator = true)
    (hapart : ∀ cs, Apart (separator.toList ++ cs)) {cs : List Clause}
    (hcs : ∀ c ∈ cs, Legible c) : Legible (join separator cs) := by
  -- Every clause but the first has the separator before it, so its text is apart.
  have htail : ∀ ds : List Clause, (∀ d ∈ ds, Legible d) →
      Legible (ds.flatMap fun d => [.text separator] ++ d) ∧
        Apart (chars (ds.flatMap fun d => [.text separator] ++ d)) := by
    intro ds hds
    induction ds with
    | nil => exact ⟨legible_nil, apart_nil⟩
    | cons d ds ih =>
        obtain ⟨hlegible, htext⟩ := ih fun e he => hds e (List.mem_cons_of_mem d he)
        rw [List.flatMap_cons, List.append_assoc]
        refine ⟨((hds d (by simp)).append hlegible htext).text_cons hplain, ?_⟩
        exact hapart _
  cases cs with
  | nil => exact legible_nil
  | cons c cs =>
      obtain ⟨hlegible, htext⟩ := htail cs fun d hd => hcs d (List.mem_cons_of_mem c hd)
      rw [join, intercalate_cons]
      exact (hcs c (by simp)).append hlegible htext

theorem Legible.lexemes_chars {c : Clause} (h : Legible c) :
    Placeholder.lexemes c.chars = c.lexemes := by
  have hread := h [] apart_nil
  have hnil : Placeholder.lexemes [] = [] := by rw [Placeholder.lexemes]
  rwa [hnil, List.append_nil, List.append_nil] at hread

theorem positional_lexemes (c : Clause) :
    c.lexemes.flatMap Lexeme.positional = c.outline.chars := by
  rw [lexemes, outline, Outline.chars, List.flatMap_assoc, List.flatMap_assoc]
  congr 1
  funext f
  cases f with
  | text s =>
      simp [Fragment.lexemes, Fragment.outline, Outline.text, List.flatMap_map,
        Lexeme.positional, Piece.chars]
  | name cleaned => simp [Fragment.lexemes, Fragment.outline, Lexeme.positional, Piece.chars]
  | bound placeholder v => rfl

theorem names_lexemes (c : Clause) :
    c.lexemes.filterMap Lexeme.name? = c.bindings.map (·.1) := by
  induction c with
  | nil => rfl
  | cons f c ih =>
      rw [lexemes_cons, List.filterMap_append]
      cases f with
      | text s =>
          have hnone : (Fragment.text s).lexemes.filterMap Lexeme.name? = [] := by
            simp [Fragment.lexemes, Lexeme.name?]
          rw [hnone]
          exact ih
      | name cleaned => exact ih
      | bound placeholder v =>
          have hname : (Fragment.bound placeholder v).lexemes.filterMap Lexeme.name? =
              [placeholder] := by
            simp [Fragment.lexemes, Lexeme.name?]
          rw [hname]
          exact congrArg (placeholder :: ·) ih

theorem Legible.ofSql {c : Clause} (h : Legible c) :
    Positional.ofSql c.sql = ⟨String.ofList c.outline.chars, c.bindings.map (·.1)⟩ := by
  rw [Positional.ofSql, sql, String.toList_ofList, h.lexemes_chars]
  simp only [positional_lexemes, names_lexemes]

end Clause

end TableGateway
