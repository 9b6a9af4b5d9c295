import TableGateway.Proofs.Sql.Scan

/-!
# Texts that say the same

A mark that nothing closes stays so in every text that says the same: one in which question
marks stand for names behind colons, and in which plain text is added at the end.  No two
characters that come together there open anything, and nothing is closed that was open.  So
a text with question marks in the place of its placeholders is read as the lexemes that it was
made of, and no name is found in it any more.
-/

namespace TableGateway.Placeholder

variable {c mark : Char} {cs ds name : List Char}

/-- The second text is the first one with question marks in the place of some names behind
colons, perhaps with more plain text at its end. -/
inductive Echo : List Char → List Char → Prop where
  | ended {ds : List Char} (hplain : ∀ c ∈ ds, isPlain c = true) (hapart : Apart ds) : Echo [] ds
  | copied {cs ds : List Char} (c : Char) (h : Echo cs ds) : Echo (c :: cs) (c :: ds)
  | named {name cs ds : List Char} (hname : ∀ c ∈ name, Identifier.isWordPart c = true)
    (h : Echo cs ds) : Echo (':' :: (name ++ cs)) ('?' :: ds)

theorem Echo.append_left (cs : List Char) {ds es : List Char} (h : Echo ds es) :
    Echo (cs ++ ds) (cs ++ es) := by
  induction cs with
  | nil => exact h
  | cons c cs ih => exact .copied c ih

/-! ## Marks that nothing closes -/

theorem stringLength?_of_notMem (h : mark ∉ cs) : stringLength? mark cs = none := by
  fun_induction stringLength? mark cs with
  | case1 => rfl
  | case2 cs => simp at h
  | case3 => rfl
  | case4 c cs hmark ih =>
      simp only [List.mem_cons, not_or] at h
      rw [ih h.2.2, Option.map_none]
  | case5 c cs hmark hescape ih =>
      rw [List.mem_cons, not_or] at h
      rw [ih h.2, Option.map_none]

theorem stringLength?_of_plain (hmark : isPlain mark = false) (h : ∀ c ∈ cs, isPlain c = true) :
    stringLength? mark cs = none := by
  apply stringLength?_of_notMem
  intro hmem
  simp [h mark hmem] at hmark

theorem stringLength?_name_append (hmark : Identifier.isWordPart mark = false)
    (hname : ∀ c ∈ name, Identifier.isWordPart c = true) (cs : List Char) :
    stringLength? mark (name ++ cs) = (stringLength? mark cs).map (· + name.length) := by
  induction name with
  | nil => simp
  | cons c name ih =>
      rw [List.forall_mem_cons] at hname
      have hc : c ≠ mark := by
        rintro rfl
        simp [hname.1] at hmark
      have hescape : c ≠ '\\' := by
        rintro rfl
        exact absurd hname.1 (by decide)
      rw [List.cons_append, stringLength?_char hc hescape, ih hname.2, Option.map_map]
      rfl

theorem nameLength?_eq_none : nameLength? cs = none ↔ Identifier.quoteMark ∉ cs := by
  induction cs with
  | nil => simp [nameLength?]
  | cons c cs ih =>
      by_cases hc : c = Identifier.quoteMark
      · simp [nameLength?, hc]
      · simp [nameLength?, hc, ih, Ne.symm hc]

theorem commentLength?_eq_none : commentLength? cs = none ↔ ¬ ['*', '/'] <:+: cs := by
  induction cs with
  | nil => simp [commentLength?]
  | cons c cs ih =>
      rw [List.infix_cons_iff, not_or]
      by_cases hclose : ['*', '/'] <+: c :: cs
      · obtain ⟨rest, hrest⟩ := hclose
        simp [← hrest, commentLength?]
      · simp [commentLength?_cons hclose, ih, hclose]

namespace Echo

theorem mem_of_mem (h : Echo cs ds) (hc : isPlain c = false) (hmem : c ∈ ds) : c ∈ cs := by
  induction h with
  | ended hplain => simp [hplain c hmem] at hc
  | copied d h ih =>
      rcases List.mem_cons.mp hmem with rfl | hmem
      · exact List.mem_cons_self
      · exact List.mem_cons_of_mem d (ih hmem)
  | named hname h ih =>
      rcases List.mem_cons.mp hmem with rfl | hmem
      · contradiction
      · exact List.mem_cons_of_mem _ (List.mem_append_right _ (ih hmem))

theorem head?_eq (h : Echo cs ds) (hc : isPlain c = false) (hhead : ds.head? = some c) :
    cs.head? = some c := by
  cases h with
  | ended hplain =>
      have hplain := hplain c (List.mem_of_mem_head? hhead)
      simp [hplain] at hc
  | copied d h => exact hhead
  | named hname h =>
      cases hhead
      contradiction

theorem nameAt_eq_nil (h : Echo cs ds) (hname : nameAt cs = []) : nameAt ds = [] := by
  cases h with
  | ended hplain hapart => exact nameAt_of_apart hapart
  | copied c h =>
      by_cases hc : Identifier.isWordStart c = true
      · simp [nameAt, hc] at hname
      · simp [nameAt, hc]
  | named hname h => rfl

theorem stringLength?_eq_none (h : Echo cs ds) (hmark : mark = '\x27' ∨ mark = '\x22')
    (hopen : stringLength? mark cs = none) : stringLength? mark ds = none := by
  have hmarks : isPlain mark = false ∧ Identifier.isWordPart mark = false ∧ ':' ≠ mark := by
    rcases hmark with rfl | rfl <;> decide
  obtain ⟨hplain, hword, hcolon⟩ := hmarks
  -- A backslash takes a colon with it as it takes a question mark, and the name behind the
  -- colon has neither quotes nor backslashes.
  fun_induction stringLength? mark ds generalizing cs with
  | case1 => rfl
  | case2 ds =>
      obtain ⟨cs, rfl⟩ := List.head?_eq_some_iff.mp (h.head?_eq hplain rfl)
      simp [stringLength?_quote] at hopen
  | case3 => rfl
  | case4 c ds hescape ih =>
      rw [Option.map_eq_none_iff]
      cases h with
      | ended hds => exact stringLength?_of_plain hplain fun d hd => hds d (by simp [hd])
      | copied _ h =>
          cases h with
          | ended hds => exact stringLength?_of_plain hplain fun d hd => hds d (by simp [hd])
          | copied _ h =>
              rw [stringLength?_escape (Ne.symm hescape), Option.map_eq_none_iff] at hopen
              exact ih h hopen
          | named hname h =>
              rw [stringLength?_escape (Ne.symm hescape), Option.map_eq_none_iff,
                stringLength?_name_append hword hname, Option.map_eq_none_iff] at hopen
              exact ih h hopen
  | case5 c ds hne hescape ih =>
      rw [Option.map_eq_none_iff]
      cases h with
      | ended hds => exact stringLength?_of_plain hplain fun d hd => hds d (by simp [hd])
      | copied _ h =>
          rw [stringLength?_char hne hescape, Option.map_eq_none_iff] at hopen
          exact ih h hopen
      | named hname h =>
          rw [stringLength?_char hcolon (by decide), Option.map_eq_none_iff,
            stringLength?_name_append hword hname, Option.map_eq_none_iff] at hopen
          exact ih h hopen

theorem closes (h : Echo cs ds) (hclose : ['*', '/'] <:+: ds) : ['*', '/'] <:+: cs := by
  induction h with
  | ended hplain =>
      have hslash := hplain '/' (hclose.mem (by simp))
      contradiction
  | copied c h ih =>
      rcases List.infix_cons_iff.mp hclose with hprefix | hinfix
      · obtain ⟨es, hes⟩ := hprefix
        obtain ⟨rfl, rfl⟩ := List.cons.inj hes
        obtain ⟨rest, rfl⟩ := List.head?_eq_some_iff.mp (h.head?_eq (by decide) rfl)
        exact ⟨[], rest, rfl⟩
      · exact List.infix_cons (ih hinfix)
  | named hname h ih =>
      rcases List.infix_cons_iff.mp hclose with hprefix | hinfix
      · simp at hprefix
      · exact List.infix_cons ((ih hinfix).trans (List.suffix_append _ _).isInfix)

theorem coveredLength?_eq_none (h : Echo cs ds) (hopen : coveredLength? c cs = none) :
    coveredLength? c ds = none := by
  rcases mark_cases c ds with hquote | rfl | hline | ⟨rfl, es, rfl⟩ | hnone
  · rw [coveredLength?_quote hquote] at hopen ⊢
    exact h.stringLength?_eq_none hquote hopen
  · rw [coveredLength?_quoteMark, nameLength?_eq_none] at hopen ⊢
    exact fun hmem => hopen (h.mem_of_mem (by decide) hmem)
  · exfalso
    have hline' : OpensLine c cs := hline.imp_right fun hdash =>
      ⟨hdash.1, h.head?_eq (by decide) hdash.2⟩
    simp [coveredLength?_of_opensLine hline'] at hopen
  · rw [coveredLength?_comment, Option.map_eq_none_iff, commentLength?_eq_none]
    intro hclose
    cases h with
    | ended hplain =>
        have hslash := hplain '/' (List.mem_cons_of_mem _ (hclose.mem (by simp)))
        contradiction
    | copied _ h =>
        rw [coveredLength?_comment, Option.map_eq_none_iff, commentLength?_eq_none] at hopen
        exact hopen (h.closes hclose)
  · exact hnone

end Echo

/-! ## Question marks in the place of names -/

theorem breaks_positional (h : Breaks cs) : Breaks ((lexemes cs).flatMap Lexeme.positional) := by
  cases cs with
  | nil => rw [lexemes]; exact h
  | cons c cs =>
      have hc : c = '\n' := h c rfl
      subst hc
      rw [lexemes_plain_cons (by decide)]
      exact h

theorem isWordPart_of_mem_name {name : String} (h : Identifier.isPlaceholderName name = true) :
    ∀ c ∈ name.toList, Identifier.isWordPart c = true := by
  unfold Identifier.isPlaceholderName at h
  cases hname : name.toList with
  | nil => simp
  | cons c cs =>
      rw [hname] at h
      simp only [Bool.and_eq_true, List.all_eq_true] at h
      have hc : Identifier.isWordPart c = true := by
        have hstart := h.1
        simp only [Identifier.isWordStart, Bool.or_eq_true] at hstart
        simp only [Identifier.isWordPart, Char.isAlphanum, Bool.or_eq_true]
        tauto
      exact List.forall_mem_cons.mpr ⟨hc, h.2⟩

theorem echo_positional (cs : List Char) :
    Echo cs ((lexemes cs).flatMap Lexeme.positional) := by
  induction scan cs with
  | nil =>
      rw [lexemes]
      exact .ended (by simp) apart_nil
  | @closed c body rest hread hrest ih =>
      rw [hread, List.flatMap_cons]
      exact ih.append_left (c :: body)
  | @line c body rest hmark hbody hbreaks hrest ih =>
      rw [lexemes_line hmark hbody hbreaks, List.flatMap_cons]
      exact ih.append_left (c :: body)
  | @named name rest hname hapart hrest ih =>
      rw [lexemes_named_append hname hapart, List.flatMap_cons]
      exact .named (isWordPart_of_mem_name hname) ih
  | @alone c cs hopen hcolon hrest ih =>
      rw [lexemes_alone hopen hcolon, List.flatMap_cons]
      exact .copied c ih

/-- With question marks in the place of its placeholders, a text is read as the lexemes that
it was made of. -/
theorem lexemes_positional (cs : List Char) :
    lexemes ((lexemes cs).flatMap Lexeme.positional) =
      (lexemes cs).map fun l => .verbatim l.positional := by
  induction scan cs with
  | nil => simp [lexemes]
  | @closed c body rest hread hrest ih =>
      rw [hread, List.flatMap_cons, List.map_cons, ← ih]
      exact hread _
  | @line c body rest hmark hbody hbreaks hrest ih =>
      rw [lexemes_line hmark hbody hbreaks, List.flatMap_cons, List.map_cons, ← ih]
      exact lexemes_line hmark hbody (breaks_positional hbreaks)
  | @named name rest hname hapart hrest ih =>
      rw [lexemes_named_append hname hapart, List.flatMap_cons, List.map_cons, ← ih]
      exact lexemes_plain_cons (by decide) _
  | @alone c cs hopen hcolon hrest ih =>
      have hecho := echo_positional cs
      rw [lexemes_alone hopen hcolon, List.flatMap_cons, List.map_cons, ← ih]
      exact lexemes_alone (hecho.coveredLength?_eq_none hopen) fun hc =>
        hecho.nameAt_eq_nil (hcolon hc)

/-! ## Plain text at the end -/

section

variable {tail : List Char}

theorem names_of_plain (h : ∀ c ∈ tail, isPlain c = true) :
    (lexemes tail).filterMap Lexeme.name? = [] := by
  have hread := lexemes_plain_append h []
  rw [List.append_nil] at hread
  simp [hread, lexemes, Lexeme.name?]

theorem names_line_append {c : Char} {body rest : List Char} (hmark : OpensLine c body)
    (hbody : '\n' ∉ body) (hbreaks : Breaks rest) (htail : ∀ c ∈ tail, isPlain c = true) :
    (lexemes (c :: (body ++ rest) ++ tail)).filterMap Lexeme.name? =
      (lexemes (rest ++ tail)).filterMap Lexeme.name? := by
  cases rest with
  | nil =>
      -- The line goes on with the tail, up to the first break in it.
      have hline : '\n' ∉ body ++ tail.takeWhile (· != '\n') := by
        intro hmem
        rcases List.mem_append.mp hmem with hmem | hmem
        · exact hbody hmem
        · simpa using List.mem_takeWhile_imp hmem
      have hread := lexemes_line (hmark.append _) hline (breaks_dropWhile tail)
      rw [List.append_assoc, List.takeWhile_append_dropWhile] at hread
      rw [List.append_nil, List.cons_append, hread, List.nil_append, names_of_plain htail]
      exact names_of_plain fun c hc => htail c ((List.dropWhile_sublist _).mem hc)
  | cons d rest =>
      have hread : lexemes (c :: (body ++ (d :: rest ++ tail))) =
          .verbatim (c :: body) :: lexemes (d :: rest ++ tail) :=
        lexemes_line hmark hbody hbreaks
      rw [List.cons_append, List.append_assoc, hread]
      rfl

theorem names_append_plain (htail : ∀ c ∈ tail, isPlain c = true) (hapart : Apart tail)
    (cs : List Char) :
    (lexemes (cs ++ tail)).filterMap Lexeme.name? = (lexemes cs).filterMap Lexeme.name? := by
  induction scan cs with
  | nil => simpa [lexemes] using names_of_plain htail
  | @closed c body rest hread hrest ih =>
      rw [List.cons_append, List.append_assoc, hread, hread]
      exact ih
  | @line c body rest hmark hbody hbreaks hrest ih =>
      rw [names_line_append hmark hbody hbreaks htail, lexemes_line hmark hbody hbreaks]
      exact ih
  | @named name rest hname hrestApart hrest ih =>
      rw [List.cons_append, List.append_assoc, lexemes_named_append hname hrestApart,
        lexemes_named_append hname (hrestApart.append hapart)]
      exact congrArg (_ :: ·) ih
  | @alone c cs hopen hcolon hrest ih =>
      have hecho : Echo cs (cs ++ tail) := by
        simpa using Echo.append_left cs (.ended htail hapart)
      have hopen' := hecho.coveredLength?_eq_none hopen
      rw [List.cons_append, lexemes_alone hopen hcolon,
        lexemes_alone hopen' fun hc => hecho.nameAt_eq_nil (hcolon hc)]
      exact ih

end

end TableGateway.Placeholder
