import TableGateway.Proofs.Sql.Dashes

/-!
# The scan of a text

How a text is read, one lexeme after another.  A quotation or a block comment that is closed
is read alike whatever stands behind it, and the rest of a line up to the break.  A name is
read up to the first character that cannot belong to it.  Every other character is read alone:
a colon without a name, and the mark of a quotation or a comment that nothing closes.
-/

namespace TableGateway.Placeholder

variable {c mark : Char} {cs ds body rest : List Char} {n : Nat}

/-- A length that is found in a text, and found again in all that begin with this much. -/
def Settled (length? : List Char → Option Nat) (cs : List Char) (n : Nat) : Prop :=
  ∃ body rest, cs = body ++ rest ∧ body.length = n ∧ ∀ ds, length? (body ++ ds) = some n

def OpensLine (c : Char) (cs : List Char) : Prop :=
  c = '#' ∨ c = '-' ∧ cs.head? = some '-'

def Breaks (cs : List Char) : Prop :=
  ∀ c ∈ cs.head?, c = '\n'

inductive Scan : List Char → Prop where
  | nil : Scan []
  | closed {c : Char} {body rest : List Char}
      (hread : ∀ ds, lexemes (c :: (body ++ ds)) = .verbatim (c :: body) :: lexemes ds)
      (hrest : Scan rest) : Scan (c :: (body ++ rest))
  | line {c : Char} {body rest : List Char} (hmark : OpensLine c body) (hbody : '\n' ∉ body)
      (hbreaks : Breaks rest) (hrest : Scan rest) : Scan (c :: (body ++ rest))
  | named {name : String} {rest : List Char}
      (hname : Identifier.isPlaceholderName name = true) (hapart : Apart rest)
      (hrest : Scan rest) : Scan (':' :: (name.toList ++ rest))
  | alone {c : Char} {cs : List Char} (hopen : coveredLength? c cs = none)
      (hcolon : c = ':' → nameAt cs = []) (hrest : Scan cs) : Scan (c :: cs)

/-! ## Closed marks -/

/-- A reader that reads `front` whatever stands behind it, but for the first character there,
is settled behind it. -/
theorem Settled.prepend {length? : List Char → Option Nat} (h : Settled length? cs n)
    (hnil : length? [] = none) (front : List Char)
    (hfront : ∀ ds, ds.head? = cs.head? →
      length? (front ++ ds) = (length? ds).map (· + front.length)) :
    Settled length? (front ++ cs) (n + front.length) := by
  obtain ⟨body, rest, rfl, hlength, hbody⟩ := h
  have hhead : ∀ ds, (body ++ ds).head? = (body ++ rest).head? := by
    cases body with
    | nil => simpa [hnil] using hbody []
    | cons c body => simp
  refine ⟨front ++ body, rest, by simp, ?_, fun ds => ?_⟩
  · rw [List.length_append, hlength, Nat.add_comm]
  · rw [List.append_assoc, hfront _ (hhead ds), hbody, Option.map_some]

theorem stringLength?_settled (h : stringLength? mark cs = some n) :
    Settled (stringLength? mark) cs n := by
  fun_induction stringLength? mark cs generalizing n with
  | case1 => contradiction
  | case2 cs =>
      cases h
      exact ⟨[mark], cs, rfl, rfl, stringLength?_quote mark⟩
  | case3 => contradiction
  | case4 c cs hmark ih =>
      obtain ⟨m, hm, rfl⟩ := Option.map_eq_some_iff.mp h
      apply (ih hm).prepend rfl ['\\', c]
      exact fun ds _ => stringLength?_escape (Ne.symm hmark) c ds
  | case5 c cs hmark hescape ih =>
      obtain ⟨m, hm, rfl⟩ := Option.map_eq_some_iff.mp h
      apply (ih hm).prepend rfl [c]
      exact fun ds _ => stringLength?_char hmark hescape ds

theorem nameLength?_settled (h : nameLength? cs = some n) : Settled nameLength? cs n := by
  fun_induction nameLength? cs generalizing n with
  | case1 => contradiction
  | case2 cs =>
      cases h
      exact ⟨[Identifier.quoteMark], cs, rfl, rfl, fun ds => by simp [nameLength?]⟩
  | case3 c cs hc ih =>
      obtain ⟨m, hm, rfl⟩ := Option.map_eq_some_iff.mp h
      apply (ih hm).prepend rfl [c]
      intro ds _
      simp [nameLength?, hc]

theorem commentLength?_settled (h : commentLength? cs = some n) :
    Settled commentLength? cs n := by
  induction cs generalizing n with
  | nil => contradiction
  | cons c cs ih =>
      by_cases hclose : ['*', '/'] <+: c :: cs
      · obtain ⟨rest, hrest⟩ := hclose
        rw [← hrest] at h
        cases h
        exact ⟨['*', '/'], rest, hrest.symm, rfl, fun ds => rfl⟩
      · rw [commentLength?_cons hclose] at h
        obtain ⟨m, hm, rfl⟩ := Option.map_eq_some_iff.mp h
        apply (ih hm).prepend rfl [c]
        intro ds hhead
        apply commentLength?_cons
        -- Whether a comment ends with `c` is told from `c` and the first character behind it.
        rintro ⟨rest, hrest⟩
        obtain ⟨rfl, rfl⟩ := List.cons.inj hrest
        obtain ⟨es, rfl⟩ := List.head?_eq_some_iff.mp hhead.symm
        exact hclose ⟨es, rfl⟩

/-! ## Marks -/

theorem coveredLength?_quote (h : mark = '\x27' ∨ mark = '\x22') (cs : List Char) :
    coveredLength? mark cs = stringLength? mark cs := by
  simp [coveredLength?, h]

theorem coveredLength?_quoteMark (cs : List Char) :
    coveredLength? Identifier.quoteMark cs = nameLength? cs := by
  simp [coveredLength?, Identifier.quoteMark]

theorem coveredLength?_comment (cs : List Char) :
    coveredLength? '/' ('*' :: cs) = (commentLength? cs).map (· + 1) := by
  simp [coveredLength?, Identifier.quoteMark]

theorem coveredLength?_of_opensLine (h : OpensLine c cs) :
    coveredLength? c cs = some (lineLength cs) := by
  rcases h with rfl | ⟨rfl, hnext⟩
  · simp [coveredLength?, Identifier.quoteMark]
  · simp [coveredLength?, Identifier.quoteMark, hnext]

theorem mark_cases (c : Char) (cs : List Char) :
    (c = '\x27' ∨ c = '\x22') ∨ c = Identifier.quoteMark ∨ OpensLine c cs ∨
      (c = '/' ∧ ∃ ds, cs = '*' :: ds) ∨ coveredLength? c cs = none := by
  by_cases hquote : c = '\x27' ∨ c = '\x22'
  · exact .inl hquote
  by_cases hname : c = Identifier.quoteMark
  · exact .inr (.inl hname)
  by_cases hline : OpensLine c cs
  · exact .inr (.inr (.inl hline))
  by_cases hcomment : c = '/' ∧ cs.head? = some '*'
  · have hcs := List.head?_eq_some_iff.mp hcomment.2
    exact .inr (.inr (.inr (.inl ⟨hcomment.1, hcs⟩)))
  · obtain ⟨hhash, hdash⟩ := not_or.mp hline
    right; right; right; right
    simp [coveredLength?, hquote, hname, hhash, hdash, hcomment]

theorem opensLine_or_settled (h : coveredLength? c cs = some n) :
    OpensLine c cs ∨ Settled (coveredLength? c) cs n := by
  rcases mark_cases c cs with hquote | rfl | hline | ⟨rfl, ds, rfl⟩ | hnone
  · have hlength := funext (coveredLength?_quote hquote)
    rw [hlength] at h ⊢
    exact .inr (stringLength?_settled h)
  · have hlength := funext coveredLength?_quoteMark
    rw [hlength] at h ⊢
    exact .inr (nameLength?_settled h)
  · exact .inl hline
  · rw [coveredLength?_comment] at h
    obtain ⟨m, hm, rfl⟩ := Option.map_eq_some_iff.mp h
    obtain ⟨body, rest, rfl, hlength, hbody⟩ := commentLength?_settled hm
    refine .inr ⟨'*' :: body, rest, rfl, by simp [hlength], fun ds => ?_⟩
    rw [List.cons_append, coveredLength?_comment, hbody, Option.map_some]
  · simp [hnone] at h

/-! ## Lines -/

theorem OpensLine.append (h : OpensLine c cs) (ds : List Char) : OpensLine c (cs ++ ds) := by
  unfold OpensLine at *
  rcases h with hhash | ⟨hdash, hnext⟩
  · exact .inl hhash
  · exact .inr ⟨hdash, by simp [hnext]⟩

theorem OpensLine.takeWhile (h : OpensLine c cs) : OpensLine c (cs.takeWhile (· != '\n')) := by
  unfold OpensLine at *
  rcases h with hhash | ⟨hdash, hnext⟩
  · exact .inl hhash
  · obtain ⟨ds, rfl⟩ := List.head?_eq_some_iff.mp hnext
    exact .inr ⟨hdash, rfl⟩

theorem breaks_dropWhile (cs : List Char) : Breaks (cs.dropWhile (· != '\n')) := by
  intro c hc
  have hstop := List.head?_dropWhile_not (· != '\n') cs
  rw [Option.mem_def.mp hc] at hstop
  simpa using hstop

theorem lexemes_line (hmark : OpensLine c body) (hbody : '\n' ∉ body) (hbreaks : Breaks rest) :
    lexemes (c :: (body ++ rest)) = .verbatim (c :: body) :: lexemes rest := by
  have hall : ∀ d ∈ body, (d != '\n') = true := by
    intro d hd
    simpa using fun heq : d = '\n' => hbody (heq ▸ hd)
  have hrest : rest.takeWhile (· != '\n') = [] := by
    cases rest with
    | nil => rfl
    | cons d rest => simp [hbreaks d rfl]
  apply lexemes_covered_append
  rw [coveredLength?_of_opensLine (hmark.append rest), lineLength,
    List.takeWhile_append_of_pos hall, hrest, List.append_nil]

/-! ## Names -/

theorem exists_name_of_nameAt (h : nameAt cs ≠ []) :
    ∃ name rest, cs = String.toList name ++ rest ∧
      Identifier.isPlaceholderName name = true ∧ Apart rest := by
  cases cs with
  | nil => simp [nameAt] at h
  | cons c cs =>
      have hstart : Identifier.isWordStart c = true := by
        by_contra hc
        simp [nameAt, hc] at h
      refine ⟨String.ofList (c :: cs.takeWhile Identifier.isWordPart),
        cs.dropWhile Identifier.isWordPart, by simp, ?_, ?_⟩
      · simp [Identifier.isPlaceholderName, hstart]
      · intro d hd
        have hstop := List.head?_dropWhile_not Identifier.isWordPart cs
        rw [Option.mem_def.mp hd] at hstop
        simpa using hstop

theorem lexemes_alone (hopen : coveredLength? c cs = none) (hcolon : c = ':' → nameAt cs = []) :
    lexemes (c :: cs) = .verbatim [c] :: lexemes cs := by
  have hnamed : ¬(c = ':' && !(nameAt cs).isEmpty) = true := by
    simpa using hcolon
  rw [lexemes_cons, firstLexeme, hopen]
  simp only [if_neg hnamed, List.drop_zero]

/-! ## Every text is scanned -/

theorem Scan.cons (ih : ∀ ds : List Char, ds.length ≤ cs.length → Scan ds) : Scan (c :: cs) := by
  cases hcovered : coveredLength? c cs with
  | some n =>
      rcases opensLine_or_settled hcovered with hline | ⟨body, rest, rfl, hlength, hbody⟩
      · have hbreak : '\n' ∉ cs.takeWhile (· != '\n') := by
          intro hmem
          simpa using List.mem_takeWhile_imp hmem
        have hrest := ih (cs.dropWhile (· != '\n')) (List.dropWhile_suffix _).length_le
        have hscan := Scan.line hline.takeWhile hbreak (breaks_dropWhile cs) hrest
        rwa [List.takeWhile_append_dropWhile] at hscan
      · apply Scan.closed _ (ih rest (by simp))
        intro ds
        apply lexemes_covered_append
        rw [hbody, hlength]
  | none =>
      by_cases hnamed : c = ':' ∧ nameAt cs ≠ []
      · obtain ⟨rfl, hne⟩ := hnamed
        obtain ⟨name, rest, rfl, hname, hapart⟩ := exists_name_of_nameAt hne
        exact .named hname hapart (ih rest (by simp))
      · exact .alone hcovered (by simpa using hnamed) (ih cs le_rfl)

theorem scan (cs : List Char) : Scan cs := by
  induction hlength : cs.length using Nat.strong_induction_on generalizing cs with
  | _ n ih =>
      cases cs with
      | nil => exact .nil
      | cons c cs =>
          apply Scan.cons
          intro ds hds
          apply ih ds.length _ ds rfl
          rw [← hlength, List.length_cons]
          omega

end TableGateway.Placeholder
