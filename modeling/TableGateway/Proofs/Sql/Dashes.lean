import TableGateway.Proofs.Sql.Items

/-!
# Two dashes

The scan takes two dashes for the beginning of a comment, whatever follows them.  The server
does so only before a blank, a control character or the end of the text; before anything else
it subtracts a negated number.  So the placeholders in the rest of the line are passed over.
Those on later lines are found, and nothing is lost exactly if the rest of the line has none.
-/

namespace TableGateway.Placeholder

/-- Whether a server reads two dashes before a text as the beginning of a comment. -/
def opensComment (s : String) : Bool :=
  match s.toList with
  | [] => true
  | c :: _ => Text.isBlank c || c.toNat < 0x20 || (0x7f ≤ c.toNat && c.toNat ≤ 0x9f)

/-- Texts in which nothing is covered: they have no quotes, no dashes and no marks of
comments. -/
def IsOpen (cs : List Char) : Prop :=
  ∀ c ∈ cs, isPlain c = true ∨ c = ':'

instance (cs : List Char) : Decidable (IsOpen cs) :=
  List.decidableBAll (fun c => isPlain c = true ∨ c = ':') cs

def firstLine (s : String) : String :=
  String.ofList (s.toList.takeWhile (· != '\n'))

/-- What follows the first line, with the line break. -/
def laterLines (s : String) : String :=
  String.ofList (s.toList.dropWhile (· != '\n'))

def Positional.behind (front : String) (x : Positional) : Positional :=
  ⟨front ++ x.sql, x.names⟩

/-! ## Open texts -/

theorem nameAt_of_apart {cs : List Char} (h : Apart cs) : nameAt cs = [] := by
  cases cs with
  | nil => rfl
  | cons c cs =>
      have hc : Identifier.isWordPart c = false := h c rfl
      have hstart : Identifier.isWordStart c = false := by
        simp [Identifier.isWordPart, Char.isAlphanum] at hc
        simp [Identifier.isWordStart, hc]
      simp [nameAt, hstart]

theorem nameAt_append_of_apart (cs : List Char) {rest : List Char} (h : Apart rest) :
    nameAt (cs ++ rest) = nameAt cs := by
  cases cs with
  | nil => exact nameAt_of_apart h
  | cons c cs => rw [List.cons_append, nameAt, nameAt, takeWhile_append_of_apart cs h]

theorem coveredLength?_of_open {c : Char} (h : isPlain c = true ∨ c = ':') (cs : List Char) :
    coveredLength? c cs = none := by
  rcases h with h | rfl
  · simp [isPlain] at h
    simp [coveredLength?, h]
  · simp [coveredLength?, Identifier.quoteMark]

theorem firstLexeme_append_of_apart {c : Char} (hc : isPlain c = true ∨ c = ':')
    (cs : List Char) {rest : List Char} (h : Apart rest) :
    firstLexeme c (cs ++ rest) = firstLexeme c cs := by
  simp only [firstLexeme, coveredLength?_of_open hc, nameAt_append_of_apart cs h]

theorem length_firstLexeme_le {c : Char} (hc : isPlain c = true ∨ c = ':') (cs : List Char) :
    (firstLexeme c cs).2 ≤ cs.length := by
  have hname := congrArg List.length (nameAt_append_drop cs)
  rw [List.length_append] at hname
  simp only [firstLexeme, coveredLength?_of_open hc]
  split
  · simp only
    omega
  · exact Nat.zero_le _

theorem lexemes_open_append {cs rest : List Char} (hcs : IsOpen cs) (hrest : Apart rest) :
    lexemes (cs ++ rest) = lexemes cs ++ lexemes rest := by
  fun_induction lexemes cs with
  | case1 => rfl
  | case2 c cs lexeme n hfirst ih =>
      have hc : isPlain c = true ∨ c = ':' := hcs c List.mem_cons_self
      have hle := length_firstLexeme_le hc cs
      rw [hfirst] at hle
      rw [List.cons_append, lexemes_cons, firstLexeme_append_of_apart hc cs hrest, hfirst,
        List.drop_append_of_le_length hle, ih, List.cons_append]
      intro d hd
      exact hcs d (List.mem_cons_of_mem c (List.mem_of_mem_drop hd))

theorem ofSql_open_append {s rest : String} (hs : IsOpen s.toList) (hrest : Apart rest.toList) :
    Positional.ofSql (s ++ rest) =
      ⟨(Positional.ofSql s).sql ++ (Positional.ofSql rest).sql,
        (Positional.ofSql s).names ++ (Positional.ofSql rest).names⟩ := by
  simp only [Positional.ofSql, String.toList_append, lexemes_open_append hs hrest,
    List.flatMap_append, List.filterMap_append, String.ofList_append]

theorem sql_ofSql_of_names {s : String} (h : (Positional.ofSql s).names = []) :
    (Positional.ofSql s).sql = s := by
  have hsource : ∀ l ∈ lexemes s.toList, l.positional = l.source := by
    intro l hl
    cases l with
    | verbatim cs => rfl
    | named name =>
        have hname := List.filterMap_eq_nil_iff.mp h _ hl
        contradiction
  rw [Positional.ofSql, List.flatMap_congr hsource, flatMap_source_lexemes, String.ofList_toList]

/-! ## Lines -/

theorem firstLine_append_laterLines (s : String) : firstLine s ++ laterLines s = s := by
  rw [firstLine, laterLines, ← String.ofList_append, List.takeWhile_append_dropWhile,
    String.ofList_toList]

theorem apart_laterLines (s : String) : Apart (laterLines s).toList := by
  intro c hc
  have hbreak := List.head?_dropWhile_not (· != '\n') s.toList
  rw [laterLines, String.toList_ofList] at hc
  rw [Option.mem_def.mp hc] at hbreak
  have heq : c = '\n' := by simpa using hbreak
  rw [heq]
  rfl

theorem lexemes_dashes (cs : List Char) :
    lexemes ('-' :: '-' :: cs) =
      .verbatim ('-' :: '-' :: cs.takeWhile (· != '\n')) ::
        lexemes (cs.dropWhile (· != '\n')) := by
  have hcovered : coveredLength? '-'
      ('-' :: cs.takeWhile (· != '\n') ++ cs.dropWhile (· != '\n')) =
        some ('-' :: cs.takeWhile (· != '\n')).length := by
    rw [List.cons_append, List.takeWhile_append_dropWhile]
    simp [coveredLength?, Identifier.quoteMark, lineLength]
  have hlexemes := lexemes_covered_append hcovered
  rwa [List.cons_append, List.takeWhile_append_dropWhile] at hlexemes

theorem ofSql_plain_append {p : String} (hp : isPlainText p = true) (rest : String) :
    Positional.ofSql (p ++ rest) = (Positional.ofSql rest).behind p := by
  have hplain := List.all_eq_true.mp hp
  simp [Positional.ofSql, Positional.behind, lexemes_plain_append hplain, List.flatMap_map,
    List.filterMap_map, Function.comp_def, Lexeme.positional, Lexeme.name?]

theorem ofSql_dashes_append (q : String) :
    Positional.ofSql ("--" ++ q) =
      (Positional.ofSql (laterLines q)).behind ("--" ++ firstLine q) := by
  have htext : ("--" ++ q).toList = '-' :: '-' :: q.toList := by simp
  have hfront : String.ofList ('-' :: '-' :: q.toList.takeWhile (· != '\n')) =
      "--" ++ firstLine q := by
    apply String.toList_inj.mp
    simp [firstLine]
  rw [Positional.ofSql, htext, lexemes_dashes, List.flatMap_cons, String.ofList_append,
    Lexeme.positional, hfront, Positional.ofSql, Positional.behind, laterLines,
    String.toList_ofList]
  rfl

/-- Behind two dashes only the placeholders of later lines are found.  The scan reads all of
what follows the dashes as it would read it alone exactly if there is no placeholder on the
line of the dashes. -/
theorem ofSql_behind_dashes {p q : String} (hp : isPlainText p = true) (hq : IsOpen q.toList) :
    Positional.ofSql (p ++ "--" ++ q) =
        (Positional.ofSql (laterLines q)).behind (p ++ "--" ++ firstLine q) ∧
      (Positional.ofSql (p ++ "--" ++ q) = (Positional.ofSql q).behind (p ++ "--") ↔
        (Positional.ofSql (firstLine q)).names = []) := by
  have hfound : Positional.ofSql (p ++ "--" ++ q) =
      (Positional.ofSql (laterLines q)).behind (p ++ "--" ++ firstLine q) := by
    rw [String.append_assoc, ofSql_plain_append hp, ofSql_dashes_append]
    simp only [Positional.behind, String.append_assoc]
  have hline : IsOpen (firstLine q).toList := by
    intro c hc
    rw [firstLine, String.toList_ofList] at hc
    exact hq c ((List.takeWhile_sublist _).mem hc)
  have halone := ofSql_open_append hline (apart_laterLines q)
  rw [firstLine_append_laterLines] at halone
  refine ⟨hfound, ?_⟩
  rw [hfound, halone]
  constructor
  · intro hsame
    have hnames := congrArg Positional.names hsame
    simpa [Positional.behind] using hnames
  · intro hnone
    simp only [Positional.behind, hnone, sql_ofSql_of_names hnone, List.nil_append,
      String.append_assoc]

theorem ofSql_behind_dashes_two_lines :
    isPlainText "SELECT 5" = true ∧ IsOpen "3, :b\nFROM t WHERE c = :c".toList ∧
      Positional.ofSql ("SELECT 5" ++ "--" ++ "3, :b\nFROM t WHERE c = :c") =
        ⟨"SELECT 5--3, :b\nFROM t WHERE c = ?", ["c"]⟩ := by
  have hp : isPlainText "SELECT 5" = true := by decide
  have hq : IsOpen "3, :b\nFROM t WHERE c = :c".toList := by decide
  obtain ⟨hfound, -⟩ := ofSql_behind_dashes hp hq
  exact ⟨hp, hq, hfound.trans (by decide +kernel)⟩

/-- Where a negated number is subtracted, the placeholder behind it is missed. -/
theorem ofSql_misses_behind_dashes :
    isPlainText "SELECT 5" = true ∧ IsOpen "3, :x".toList ∧ opensComment "3, :x" = false ∧
      Positional.ofSql ("SELECT 5" ++ "--" ++ "3, :x") = ⟨"SELECT 5--3, :x", []⟩ ∧
      (Positional.ofSql "3, :x").behind ("SELECT 5" ++ "--") = ⟨"SELECT 5--3, ?", ["x"]⟩ := by
  decide +kernel

end TableGateway.Placeholder
