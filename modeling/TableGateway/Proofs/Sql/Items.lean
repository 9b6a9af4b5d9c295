import Mathlib.Data.List.Chain
import Mathlib.Data.List.Infix
import TableGateway.Proofs.Sql.Lexing

/-!
# SQL made of items

Whoever writes SQL writes strings, quoted names, comments, placeholders and plain text
between them.  Each of these may hold the marks of the others: a colon in a string, a quote
in a comment, the beginning of a comment in a name.  The scan does not confuse them.  Every
lexeme ends where an item ends, so that of all colons just those of the placeholders are
replaced.
-/

namespace TableGateway.Placeholder

inductive StringPart where
  | plain (c : Char)
  | escaped (c : Char)
  deriving DecidableEq, Repr

namespace StringPart

def chars : StringPart → List Char
  | .plain c => [c]
  | .escaped c => ['\\', c]

def Fits (quote : Char) : StringPart → Prop
  | .plain c => c ≠ quote ∧ c ≠ '\\'
  | .escaped _ => True

instance (quote : Char) : (part : StringPart) → Decidable (part.Fits quote)
  | .plain c => inferInstanceAs (Decidable (c ≠ quote ∧ c ≠ '\\'))
  | .escaped _ => inferInstanceAs (Decidable True)

end StringPart

inductive Item where
  | quoted (quote : Char) (body : List StringPart)
  | identifier (body : List Char)
  /-- A comment up to the end of a line, which belongs to it. -/
  | line (mark body : List Char)
  | block (body : List Char)
  | placeholder (name : String)
  | plain (run : List Char)
  deriving DecidableEq, Repr

namespace Item

def chars : Item → List Char
  | .quoted quote body => quote :: (body.flatMap StringPart.chars ++ [quote])
  | .identifier body => Identifier.quoteMark :: (body ++ [Identifier.quoteMark])
  | .line mark body => mark ++ (body ++ ['\n'])
  | .block body => '/' :: '*' :: (body ++ ['*', '/'])
  | .placeholder name => ':' :: name.toList
  | .plain run => run

def positional : Item → List Char
  | .placeholder _ => ['?']
  | item => item.chars

def name? : Item → Option String
  | .placeholder name => some name
  | _ => none

/-- Whether a run of plain text holds no mark of another item.  Its colons are those of
assignments. -/
def PlainRun (run : List Char) : Prop :=
  run ≠ [] ∧ (∀ c ∈ run, isPlain c = true ∨ c = ':') ∧
    run.IsChain (fun c d => c = ':' → d = '=') ∧ run.getLast? ≠ some ':'

instance (run : List Char) : Decidable (PlainRun run) :=
  -- The run is searched, and not the whole of Unicode.
  have : Decidable (∀ c ∈ run, isPlain c = true ∨ c = ':') := List.decidableBAll _ run
  inferInstanceAs (Decidable (_ ∧ _ ∧ _ ∧ _))

def WellFormed : Item → Prop
  | .quoted quote body => (quote = '\x27' ∨ quote = '\x22') ∧ ∀ part ∈ body, part.Fits quote
  | .identifier body => Identifier.quoteMark ∉ body
  | .line mark body => (mark = ['-', '-'] ∨ mark = ['#']) ∧ '\n' ∉ body
  | .block body => ¬ ['*', '/'] <:+: body
  | .placeholder name => Identifier.isPlaceholderName name = true
  | .plain run => PlainRun run

instance : (item : Item) → Decidable item.WellFormed
  | .quoted quote body =>
    inferInstanceAs (Decidable ((quote = '\x27' ∨ quote = '\x22') ∧ ∀ part ∈ body, part.Fits quote))
  | .identifier body => inferInstanceAs (Decidable (Identifier.quoteMark ∉ body))
  | .line mark body =>
    inferInstanceAs (Decidable ((mark = ['-', '-'] ∨ mark = ['#']) ∧ '\n' ∉ body))
  | .block body => inferInstanceAs (Decidable (¬ ['*', '/'] <:+: body))
  | .placeholder name => inferInstanceAs (Decidable (Identifier.isPlaceholderName name = true))
  | .plain run => inferInstanceAs (Decidable (PlainRun run))

/-- Whether the second item goes on with the name of a placeholder, which the first one is. -/
def runsInto : Item → Item → Bool
  | .placeholder _, .plain run => run.head?.any Identifier.isWordPart
  | _, _ => false

def Parted (first second : Item) : Prop :=
  first.runsInto second = false

instance : DecidableRel Parted := fun first second =>
  inferInstanceAs (Decidable (first.runsInto second = false))

/-- The lexemes that an item is read as.  The end of a line is a lexeme of its own. -/
def lexemes : Item → List Lexeme
  | .line mark body => [.verbatim (mark ++ body), .verbatim ['\n']]
  | .placeholder name => [.named name.toList]
  | .plain run => run.map fun c => .verbatim [c]
  | item => [.verbatim item.chars]

end Item

/-! ## What a mark covers -/

theorem stringLength?_quote (quote : Char) (cs : List Char) :
    stringLength? quote (quote :: cs) = some 1 := by
  cases cs <;> simp [stringLength?]

theorem stringLength?_char {quote c : Char} (hquote : c ≠ quote) (hbackslash : c ≠ '\\')
    (cs : List Char) :
    stringLength? quote (c :: cs) = (stringLength? quote cs).map (· + 1) := by
  cases cs <;> simp [stringLength?, hquote, hbackslash]

theorem stringLength?_escape {quote : Char} (h : quote ≠ '\\') (c : Char) (cs : List Char) :
    stringLength? quote ('\\' :: c :: cs) = (stringLength? quote cs).map (· + 2) := by
  simp [stringLength?, h.symm]

theorem stringLength?_append {quote : Char} (hquote : quote ≠ '\\') {body : List StringPart}
    (hbody : ∀ part ∈ body, part.Fits quote) (cs : List Char) :
    stringLength? quote (body.flatMap StringPart.chars ++ quote :: cs) =
      some ((body.flatMap StringPart.chars).length + 1) := by
  induction body with
  | nil => exact stringLength?_quote quote cs
  | cons part body ih =>
      rw [List.forall_mem_cons] at hbody
      rw [List.flatMap_cons, List.append_assoc, List.length_append]
      cases part with
      | plain c =>
          rw [StringPart.chars, List.singleton_append, stringLength?_char hbody.1.1 hbody.1.2,
            ih hbody.2, Option.map_some, List.length_singleton]
          congr 1
          omega
      | escaped c =>
          rw [StringPart.chars, List.cons_append, List.singleton_append,
            stringLength?_escape hquote, ih hbody.2, Option.map_some, List.length_cons,
            List.length_singleton]
          congr 1
          omega

theorem lineLength_append {body : List Char} (h : '\n' ∉ body) (cs : List Char) :
    lineLength (body ++ '\n' :: cs) = body.length := by
  have hall : ∀ c ∈ body, (c != '\n') = true := by
    intro c hc
    simpa using fun heq : c = '\n' => h (heq ▸ hc)
  rw [lineLength, List.takeWhile_append_of_pos hall, List.takeWhile_cons_of_neg (by decide),
    List.append_nil]

theorem commentLength?_cons {c : Char} {cs : List Char} (h : ¬ ['*', '/'] <+: c :: cs) :
    commentLength? (c :: cs) = (commentLength? cs).map (· + 1) := by
  rw [commentLength?.eq_def]
  by_cases hc : c = '*'
  · subst hc
    simp only [if_true]
    split
    · rename_i ds
      exact absurd ⟨ds, rfl⟩ h
    · rfl
  · simp only [hc, if_false]

theorem commentLength?_append {body : List Char} (h : ¬ ['*', '/'] <:+: body) (cs : List Char) :
    commentLength? (body ++ '*' :: '/' :: cs) = some (body.length + 2) := by
  induction body with
  | nil => rfl
  | cons c body ih =>
      have htail := ih fun hin => h (hin.trans (List.suffix_cons c body).isInfix)
      -- The star behind the body is followed by a slash, but no star of the body is.
      have hopen : ¬ ['*', '/'] <+: c :: (body ++ '*' :: '/' :: cs) := by
        rintro ⟨ds, heq⟩
        cases body with
        | nil => simp at heq
        | cons d body =>
            simp only [List.cons_append, List.nil_append, List.cons.injEq] at heq
            obtain ⟨rfl, rfl, -⟩ := heq
            exact h ⟨[], body, rfl⟩
      rw [List.cons_append, commentLength?_cons hopen, htail, Option.map_some, List.length_cons,
        Nat.add_right_comm]

/-! ## One item -/

theorem lexemes_colon_cons {cs : List Char} (h : nameAt cs = []) :
    lexemes (':' :: cs) = .verbatim [':'] :: lexemes cs := by
  have hcovered : coveredLength? ':' cs = none := by
    simp [coveredLength?, Identifier.quoteMark]
  rw [lexemes_cons, firstLexeme, hcovered]
  simp [h]

theorem lexemes_run_append {run : List Char} (hplain : ∀ c ∈ run, isPlain c = true ∨ c = ':')
    (hcolons : run.IsChain fun c d => c = ':' → d = '=') (hlast : run.getLast? ≠ some ':')
    (cs : List Char) :
    lexemes (run ++ cs) = run.map (fun c => .verbatim [c]) ++ lexemes cs := by
  induction run with
  | nil => rfl
  | cons c run ih =>
      rw [List.forall_mem_cons] at hplain
      rw [List.isChain_cons] at hcolons
      have hlast' : run.getLast? ≠ some ':' := by
        intro hrun
        simp [List.getLast?_cons, hrun] at hlast
      have htail := ih hplain.2 hcolons.2 hlast'
      rw [List.cons_append, List.map_cons, List.cons_append, ← htail]
      rcases hplain.1 with hc | rfl
      · exact lexemes_plain_cons hc _
      · -- Behind the colon stands an equals sign, with which no name begins.
        cases run with
        | nil => simp at hlast
        | cons d run =>
            have hd : d = '=' := hcolons.1 d rfl rfl
            subst hd
            exact lexemes_colon_cons rfl

theorem lexemes_string_append {quote : Char} (hquote : quote = '\x27' ∨ quote = '\x22')
    {body : List StringPart} (hbody : ∀ part ∈ body, part.Fits quote) (cs : List Char) :
    lexemes ((Item.quoted quote body).chars ++ cs) =
      (Item.quoted quote body).lexemes ++ lexemes cs := by
  have hbackslash : quote ≠ '\\' := by
    rcases hquote with rfl | rfl <;> decide
  have hcovered : coveredLength? quote (body.flatMap StringPart.chars ++ [quote] ++ cs) =
      some (body.flatMap StringPart.chars ++ [quote]).length := by
    have hlength := stringLength?_append hbackslash hbody cs
    simpa [coveredLength?, hquote] using hlength
  simpa [Item.chars, Item.lexemes] using lexemes_covered_append hcovered

theorem lexemes_line_append {mark body : List Char} (hmark : mark = ['-', '-'] ∨ mark = ['#'])
    (hbody : '\n' ∉ body) (cs : List Char) :
    lexemes ((Item.line mark body).chars ++ cs) = (Item.line mark body).lexemes ++ lexemes cs := by
  have hend : lexemes ('\n' :: cs) = .verbatim ['\n'] :: lexemes cs :=
    lexemes_plain_cons (by decide) cs
  rcases hmark with rfl | rfl
  · have hcovered : coveredLength? '-' ('-' :: body ++ '\n' :: cs) =
        some ('-' :: body).length := by
      have hrest : '\n' ∉ '-' :: body := by simpa using hbody
      have hlength := lineLength_append hrest cs
      simpa [coveredLength?, Identifier.quoteMark] using hlength
    simpa [Item.chars, Item.lexemes, hend] using lexemes_covered_append hcovered
  · have hcovered : coveredLength? '#' (body ++ '\n' :: cs) = some body.length := by
      simpa [coveredLength?, Identifier.quoteMark] using lineLength_append hbody cs
    simpa [Item.chars, Item.lexemes, hend] using lexemes_covered_append hcovered

theorem lexemes_block_append {body : List Char} (hbody : ¬ ['*', '/'] <:+: body)
    (cs : List Char) :
    lexemes ((Item.block body).chars ++ cs) = (Item.block body).lexemes ++ lexemes cs := by
  have hcovered : coveredLength? '/' ('*' :: (body ++ ['*', '/']) ++ cs) =
      some ('*' :: (body ++ ['*', '/'])).length := by
    have hlength := commentLength?_append hbody cs
    simp [coveredLength?, Identifier.quoteMark, hlength]
  simpa [Item.chars, Item.lexemes] using lexemes_covered_append hcovered

theorem lexemes_item_append {item : Item} (h : item.WellFormed) {cs : List Char}
    (hcs : ∀ name, item = .placeholder name → Apart cs) :
    lexemes (item.chars ++ cs) = item.lexemes ++ lexemes cs := by
  cases item with
  | quoted quote body => exact lexemes_string_append h.1 h.2 cs
  | identifier body => simpa [Item.chars, Item.lexemes] using lexemes_quoted_append h cs
  | line mark body => exact lexemes_line_append h.1 h.2 cs
  | block body => exact lexemes_block_append h cs
  | placeholder name =>
      simpa [Item.chars, Item.lexemes] using lexemes_named_append h (hcs name rfl)
  | plain run => exact lexemes_run_append h.2.1 h.2.2.1 h.2.2.2 cs

/-! ## Many items -/

theorem apart_of_parted {name : String} {next : Item} (h : next.WellFormed)
    (hparted : Item.Parted (.placeholder name) next) (cs : List Char) :
    Apart (next.chars ++ cs) := by
  cases next with
  | quoted quote body =>
      rcases h.1 with rfl | rfl <;> simp [Apart, Item.chars] <;> decide
  | identifier body => simp [Apart, Item.chars]; decide
  | line mark body => rcases h.1 with rfl | rfl <;> simp [Apart, Item.chars] <;> decide
  | block body => simp [Apart, Item.chars]; decide
  | placeholder name => simp [Apart, Item.chars]; decide
  | plain run =>
      cases run with
      | nil => exact absurd rfl h.1
      | cons c run => simpa [Apart, Item.chars, Item.Parted, Item.runsInto] using hparted

theorem lexemes_items {items : List Item} (hitems : ∀ item ∈ items, item.WellFormed)
    (hparted : items.IsChain Item.Parted) :
    lexemes (items.flatMap Item.chars) = items.flatMap Item.lexemes := by
  induction items with
  | nil => rw [List.flatMap_nil, List.flatMap_nil, lexemes]
  | cons item items ih =>
      rw [List.forall_mem_cons] at hitems
      rw [List.isChain_cons] at hparted
      rw [List.flatMap_cons, List.flatMap_cons, ← ih hitems.2 hparted.2]
      apply lexemes_item_append hitems.1
      rintro name rfl
      cases items with
      | nil => exact apart_nil
      | cons next items =>
          exact apart_of_parted (hitems.2 next List.mem_cons_self) (hparted.1 next rfl) _

theorem positional_item (item : Item) :
    item.lexemes.flatMap Lexeme.positional = item.positional := by
  cases item with
  | quoted quote body => simp [Item.lexemes, Item.positional, Lexeme.positional]
  | identifier body => simp [Item.lexemes, Item.positional, Lexeme.positional]
  | line mark body => simp [Item.lexemes, Item.positional, Lexeme.positional, Item.chars]
  | block body => simp [Item.lexemes, Item.positional, Lexeme.positional]
  | placeholder name => rfl
  | plain run =>
      simp [Item.lexemes, Item.positional, Lexeme.positional, Item.chars, List.flatMap_map]

theorem names_item (item : Item) :
    item.lexemes.filterMap Lexeme.name? = item.name?.toList := by
  cases item with
  | quoted quote body => rfl
  | identifier body => rfl
  | line mark body => rfl
  | block body => rfl
  | placeholder name => simp [Item.lexemes, Item.name?, Lexeme.name?]
  | plain run => simp [Item.lexemes, Item.name?, Lexeme.name?]

/-- Of SQL that is made of items, just the placeholders become question marks, and their
names come out in order with all that is repeated. -/
theorem ofSql_items {items : List Item} (hitems : ∀ item ∈ items, item.WellFormed)
    (hparted : items.IsChain Item.Parted) :
    Positional.ofSql (String.ofList (items.flatMap Item.chars)) =
      ⟨String.ofList (items.flatMap Item.positional), items.filterMap Item.name?⟩ := by
  have hlexemes := lexemes_items hitems hparted
  have hsql : (items.flatMap Item.lexemes).flatMap Lexeme.positional =
      items.flatMap Item.positional := by
    rw [List.flatMap_assoc]
    exact congrArg (List.flatMap · items) (funext positional_item)
  have hnames : (items.flatMap Item.lexemes).filterMap Lexeme.name? =
      items.filterMap Item.name? := by
    rw [List.filterMap_flatMap, List.filterMap_eq_flatMap_toList]
    exact congrArg (List.flatMap · items) (funext names_item)
  rw [Positional.ofSql, String.toList_ofList, hlexemes, hsql, hnames]

def crowdedItems : List Item :=
  [.plain "SELECT @n := ".toList, .placeholder "a", .placeholder "b", .plain ", ".toList,
    .quoted '\x27' [.plain ':', .escaped '\x27', .plain '#', .escaped '\\'],
    .quoted '\x27' [.plain '/', .plain '*', .plain '\x22'], .placeholder "_c1",
    .identifier "x:y'--".toList, .block "/:d`*".toList, .line ['-', '-'] " :e '".toList,
    .quoted '\x22' [.plain '\n', .plain ':', .plain 'f'], .line ['#'] "/*".toList,
    .placeholder "a", .plain "=1".toList]

def crowdedSql : String :=
  "SELECT @n := :a:b, ':\\'#\\\\''/*\"':_c1`x:y'--`/*/:d`**/-- :e '\n\"\n:f\"#/*\n:a=1"

theorem ofSql_crowdedSql :
    (∀ item ∈ crowdedItems, item.WellFormed) ∧ crowdedItems.IsChain Item.Parted ∧
      Positional.ofSql crowdedSql =
        ⟨"SELECT @n := ??, ':\\'#\\\\''/*\"'?`x:y'--`/*/:d`**/-- :e '\n\"\n:f\"#/*\n?=1",
          ["a", "b", "_c1", "a"]⟩ := by
  have hitems : ∀ item ∈ crowdedItems, item.WellFormed := by decide +kernel
  have hparted : crowdedItems.IsChain Item.Parted := by decide +kernel
  have hsql : crowdedSql = String.ofList (crowdedItems.flatMap Item.chars) := by decide +kernel
  refine ⟨hitems, hparted, ?_⟩
  rw [hsql, ofSql_items hitems hparted, Positional.mk.injEq]
  exact ⟨by decide +kernel, rfl⟩

end TableGateway.Placeholder
