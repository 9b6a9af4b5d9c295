import TableGateway.Identifier

/-!
# Named placeholders in SQL

A text is cut into lexemes from the left.  Quoted strings, quoted names and comments cover what
they hold; a colon and a name behind it are a placeholder; every other character stands for
itself.  A quote or a comment that is not closed is not one, and its first character stands for
itself.  The lexemes joined give the text again.
-/

namespace TableGateway.Placeholder

inductive Lexeme where
  | verbatim (cs : List Char)
  | named (name : List Char)
  deriving DecidableEq, Repr

namespace Lexeme

def source : Lexeme → List Char
  | .verbatim cs => cs
  | .named name => ':' :: name

def positional : Lexeme → List Char
  | .verbatim cs => cs
  | .named _ => ['?']

def name? : Lexeme → Option String
  | .verbatim _ => none
  | .named name => some (String.ofList name)

end Lexeme

/-- The length of the body and the closing quote of a string whose opening quote
has been seen.  A backslash takes the next character with it. -/
def stringLength? (quote : Char) : List Char → Option Nat
  | [] => none
  | c :: cs =>
    if c = quote then some 1
    else if c = '\\' then
      match cs with
      | [] => none
      | _ :: rest => (stringLength? quote rest).map (· + 2)
    else (stringLength? quote cs).map (· + 1)

/-- The length up to and with the next backtick. -/
def nameLength? : List Char → Option Nat
  | [] => none
  | c :: cs => if c = Identifier.quoteMark then some 1 else (nameLength? cs).map (· + 1)

def lineLength (cs : List Char) : Nat :=
  (cs.takeWhile (· != '\n')).length

def commentLength? : List Char → Option Nat
  | [] => none
  | c :: cs =>
    if c = '*' then
      match cs with
      | '/' :: _ => some 2
      | cs => (commentLength? cs).map (· + 1)
    else (commentLength? cs).map (· + 1)

/-- How much of the text behind `c` is covered by a string, name or comment that `c` opens. -/
def coveredLength? (c : Char) (cs : List Char) : Option Nat :=
  if c = '\x27' || c = '\x22' then stringLength? c cs
  else if c = Identifier.quoteMark then nameLength? cs
  else if c = '-' && cs.head? = some '-' then some (lineLength cs)
  else if c = '#' then some (lineLength cs)
  else if c = '/' && cs.head? = some '*' then (commentLength? cs.tail).map (· + 1)
  else none

def nameAt : List Char → List Char
  | [] => []
  | c :: cs =>
    if Identifier.isWordStart c then c :: cs.takeWhile Identifier.isWordPart else []

/-- The first lexeme of a text that begins with `c`, and its length less one. -/
def firstLexeme (c : Char) (cs : List Char) : Lexeme × Nat :=
  match coveredLength? c cs with
  | some n => (.verbatim (c :: cs.take n), n)
  | none =>
    if c = ':' && !(nameAt cs).isEmpty then (.named (nameAt cs), (nameAt cs).length)
    else (.verbatim [c], 0)

theorem drop_length_takeWhile (p : Char → Bool) (cs : List Char) :
    cs.drop (cs.takeWhile p).length = cs.dropWhile p := by
  induction cs with
  | nil => rfl
  | cons c cs ih =>
    by_cases h : p c = true
    · simp only [List.takeWhile_cons, List.dropWhile_cons, h, if_true, List.length_cons,
        List.drop_succ_cons, ih]
    · simp only [List.takeWhile_cons, List.dropWhile_cons, h, Bool.false_eq_true, if_false,
        List.length_nil, List.drop_zero]

theorem nameAt_append_drop (cs : List Char) : nameAt cs ++ cs.drop (nameAt cs).length = cs := by
  cases cs with
  | nil => rfl
  | cons c cs =>
    by_cases h : Identifier.isWordStart c = true
    · simp only [nameAt, h, if_true, List.length_cons, List.drop_succ_cons, List.cons_append,
        drop_length_takeWhile, List.takeWhile_append_dropWhile]
    · simp only [nameAt, h, Bool.false_eq_true, if_false, List.length_nil, List.drop_zero,
        List.nil_append]

theorem source_firstLexeme (c : Char) (cs : List Char) :
    (firstLexeme c cs).1.source ++ cs.drop (firstLexeme c cs).2 = c :: cs := by
  unfold firstLexeme
  split
  · rw [Lexeme.source, List.cons_append, List.take_append_drop]
  · split
    · rename_i h
      have colon : c = ':' := by
        rw [Bool.and_eq_true, decide_eq_true_eq] at h
        exact h.1
      rw [Lexeme.source, List.cons_append, nameAt_append_drop, colon]
    · rfl

def lexemes : List Char → List Lexeme
  | [] => []
  | c :: cs =>
    let (lexeme, n) := firstLexeme c cs
    lexeme :: lexemes (cs.drop n)
  termination_by cs => cs.length
  decreasing_by simp only [List.length_drop, List.length_cons]; omega

theorem flatMap_source_lexemes (cs : List Char) : (lexemes cs).flatMap Lexeme.source = cs := by
  fun_induction lexemes cs with
  | case1 => rfl
  | case2 c cs lexeme n h ih =>
    have cut := source_firstLexeme c cs
    rw [h] at cut
    rw [List.flatMap_cons, ih, cut]

/-- SQL with question marks, and the names that they stand for in order. -/
structure Positional where
  sql : String
  names : List String
  deriving DecidableEq, Repr

def Positional.ofSql (sql : String) : Positional :=
  let list := lexemes sql.toList
  ⟨String.ofList (list.flatMap Lexeme.positional), list.filterMap Lexeme.name?⟩

end TableGateway.Placeholder
