import TableGateway.Sql.Fragment

/-!
# Outlines of SQL

An outline is SQL as a server gets it: characters, quoted names, and slots that
are written as question marks.  A slot carries the value that belongs to it, so an
outline says which value stands behind which question mark.  Names of placeholders
do not occur in it.
-/

namespace TableGateway

/-! ## Joined lists -/

theorem intercalate_cons {α : Type} (separator l : List α) (ls : List (List α)) :
    separator.intercalate (l :: ls) = l ++ ls.flatMap fun m => separator ++ m := by
  induction ls generalizing l with
  | nil => simp
  | cons m ls ih =>
      rw [List.intercalate_cons_cons, ih, List.flatMap_cons]
      simp only [List.append_assoc]

theorem flatMap_intercalate {α β : Type} (f : α → List β) (separator : List α)
    (ls : List (List α)) :
    (separator.intercalate ls).flatMap f =
      (separator.flatMap f).intercalate (ls.map fun l => l.flatMap f) := by
  cases ls with
  | nil => rfl
  | cons l ls =>
      rw [intercalate_cons, List.map_cons, intercalate_cons, List.flatMap_append,
        List.flatMap_assoc, List.flatMap_map]
      simp only [List.flatMap_append]

theorem filterMap_intercalate {α β : Type} (f : α → Option β) (separator : List α)
    (hseparator : separator.filterMap f = []) (ls : List (List α)) :
    (separator.intercalate ls).filterMap f = ls.flatMap fun l => l.filterMap f := by
  cases ls with
  | nil => rfl
  | cons l ls =>
      rw [intercalate_cons, List.filterMap_append, List.filterMap_flatMap, List.flatMap_cons]
      simp only [List.filterMap_append, hseparator, List.nil_append]

/-! ## Outlines -/

inductive Piece where
  | char (c : Char)
  | name (cleaned : String)
  | slot (value : Value)
  deriving DecidableEq, Repr

namespace Piece

def chars : Piece → List Char
  | .char c => [c]
  | .name cleaned => (Fragment.name cleaned).chars
  | .slot _ => ['?']

def value? : Piece → Option Value
  | .slot value => some value
  | _ => none

end Piece

abbrev Outline := List Piece

namespace Outline

def text (s : String) : Outline :=
  s.toList.map .char

def join (separator : String) (outlines : List Outline) : Outline :=
  List.intercalate (text separator) outlines

def chars (o : Outline) : List Char :=
  o.flatMap Piece.chars

def values (o : Outline) : List Value :=
  o.filterMap Piece.value?

@[simp] theorem text_empty : text "" = [] := rfl

@[simp] theorem values_nil : values [] = [] := rfl

@[simp] theorem values_append (o p : Outline) : values (o ++ p) = values o ++ values p :=
  List.filterMap_append

@[simp] theorem values_name (s : String) (o : Outline) : values (.name s :: o) = values o := rfl

@[simp] theorem values_slot (v : Value) (o : Outline) : values (.slot v :: o) = v :: values o :=
  rfl

@[simp] theorem values_text (s : String) : values (text s) = [] := by
  simp [values, text, Piece.value?]

@[simp] theorem join_nil (separator : String) : join separator [] = [] := rfl

@[simp] theorem join_singleton (separator : String) (o : Outline) : join separator [o] = o :=
  List.intercalate_singleton

theorem values_join (separator : String) (os : List Outline) :
    values (join separator os) = os.flatMap values :=
  filterMap_intercalate Piece.value? _ (values_text separator) os

/-- The SQL before its placeholders were replaced, where `names` are the names of
the slots in order. -/
def written : Outline → List String → List Char
  | [], _ => []
  | .char c :: o, names => c :: written o names
  | .name s :: o, names => (Piece.name s).chars ++ written o names
  | .slot _ :: o, [] => '?' :: written o []
  | .slot _ :: o, name :: names => ':' :: (name.toList ++ written o names)

theorem written_text_append (s : String) (o : Outline) (names : List String) :
    written (text s ++ o) names = s.toList ++ written o names := by
  rw [text]
  induction s.toList with
  | nil => rfl
  | cons c cs ih => simp [written, ih]

end Outline

def Fragment.outline : Fragment → Outline
  | .text s => Outline.text s
  | .name cleaned => [.name cleaned]
  | .bound _ value => [.slot value]

namespace Clause

def outline (c : Clause) : Outline :=
  c.flatMap Fragment.outline

@[simp] theorem outline_nil : outline [] = [] := rfl

@[simp] theorem outline_cons (f : Fragment) (c : Clause) :
    outline (f :: c) = f.outline ++ outline c := rfl

@[simp] theorem outline_append (c d : Clause) : outline (c ++ d) = outline c ++ outline d :=
  List.flatMap_append

@[simp] theorem bindings_nil : bindings [] = [] := rfl

@[simp] theorem bindings_text (s : String) (c : Clause) : bindings (.text s :: c) = bindings c :=
  rfl

@[simp] theorem bindings_name (s : String) (c : Clause) : bindings (.name s :: c) = bindings c :=
  rfl

@[simp] theorem bindings_bound (p : String) (v : Value) (c : Clause) :
    bindings (.bound p v :: c) = (p, v) :: bindings c := rfl

theorem flatMap_bindings (c : Clause) : (c.flatMap fun f => bindings [f]) = bindings c := by
  induction c with
  | nil => rfl
  | cons f c ih =>
      rw [List.flatMap_cons, ih, ← bindings_append]
      rfl

theorem outline_join (separator : String) (cs : List Clause) :
    outline (join separator cs) = Outline.join separator (cs.map outline) := by
  rw [outline, join, flatMap_intercalate, List.flatMap_singleton]
  rfl

theorem bindings_join (separator : String) (cs : List Clause) :
    bindings (join separator cs) = cs.flatMap bindings :=
  filterMap_intercalate Fragment.binding? _ rfl cs

theorem values_outline (c : Clause) : c.outline.values = c.bindings.map (·.2) := by
  induction c with
  | nil => rfl
  | cons f c ih =>
      cases f with
      | text s =>
          rw [outline_cons, Fragment.outline, Outline.values_append, Outline.values_text, ih]
          rfl
      | name s => exact ih
      | bound p v => exact congrArg (v :: ·) ih

theorem bindings_eq_zip (c : Clause) :
    c.bindings = (c.bindings.map (·.1)).zip c.outline.values := by
  rw [values_outline, ← List.unzip_fst, ← List.unzip_snd, List.zip_unzip]

theorem written_outline (c : Clause) : c.outline.written (c.bindings.map (·.1)) = c.chars := by
  induction c with
  | nil => rfl
  | cons f c ih =>
      cases f with
      | text s =>
          rw [outline_cons, Fragment.outline, Outline.written_text_append, chars_cons,
            Fragment.chars]
          exact congrArg _ ih
      | name s =>
          rw [outline_cons, chars_cons]
          exact congrArg _ ih
      | bound p v =>
          rw [outline_cons, chars_cons, Fragment.chars, List.cons_append, ← ih]
          rfl

end Clause

end TableGateway
