import TableGateway.Bindings
import TableGateway.Identifier

/-!
# SQL as a list of fragments

A fragment is text, a cleaned name that is written between backticks, or a placeholder together
with the value bound to it.  The text of a clause and its bindings are two views of one list, so
a value cannot part from its placeholder.
-/

namespace TableGateway

inductive Fragment where
  | text (s : String)
  | name (cleaned : String)
  | bound (placeholder : String) (value : Value)
  deriving DecidableEq, Repr

namespace Fragment

def chars : Fragment → List Char
  | .text s => s.toList
  | .name cleaned => Identifier.quoteMark :: (cleaned.toList ++ [Identifier.quoteMark])
  | .bound placeholder _ => ':' :: placeholder.toList

def binding? : Fragment → Option (String × Value)
  | .bound placeholder value => some (placeholder, value)
  | _ => none

def ofName (name : String) : Fragment :=
  .name (Identifier.clean name)

end Fragment

abbrev Clause := List Fragment

namespace Clause

def chars (c : Clause) : List Char :=
  c.flatMap Fragment.chars

@[simp] theorem chars_nil : chars [] = [] := rfl

@[simp] theorem chars_cons (f : Fragment) (c : Clause) : chars (f :: c) = f.chars ++ chars c :=
  rfl

@[simp] theorem chars_append (c d : Clause) : chars (c ++ d) = chars c ++ chars d :=
  List.flatMap_append

def sql (c : Clause) : String :=
  String.ofList (chars c)

def bindings (c : Clause) : List (String × Value) :=
  c.filterMap Fragment.binding?

@[simp] theorem bindings_append (c d : Clause) : bindings (c ++ d) = bindings c ++ bindings d :=
  List.filterMap_append

def join (separator : String) (clauses : List Clause) : Clause :=
  List.intercalate [.text separator] clauses

def number (n : Nat) : Fragment :=
  .text (String.ofList (Text.decimal n))

end Clause

end TableGateway
