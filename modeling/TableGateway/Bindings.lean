import Std.Data.TreeMap
import TableGateway.Value

/-!
# Values bound to names

Names are kept in the order in which they were first bound.  An index gives the place of each
name among the entries, so that looking a name up does not search them.  Binding a name again
replaces its value in place.
-/

namespace TableGateway

structure Bindings where
  entries : Array (String × Value)
  index : Std.TreeMap String Nat

namespace Bindings

def empty : Bindings :=
  ⟨#[], ∅⟩

def insert (m : Bindings) (name : String) (value : Value) : Bindings :=
  match m.index[name]? with
  | some i => { m with entries := m.entries.setIfInBounds i (name, value) }
  | none => ⟨m.entries.push (name, value), m.index.insert name m.entries.size⟩

def get? (m : Bindings) (name : String) : Option Value :=
  m.index[name]?.bind fun i => m.entries[i]?.map (·.2)

def contains (m : Bindings) (name : String) : Bool :=
  m.index.contains name

def size (m : Bindings) : Nat :=
  m.entries.size

def isEmpty (m : Bindings) : Bool :=
  m.entries.isEmpty

def toList (m : Bindings) : List (String × Value) :=
  m.entries.toList

def names (m : Bindings) : List String :=
  m.toList.map (·.1)

def insertAll (m : Bindings) (entries : List (String × Value)) : Bindings :=
  entries.foldl (fun m e => m.insert e.1 e.2) m

def ofList (entries : List (String × Value)) : Bindings :=
  empty.insertAll entries

def merge (m other : Bindings) : Bindings :=
  m.insertAll other.toList

def sameEntries : List (String × Value) → List (String × Value) → Bool
  | [], [] => true
  | (a, v) :: rest, (b, w) :: others => a == b && v.same w && sameEntries rest others
  | _, _ => false

/-- Equality of entries and of their places. -/
def same (m other : Bindings) : Bool :=
  sameEntries m.toList other.toList && m.index.toList == other.index.toList

end Bindings

inductive Arguments where
  | named (bindings : Bindings)
  | positional (values : List Value)

namespace Arguments

def none : Arguments :=
  .positional []

def size : Arguments → Nat
  | .named bindings => bindings.size
  | .positional values => values.length

def isEmpty (a : Arguments) : Bool :=
  a.size == 0

end Arguments

end TableGateway
