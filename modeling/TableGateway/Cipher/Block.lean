/-!
# Blocks of sixteen bytes

A block is kept as four columns of four bytes.
-/

namespace TableGateway

structure Column where
  b0 : UInt8
  b1 : UInt8
  b2 : UInt8
  b3 : UInt8
  deriving DecidableEq, Repr

namespace Column

def xor (c d : Column) : Column :=
  ⟨c.b0 ^^^ d.b0, c.b1 ^^^ d.b1, c.b2 ^^^ d.b2, c.b3 ^^^ d.b3⟩

def map (f : UInt8 → UInt8) (c : Column) : Column :=
  ⟨f c.b0, f c.b1, f c.b2, f c.b3⟩

def toList (c : Column) : List UInt8 :=
  [c.b0, c.b1, c.b2, c.b3]

def ofListAt (bytes : List UInt8) (i : Nat) : Column :=
  ⟨bytes.getD i 0, bytes.getD (i + 1) 0, bytes.getD (i + 2) 0, bytes.getD (i + 3) 0⟩

end Column

structure Block where
  c0 : Column
  c1 : Column
  c2 : Column
  c3 : Column
  deriving DecidableEq, Repr

namespace Block

def size : Nat := 16

def xor (x y : Block) : Block :=
  ⟨x.c0.xor y.c0, x.c1.xor y.c1, x.c2.xor y.c2, x.c3.xor y.c3⟩

def mapColumns (f : Column → Column) (x : Block) : Block :=
  ⟨f x.c0, f x.c1, f x.c2, f x.c3⟩

def map (f : UInt8 → UInt8) (x : Block) : Block :=
  x.mapColumns (Column.map f)

def toList (x : Block) : List UInt8 :=
  x.c0.toList ++ x.c1.toList ++ x.c2.toList ++ x.c3.toList

/-- The block of the first sixteen bytes of a list; missing bytes are zero. -/
def ofList (bytes : List UInt8) : Block :=
  ⟨.ofListAt bytes 0, .ofListAt bytes 4, .ofListAt bytes 8, .ofListAt bytes 12⟩

@[simp] theorem length_toList (x : Block) : x.toList.length = size := rfl

@[simp] theorem ofList_toList (x : Block) : ofList x.toList = x := rfl

def zero : Block :=
  ofList []

end Block

end TableGateway
