import TableGateway.Json.Printer
import TableGateway.Json.Reader

/-!
# Values

Values are bound to placeholders and read from columns.  In JSON a value is written without a
tag; reading tries the kinds in the order null, boolean, signed integer, unsigned integer,
number, text and bytes, so an unsigned integer that fits the signed range comes back as a signed
one.
-/

namespace TableGateway

inductive Value where
  | null
  | bool (b : Bool)
  | int (n : Int64)
  | uint (n : UInt64)
  | float (x : Binary64)
  | text (s : String)
  | bytes (b : List UInt8)
  deriving DecidableEq, Repr

namespace Value

def isNull : Value → Bool
  | .null => true
  | _ => false

def asText? : Value → Option String
  | .text s => some s
  | _ => none

def asInt? : Value → Option Int64
  | .int n => some n
  | .uint n => if n.toNat < Nat.pow 2 63 then some (Int64.ofNat n.toNat) else none
  | _ => none

def asBytes? : Value → Option (List UInt8)
  | .bytes b => some b
  | .text s => some (Text.utf8 s)
  | _ => none

/-- Equality of values.  Values of different kinds differ, and numbers compare
as numbers: a NaN differs from itself and the two zeros agree. -/
def same : Value → Value → Bool
  | .null, .null => true
  | .bool a, .bool b => a == b
  | .int a, .int b => a == b
  | .uint a, .uint b => a == b
  | .float a, .float b => a.same b
  | .text a, .text b => a == b
  | .bytes a, .bytes b => a == b
  | _, _ => false

def ofNumber : Json.Number → Value
  | .integer n _ => if n < Int.pow 2 63 then .int (Int64.ofInt n) else .uint (UInt64.ofNat n.toNat)
  | .float x => .float x

/-- The value that a JSON value is bound as; a list or an object is bound as its
JSON text. -/
def ofJson : Json → Value
  | .null => .null
  | .bool b => .bool b
  | .number n => ofNumber n
  | .string s => .text s
  | .array items => .text (Json.array items).compact
  | .object members => .text (Json.object members).compact

/-- A number that is not finite is written as `null`. -/
def toJson : Value → Json
  | .null => .null
  | .bool b => .bool b
  | .int n => .number (.ofInt n.toInt)
  | .uint n => .number (.ofInt n.toNat)
  | .float x => if x.isFinite then .number (.float x) else .null
  | .text s => .string s
  | .bytes b => .array (b.map fun x => .ofNat x.toNat)

def toJsonText (v : Value) : String :=
  v.toJson.compact

def byteOfJson? : Json → Option UInt8
  | .number (.integer n _) => if 0 ≤ n ∧ n < 256 then some (UInt8.ofNat n.toNat) else none
  | _ => none

/-- The value written by untagged JSON.  A list must hold bytes, and no object
writes a value. -/
def readJson? : Json → Option Value
  | .array items => (items.mapM byteOfJson?).map .bytes
  | .object _ => none
  | scalar => some (ofJson scalar)

def ofJsonText? (s : String) : Option Value :=
  match Json.readAll s.toList with
  | .ok j => readJson? j
  | .error _ => none

end Value

end TableGateway
