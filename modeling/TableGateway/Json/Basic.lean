import TableGateway.Number.Binary64

/-!
# JSON values

A number is an integer that fits a signed or an unsigned word of 64 bits, or a binary64 number.
The members of an object are kept in the order of their keys, which by code points is also the
order of their UTF-8 bytes.
-/

namespace TableGateway

namespace Json

inductive Number where
  | integer (n : Int) (inRange : -Int.pow 2 63 ≤ n ∧ n < Int.pow 2 64)
  | float (x : Binary64)
  deriving DecidableEq, Repr

/-- An integer out of range becomes the nearest binary64 number. -/
def Number.ofInt (n : Int) : Number :=
  if h : -Int.pow 2 63 ≤ n ∧ n < Int.pow 2 64 then .integer n h else .float (Binary64.ofInt n)

end Json

inductive Json where
  | null
  | bool (b : Bool)
  | number (n : Json.Number)
  | string (s : String)
  | array (items : List Json)
  | object (members : List (String × Json))
  deriving Repr

namespace Json

instance : Inhabited Json := ⟨.null⟩

def ofNat (n : Nat) : Json :=
  .number (.ofInt n)

def insertMember (key : String) (value : Json) :
    List (String × Json) → List (String × Json)
  | [] => [(key, value)]
  | (k, v) :: rest =>
    if key < k then (key, value) :: (k, v) :: rest
    else if key = k then (key, value) :: rest
    else (k, v) :: insertMember key value rest

/-- The object with the given members; of several with one key the last stays. -/
def ofMembers (members : List (String × Json)) : Json :=
  .object (members.foldl (fun acc m => insertMember m.1 m.2 acc) [])

def member? : Json → String → Option Json
  | .object members, key => members.lookup key
  | _, _ => none

end Json

end TableGateway
