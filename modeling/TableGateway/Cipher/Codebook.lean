import TableGateway.Cipher.Aes
import TableGateway.Error

/-!
# Encryption of byte strings block by block

Byte strings are encrypted in the way of the server's own functions.  Key material of any length
is folded into one block.  A plaintext is filled up to whole blocks with bytes that state their
own number, from one to sixteen, and every block is encrypted on its own.  Decryption removes the
filling in one of two ways: the strict one checks it, the compatible one strips every last byte
up to sixteen.  An absent value stays absent.
-/

namespace TableGateway

inductive Padding where
  | compat
  | strict
  deriving DecidableEq, Repr

/-- The sum of the blocks of key material, of which the last is filled with
zeros. -/
def foldKey (raw : List UInt8) : Block :=
  if raw.isEmpty then .zero
  else (Block.ofList (raw.take Block.size)).xor (foldKey (raw.drop Block.size))
  termination_by raw.length
  decreasing_by
    cases raw with
    | nil => contradiction
    | cons b bs => simp only [List.length_drop, List.length_cons, Block.size]; omega

def mapBlocks (f : Block → Block) (bytes : List UInt8) : List UInt8 :=
  if bytes.length < Block.size then []
  else (f (.ofList (bytes.take Block.size))).toList ++ mapBlocks f (bytes.drop Block.size)
  termination_by bytes.length
  decreasing_by simp only [List.length_drop, Block.size] at *; omega

namespace Padding

def count (length : Nat) : Nat :=
  Block.size - length % Block.size

def add (plain : List UInt8) : List UInt8 :=
  plain ++ List.replicate (count plain.length) (UInt8.ofNat (count plain.length))

def strip (bytes : List UInt8) : List UInt8 :=
  (bytes.reverse.dropWhile (· ≤ 16)).reverse

def check? (bytes : List UInt8) : Option (List UInt8) :=
  let n := (bytes.getLast?.getD 0).toNat
  let rest := bytes.length - n
  if 1 ≤ n && n ≤ Block.size && n ≤ bytes.length && (bytes.drop rest).all (·.toNat == n) then
    some (bytes.take rest)
  else none

def remove : Padding → List UInt8 → Except Error (List UInt8)
  | .compat, bytes => .ok (strip bytes)
  | .strict, bytes =>
    match check? bytes with
    | some plain => .ok plain
    | none => .error (.cipher .padding)

end Padding

structure Cipher where
  key : Block
  padding : Padding
  deriving DecidableEq, Repr

namespace Cipher

def ofRawKey (raw : List UInt8) (padding : Padding) : Cipher :=
  ⟨foldKey raw, padding⟩

def encryptBytes (c : Cipher) (plain : List UInt8) : List UInt8 :=
  mapBlocks (Aes.encrypt c.key) (Padding.add plain)

def decryptBytes (c : Cipher) (bytes : List UInt8) : Except Error (List UInt8) :=
  if bytes.isEmpty || bytes.length % Block.size != 0 then
    .error (.cipher (.length bytes.length))
  else c.padding.remove (mapBlocks (Aes.decrypt c.key) bytes)

def encrypt (c : Cipher) (plain : Option (List UInt8)) : Option (List UInt8) :=
  plain.map c.encryptBytes

def decrypt (c : Cipher) : Option (List UInt8) → Except Error (Option (List UInt8))
  | none => .ok none
  | some bytes => (c.decryptBytes bytes).map some

end Cipher

end TableGateway
