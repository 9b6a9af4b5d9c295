import TableGateway.Text.Bytes
import TableGateway.Text.Numeral

/-!
# Faults in UTF-8

The first place where bytes are not UTF-8, and what stands in its stead in a text.
-/

namespace TableGateway.Text

/-- Where bytes stop being UTF-8, and the length of what is wrong there; no length
where the bytes only end too early. -/
structure EncodingFault where
  index : Nat
  length : Option Nat
  deriving DecidableEq, Repr

def EncodingFault.chars (f : EncodingFault) : List Char :=
  match f.length with
  | some length =>
    "invalid utf-8 sequence of ".toList ++ decimal length ++ " bytes from index ".toList ++
      decimal f.index
  | none => "incomplete utf-8 byte sequence from index ".toList ++ decimal f.index

/-- The number of bytes of the UTF-8 form that a byte begins, with the bounds of
the byte behind it. -/
def formOf? (b : UInt8) : Option (Nat × UInt8 × UInt8) :=
  if b < 0x80 then some (1, 0x80, 0xbf)
  else if 0xc2 ≤ b && b ≤ 0xdf then some (2, 0x80, 0xbf)
  else if b = 0xe0 then some (3, 0xa0, 0xbf)
  else if b = 0xed then some (3, 0x80, 0x9f)
  else if 0xe1 ≤ b && b ≤ 0xef then some (3, 0x80, 0xbf)
  else if b = 0xf0 then some (4, 0x90, 0xbf)
  else if b = 0xf4 then some (4, 0x80, 0x8f)
  else if 0xf1 ≤ b && b ≤ 0xf3 then some (4, 0x80, 0xbf)
  else none

/-- The first fault in bytes that follow `index` others. -/
def encodingFault : Nat → Nat → List UInt8 → EncodingFault
  | 0, index, _ => ⟨index, none⟩
  | _, index, [] => ⟨index, none⟩
  | fuel + 1, index, b :: bs =>
    match formOf? b with
    | none => ⟨index, some 1⟩
    | some (length, low, high) =>
      let inBounds (i : Nat) (c : UInt8) : Bool :=
        if i = 0 then low ≤ c && c ≤ high else 0x80 ≤ c && c ≤ 0xbf
      let tail := bs.take (length - 1)
      match (tail.zipIdx.find? fun p => !inBounds p.2 p.1) with
      | some (_, i) => ⟨index, some (i + 1)⟩
      | none =>
        if tail.length < length - 1 then ⟨index, none⟩
        else encodingFault fuel (index + length) (bs.drop (length - 1))

def ofUtf8 (bytes : List UInt8) : Except EncodingFault String :=
  match ofUtf8? bytes with
  | some s => .ok s
  | none => .error (encodingFault (bytes.length + 1) 0 bytes)

/-- The text that the bytes encode, with a replacement character for each fault.
Each round passes at least one byte. -/
def repaired : Nat → List UInt8 → String
  | 0, _ => ""
  | fuel + 1, bytes =>
    match ofUtf8 bytes with
    | .ok s => s
    | .error fault =>
      let sound := (ofUtf8? (bytes.take fault.index)).getD ""
      match fault.length with
      | none => sound ++ "\ufffd"
      | some length => sound ++ "\ufffd" ++ repaired fuel (bytes.drop (fault.index + length))

def ofBytes (bytes : List UInt8) : String :=
  repaired (bytes.length + 1) bytes

end TableGateway.Text
