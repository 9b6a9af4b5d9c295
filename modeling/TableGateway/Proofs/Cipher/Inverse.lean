import Mathlib.Data.FinEnum
import Mathlib.Data.Finite.Prod
import TableGateway.Cipher.Aes

/-!
# The block cipher has an inverse

Under every key, decryption undoes encryption, because every step of a round is undone by
its counterpart.  For the mixing of columns this rests on one law, that doubling in the
field distributes over sums.  There are finitely many blocks, so encryption undoes
decryption as well.
-/

namespace TableGateway

/-! ## Sums of bytes, columns and blocks -/

theorem byte_xor_left_comm (a b c : UInt8) : a ^^^ (b ^^^ c) = b ^^^ (a ^^^ c) := by
  rw [← UInt8.xor_assoc, ← UInt8.xor_assoc, UInt8.xor_comm a b]

theorem byte_xor_cancel_left (a b : UInt8) : a ^^^ (a ^^^ b) = b := by
  rw [← UInt8.xor_assoc, UInt8.xor_self, UInt8.zero_xor]

@[simp] theorem Column.xor_xor (c d : Column) : (c.xor d).xor d = c := by
  simp only [Column.xor, UInt8.xor_assoc, UInt8.xor_self, UInt8.xor_zero]

namespace Block

@[simp] theorem xor_xor (x y : Block) : (x.xor y).xor y = x := by
  simp [Block.xor]

theorem mapColumns_mapColumns {f g : Column → Column} (h : ∀ c, g (f c) = c) (x : Block) :
    (x.mapColumns f).mapColumns g = x := by
  simp [mapColumns, h]

theorem map_map {f g : UInt8 → UInt8} (h : ∀ b, g (f b) = b) (x : Block) :
    (x.map f).map g = x := by
  apply mapColumns_mapColumns
  intro c
  simp [Column.map, h]

end Block

instance : Finite Column := by
  refine Finite.of_injective (fun c : Column => (c.b0, c.b1, c.b2, c.b3)) ?_
  rintro ⟨b0, b1, b2, b3⟩ ⟨d0, d1, d2, d3⟩ h
  simpa using h

instance : Finite Block := by
  refine Finite.of_injective (fun x : Block => (x.c0, x.c1, x.c2, x.c3)) ?_
  rintro ⟨c0, c1, c2, c3⟩ ⟨d0, d1, d2, d3⟩ h
  simpa using h

namespace Aes

/-! ## Substitution -/

theorem map_restore_substitutionTable :
    substitutionTable.toList.map restore = (List.range 256).map UInt8.ofNat := by
  decide +kernel

theorem restore_substitute (b : UInt8) : restore (substitute b) = b := by
  have hplace := congrArg (·[b.toNat]?) map_restore_substitutionTable
  simp only [List.getElem?_map, Array.getElem?_toList, List.getElem?_range b.toNat_lt,
    Option.map_some, UInt8.ofNat_toNat] at hplace
  obtain ⟨s, hs, hb⟩ := Option.map_eq_some_iff.mp hplace
  rw [substitute, Array.getD_eq_getD_getElem?, hs, Option.getD_some, hb]

/-! ## Mixing -/

theorem lt_iff_msb (b : UInt8) : b < 0x80 ↔ b.toBitVec.msb = false := by
  rw [BitVec.msb_eq_decide, UInt8.lt_iff_toNat_lt, decide_eq_false_iff_not, Nat.not_le]
  rfl

theorem xor_lt_iff (a b : UInt8) : a ^^^ b < 0x80 ↔ (a < 0x80 ↔ b < 0x80) := by
  rw [lt_iff_msb, lt_iff_msb, lt_iff_msb, UInt8.toBitVec_xor, BitVec.msb_xor]
  cases a.toBitVec.msb <;> cases b.toBitVec.msb <;> decide

/-- The field's polynomial is subtracted from the double of a sum exactly when it is from
one of the two doubles. -/
theorem double_xor (a b : UInt8) : double (a ^^^ b) = double a ^^^ double b := by
  unfold double
  rw [UInt8.shiftLeft_xor]
  by_cases ha : a < 0x80 <;> by_cases hb : b < 0x80 <;>
    simp [xor_lt_iff, ha, hb, UInt8.xor_assoc, byte_xor_left_comm, UInt8.xor_comm]

/-- Adds to each byte four times the sum of the bytes two apart. -/
def crossColumn (c : Column) : Column :=
  let u := double (double (c.b0 ^^^ c.b2))
  let v := double (double (c.b1 ^^^ c.b3))
  ⟨c.b0 ^^^ u, c.b1 ^^^ v, c.b2 ^^^ u, c.b3 ^^^ v⟩

theorem unmixColumn_eq (c : Column) : unmixColumn c = mixColumn (crossColumn c) := rfl

theorem mixColumn_mixColumn (c : Column) : mixColumn (mixColumn c) = crossColumn c := by
  simp only [mixColumn, crossColumn, double_xor, UInt8.xor_assoc, byte_xor_left_comm,
    UInt8.xor_comm, byte_xor_cancel_left, UInt8.xor_self, UInt8.zero_xor]

theorem crossColumn_crossColumn (c : Column) : crossColumn (crossColumn c) = c := by
  simp [crossColumn, double_xor, byte_xor_left_comm, UInt8.xor_comm]

theorem crossColumn_mixColumn (c : Column) :
    crossColumn (mixColumn c) = mixColumn (crossColumn c) := by
  rw [← mixColumn_mixColumn, ← mixColumn_mixColumn]

theorem unmixColumn_mixColumn (c : Column) : unmixColumn (mixColumn c) = c := by
  rw [unmixColumn_eq, crossColumn_mixColumn, mixColumn_mixColumn, crossColumn_crossColumn]

/-! ## Rounds -/

theorem unshiftRows_shiftRows (x : Block) : unshiftRows (shiftRows x) = x := rfl

theorem decryptRound_encryptRound (x key : Block) :
    decryptRound (encryptRound x key) key = x := by
  rw [encryptRound, decryptRound, Block.xor_xor, Block.mapColumns_mapColumns unmixColumn_mixColumn,
    unshiftRows_shiftRows, Block.map_map restore_substitute]

theorem decryptLast_encryptLast (x key : Block) : decryptLast (encryptLast x key) key = x := by
  rw [encryptLast, decryptLast, Block.xor_xor, unshiftRows_shiftRows,
    Block.map_map restore_substitute]

-- The equations of `decryptRounds` one by one would be checked by unfolding the tables.
theorem decryptRounds_nil (x : Block) : decryptRounds [] x = x := by
  rw [decryptRounds.eq_def]

theorem decryptRounds_singleton (key x : Block) : decryptRounds [key] x = decryptLast x key := by
  rw [decryptRounds.eq_def]

theorem decryptRounds_cons_cons (key next : Block) (keys : List Block) (x : Block) :
    decryptRounds (key :: next :: keys) x =
      decryptRound (decryptRounds (next :: keys) x) key := by
  rw [decryptRounds.eq_def]

theorem encryptRounds_cons_cons (key next : Block) (keys : List Block) (x : Block) :
    encryptRounds (key :: next :: keys) x =
      encryptRounds (next :: keys) (encryptRound x key) := by
  rw [encryptRounds.eq_def]

theorem decryptRounds_encryptRounds (keys : List Block) (x : Block) :
    decryptRounds keys (encryptRounds keys x) = x := by
  induction keys generalizing x with
  | nil => rw [encryptRounds, decryptRounds_nil]
  | cons key keys ih =>
      cases keys with
      | nil => rw [encryptRounds, decryptRounds_singleton, decryptLast_encryptLast]
      | cons next keys =>
          rw [encryptRounds_cons_cons, decryptRounds_cons_cons, ih, decryptRound_encryptRound]

theorem decrypt_encrypt (key x : Block) : decrypt key (encrypt key x) = x := by
  rw [encrypt, decrypt, decryptRounds_encryptRounds, Block.xor_xor]

theorem encrypt_decrypt (key x : Block) : encrypt key (decrypt key x) = x := by
  have hinjective : Function.Injective (encrypt key) :=
    Function.LeftInverse.injective (decrypt_encrypt key)
  obtain ⟨y, rfl⟩ := Finite.surjective_of_injective hinjective x
  rw [decrypt_encrypt]

end Aes

end TableGateway
