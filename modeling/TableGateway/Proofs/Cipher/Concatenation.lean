import Mathlib.Order.Bounds.Defs
import TableGateway.Proofs.Cipher.Filling

/-!
# Plaintexts and ciphertexts in pieces

Blocks are encrypted and decrypted one by one, so whole blocks at the front of a plaintext or
of a ciphertext can be worked on apart from what follows them.  A filling depends on the last
piece only: it makes up the length to the next multiple of the block size, and it lies within
the last block of what the strict cipher checks.
-/

namespace TableGateway

def blockAt (bytes : List UInt8) (i : Nat) : List UInt8 :=
  (bytes.drop (Block.size * i)).take Block.size

theorem blockAt_cons_zero {block : List UInt8} (h : block.length = Block.size)
    (rest : List UInt8) : blockAt (block ++ rest) 0 = block := by
  rw [blockAt, Nat.mul_zero, List.drop_zero, List.take_left' h]

theorem blockAt_cons_succ {block : List UInt8} (h : block.length = Block.size)
    (rest : List UInt8) (i : Nat) : blockAt (block ++ rest) (i + 1) = blockAt rest i := by
  rw [blockAt, blockAt, Nat.mul_succ, Nat.add_comm, ← h, List.drop_length_add_append]

/-- A list that has for each block of `bytes` what `f` makes of that block alone. -/
structure Blockwise (f : Block → Block) (bytes mapped : List UInt8) : Prop where
  length : mapped.length = bytes.length
  block : ∀ i, Block.size * i < bytes.length →
    blockAt mapped i = (f (.ofList (blockAt bytes i))).toList

theorem blockwise_mapBlocks (f : Block → Block) {bytes : List UInt8} (h : Whole bytes) :
    Blockwise f bytes (mapBlocks f bytes) where
  length := length_mapBlocks f h
  block := by
    induction h with
    | nil =>
        intro i hi
        exact absurd hi (Nat.not_lt_zero _)
    | @cons block rest hblock hrest ih =>
        have himage : (f (.ofList block)).toList.length = Block.size := Block.length_toList _
        rintro (_ | i) hi
        · rw [mapBlocks_cons hblock, blockAt_cons_zero himage, blockAt_cons_zero hblock]
        · rw [mapBlocks_cons hblock, blockAt_cons_succ himage, blockAt_cons_succ hblock]
          apply ih
          rw [List.length_append, hblock] at hi
          unfold Block.size at *
          omega

namespace Padding

variable {front : List UInt8}

theorem count_add {n : Nat} (h : n % Block.size = 0) (length : Nat) :
    count (n + length) = count length := by
  unfold count Block.size at *
  omega

theorem add_append (h : front.length % Block.size = 0) (plain : List UInt8) :
    add (front ++ plain) = front ++ add plain := by
  rw [add, add, List.length_append, count_add h, List.append_assoc]

/-- A filling that is at most a block long lies behind the front of whole blocks. -/
theorem check?_append (front : List UInt8) {bytes : List UInt8} (h : Block.size ≤ bytes.length) :
    check? (front ++ bytes) = (check? bytes).map (front ++ ·) := by
  have hne : bytes ≠ [] := by
    rintro rfl
    exact absurd h (by decide)
  simp only [check?, List.getLast?_append_of_ne_nil _ hne]
  generalize (bytes.getLast?.getD 0).toNat = n
  by_cases hn : n ≤ Block.size
  · have hsplit : (front ++ bytes).length - n = front.length + (bytes.length - n) := by
      rw [List.length_append]
      omega
    have hfits : n ≤ (front ++ bytes).length := by
      rw [List.length_append]
      omega
    have hfits' : n ≤ bytes.length := Nat.le_trans hn h
    rw [hsplit, List.drop_length_add_append, List.take_length_add_append]
    simp only [hfits, hfits', decide_true, Bool.and_true, apply_ite (Option.map (front ++ ·)),
      Option.map_some, Option.map_none]
  · simp [hn]

end Padding

namespace Cipher

variable {front : List UInt8}

theorem encryptBytes_append (c : Cipher) (h : front.length % Block.size = 0)
    (plain : List UInt8) :
    c.encryptBytes (front ++ plain) =
      mapBlocks (Aes.encrypt c.key) front ++ c.encryptBytes plain := by
  rw [encryptBytes, Padding.add_append h, mapBlocks_append _ (whole_of_length h), encryptBytes]

theorem take_encryptBytes (c : Cipher) (h : front.length % Block.size = 0) :
    (c.encryptBytes front).take front.length = mapBlocks (Aes.encrypt c.key) front := by
  have hfront := encryptBytes_append c h []
  rw [List.append_nil] at hfront
  rw [hfront]
  exact List.take_left' (length_mapBlocks _ (whole_of_length h))

theorem isLeast_length_encryptBytes (c : Cipher) (plain : List UInt8) :
    IsLeast {n | Block.size ∣ n ∧ plain.length < n} (c.encryptBytes plain).length := by
  rw [encryptBytes, length_mapBlocks _ (Padding.whole_add plain), Padding.length_add]
  unfold Padding.count Block.size
  constructor
  · constructor <;> omega
  · rintro n ⟨hdvd, hlt⟩
    omega

theorem strict_decryptBytes_append (key : Block) (h : front.length % Block.size = 0)
    {bytes : List UInt8} (hne : bytes ≠ []) (hbytes : bytes.length % Block.size = 0) :
    (strict key).decryptBytes (front ++ bytes) =
      ((strict key).decryptBytes bytes).map (mapBlocks (Aes.decrypt key) front ++ ·) := by
  have hwhole : (front ++ bytes).length % Block.size = 0 := by
    rw [List.length_append, Nat.add_mod, h, hbytes, Nat.zero_mod]
  have hblock : Block.size ≤ (mapBlocks (Aes.decrypt key) bytes).length :=
    le_length_mapBlocks _ hne hbytes (Nat.le_refl _)
  rw [decryptBytes_of_whole (List.append_ne_nil_of_right_ne_nil _ hne) hwhole,
    decryptBytes_of_whole hne hbytes, strict, mapBlocks_append _ (whole_of_length h),
    Padding.remove, Padding.remove, Padding.check?_append _ hblock]
  cases Padding.check? (mapBlocks (Aes.decrypt key) bytes) <;> rfl

/-- A plaintext behind whole blocks is encrypted as if it stood alone, and the blocks before it
as in their own encryption; the length goes up to the next multiple of the block size.  What
the strict cipher makes of whole blocks in front is their decryption block by block, and
whether it refuses is decided by what follows them. -/
theorem encrypts_and_decrypts_in_pieces :
    (∀ (c : Cipher) (a b : List UInt8), a.length % 16 = 0 →
      ∃ whole rest, c.encrypt (some a) = some whole ∧ c.encrypt (some b) = some rest ∧
        c.encrypt (some (a ++ b)) = some (whole.take a.length ++ rest)) ∧
    (∀ (c : Cipher) (plain : List UInt8), ∃ bytes, c.encrypt (some plain) = some bytes ∧
      IsLeast {n | 16 ∣ n ∧ plain.length < n} bytes.length) ∧
    ∀ (key : Block) (a b : List UInt8), a.length % 16 = 0 → b.length % 16 = 0 → b ≠ [] →
      ∃ opened, Blockwise (Aes.decrypt key) a opened ∧
        (strict key).decrypt (some (a ++ b)) =
          ((strict key).decrypt (some b)).map (Option.map (opened ++ ·)) ∧
        ((∃ e, (strict key).decrypt (some (a ++ b)) = .error e) ↔
          ∃ e, (strict key).decrypt (some b) = .error e) := by
  refine ⟨?_, fun c plain => ⟨_, rfl, isLeast_length_encryptBytes c plain⟩, ?_⟩
  · intro c a b ha
    refine ⟨_, _, rfl, rfl, ?_⟩
    rw [take_encryptBytes c ha, ← encryptBytes_append c ha]
    rfl
  · intro key a b ha hb hne
    have happend : (strict key).decrypt (some (a ++ b)) = ((strict key).decrypt (some b)).map
        (Option.map (mapBlocks (Aes.decrypt key) a ++ ·)) := by
      rw [decrypt, decrypt, strict_decryptBytes_append key ha hne hb]
      cases (strict key).decryptBytes b <;> rfl
    refine ⟨_, blockwise_mapBlocks _ (whole_of_length ha), happend, ?_⟩
    rw [happend]
    cases (strict key).decrypt (some b) <;> simp [Except.map]

end Cipher

end TableGateway
