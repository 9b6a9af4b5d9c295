import Mathlib.Data.List.GetD
import TableGateway.Proofs.Cipher.Stripping

/-!
# Folded keys

Key material is folded by going round one block: every byte is added to the byte of the key at
its place modulo the block size.  So each byte of a key is the sum of the bytes of the material
at the places that belong to it.  A cipher knows nothing of the material but the key, and keys
can be exchanged whose material folds to the same block.
-/

namespace TableGateway

namespace Block

def byte (x : Block) (j : Nat) : UInt8 :=
  x.toList.getD j 0

variable {j : Nat}

theorem getD_map_range (f : Nat → UInt8) (hj : j < size) :
    ((List.range size).map f).getD j 0 = f j := by
  simp [List.getD_eq_getElem?_getD, List.getElem?_range hj]

theorem toList_xor (x y : Block) :
    (x.xor y).toList = List.zipWith (· ^^^ ·) x.toList y.toList := rfl

theorem toList_eq_map_byte (x : Block) : x.toList = (List.range size).map x.byte := rfl

theorem byte_xor (x y : Block) (hj : j < size) : (x.xor y).byte j = x.byte j ^^^ y.byte j := by
  have hx : j < x.toList.length := hj
  have hy : j < y.toList.length := hj
  have hxor : j < (List.zipWith (· ^^^ ·) x.toList y.toList).length := hj
  rw [byte, byte, byte, toList_xor, List.getD_eq_getElem _ _ hxor, List.getElem_zipWith,
    List.getD_eq_getElem _ _ hx, List.getD_eq_getElem _ _ hy]

theorem byte_ofList (bytes : List UInt8) (hj : j < size) :
    (ofList bytes).byte j = bytes.getD j 0 :=
  getD_map_range (bytes.getD · 0) hj

theorem byte_zero (hj : j < size) : zero.byte j = 0 :=
  byte_ofList [] hj

theorem eq_of_byte {x y : Block} (h : ∀ j < size, x.byte j = y.byte j) : x = y := by
  have hlist : x.toList = y.toList := by
    rw [toList_eq_map_byte, toList_eq_map_byte, List.map_congr_left]
    intro j hj
    exact h j (List.mem_range.mp hj)
  rw [← ofList_toList x, hlist, ofList_toList]

theorem xor_zero (x : Block) : x.xor zero = x := by
  apply eq_of_byte
  intro j hj
  rw [byte_xor x zero hj, byte_zero hj, UInt8.xor_zero]

end Block

/-! ## Going round the block -/

theorem getD_concat (bytes : List UInt8) (b : UInt8) (j : Nat) :
    (bytes ++ [b]).getD j 0 = bytes.getD j 0 ^^^ if bytes.length = j then b else 0 := by
  rcases Nat.lt_trichotomy j bytes.length with hlt | rfl | hgt
  · rw [List.getD_append _ _ _ _ hlt, if_neg (Nat.ne_of_gt hlt), UInt8.xor_zero]
  · simp
  · rw [List.getD_eq_default, List.getD_eq_default, if_neg (Nat.ne_of_lt hgt), UInt8.xor_zero]
    · exact Nat.le_of_lt hgt
    · rw [List.length_append]
      exact hgt

theorem foldKey_nil : foldKey [] = .zero := by
  rw [foldKey, if_pos List.isEmpty_nil]

theorem foldKey_of_length_le {raw : List UInt8} (h : raw.length ≤ Block.size) :
    foldKey raw = .ofList raw := by
  cases raw with
  | nil => exact foldKey_nil
  | cons b bytes =>
      rw [foldKey, if_neg (by simp), List.take_of_length_le h, List.drop_of_length_le h,
        foldKey_nil, Block.xor_zero]

theorem foldKey_of_le_length {raw : List UInt8} (h : Block.size ≤ raw.length) :
    foldKey raw = (Block.ofList (raw.take Block.size)).xor (foldKey (raw.drop Block.size)) := by
  rw [foldKey, if_neg]
  intro hnil
  rw [List.isEmpty_iff.mp hnil] at h
  exact absurd h (by decide)

/-- One more byte of material is added at its place, and no other byte of the key changes. -/
theorem byte_foldKey_concat (raw : List UInt8) (b : UInt8) {j : Nat} (hj : j < Block.size) :
    (foldKey (raw ++ [b])).byte j =
      (foldKey raw).byte j ^^^ if raw.length % Block.size = j then b else 0 := by
  -- Longer material is folded behind its first block, so the induction is on the length.
  by_cases hlt : raw.length < Block.size
  · have hlength : (raw ++ [b]).length ≤ Block.size := by
      rw [List.length_append]
      exact hlt
    rw [foldKey_of_length_le hlength, foldKey_of_length_le (Nat.le_of_lt hlt),
      Block.byte_ofList _ hj, Block.byte_ofList _ hj, Nat.mod_eq_of_lt hlt]
    exact getD_concat raw b j
  · have hle : Block.size ≤ raw.length := Nat.le_of_not_lt hlt
    have ih := byte_foldKey_concat (raw.drop Block.size) b hj
    rw [foldKey_of_le_length hle, foldKey_of_le_length (by rw [List.length_append]; omega),
      List.take_append_of_le_length hle, List.drop_append_of_le_length hle, Block.byte_xor _ _ hj,
      Block.byte_xor _ _ hj, ih, List.length_drop, ← Nat.mod_eq_sub_mod hle, UInt8.xor_assoc]
  termination_by raw.length
  decreasing_by
    rw [List.length_drop]
    unfold Block.size at *
    omega

def byteSum (bytes : List UInt8) : UInt8 :=
  bytes.foldr (· ^^^ ·) 0

theorem byteSum_concat (bytes : List UInt8) (b : UInt8) :
    byteSum (bytes ++ [b]) = byteSum bytes ^^^ b := by
  induction bytes with
  | nil => exact UInt8.xor_comm b 0
  | cons a bytes ih =>
    rw [List.cons_append]
    change a ^^^ byteSum (bytes ++ [b]) = a ^^^ byteSum bytes ^^^ b
    rw [ih, UInt8.xor_assoc]

/-- The bytes at the places that belong to byte `j` of a key. -/
def strand (raw : List UInt8) (j : Nat) : List UInt8 :=
  (raw.zipIdx.filter (·.2 % Block.size = j)).map (·.1)

theorem strand_concat (raw : List UInt8) (b : UInt8) (j : Nat) :
    strand (raw ++ [b]) j = strand raw j ++ if raw.length % Block.size = j then [b] else [] := by
  rw [strand, strand, List.zipIdx_append, List.filter_append, List.map_append]
  by_cases h : raw.length % Block.size = j <;> simp [h]

theorem byte_foldKey (raw : List UInt8) {j : Nat} (hj : j < Block.size) :
    (foldKey raw).byte j = byteSum (strand raw j) := by
  induction raw using List.reverseRecOn with
  | nil =>
      rw [foldKey_nil, Block.byte_zero hj]
      rfl
  | append_singleton raw b ih =>
      rw [byte_foldKey_concat raw b hj, ih, strand_concat]
      split
      · rw [byteSum_concat]
      · rw [UInt8.xor_zero, List.append_nil]

/-! ## Material in pieces -/

theorem foldKey_append {front : List UInt8} (h : front.length % Block.size = 0)
    (rest : List UInt8) : foldKey (front ++ rest) = (foldKey front).xor (foldKey rest) := by
  induction rest using List.reverseRecOn with
  | nil => rw [List.append_nil, foldKey_nil, Block.xor_zero]
  | append_singleton rest b ih =>
      have hplace : (front ++ rest).length % Block.size = rest.length % Block.size := by
        rw [List.length_append, Nat.add_mod, h, Nat.zero_add, Nat.mod_mod]
      apply Block.eq_of_byte
      intro j hj
      rw [← List.append_assoc, byte_foldKey_concat _ b hj, hplace, ih, Block.byte_xor _ _ hj,
        Block.byte_xor _ _ hj, byte_foldKey_concat rest b hj, UInt8.xor_assoc]

theorem foldKey_append_zeros (raw : List UInt8) (n : Nat) :
    foldKey (raw ++ List.replicate n 0) = foldKey raw := by
  induction n with
  | zero => rw [List.replicate_zero, List.append_nil]
  | succ n ih =>
      apply Block.eq_of_byte
      intro j hj
      rw [List.replicate_succ', ← List.append_assoc, byte_foldKey_concat _ 0 hj, ih, ite_self,
        UInt8.xor_zero]

theorem foldKey_toList (x : Block) : foldKey x.toList = x := by
  rw [foldKey_of_length_le (Nat.le_of_eq (Block.length_toList x)), Block.ofList_toList]

namespace Cipher

variable {raw other : List UInt8}

theorem ofRawKey_congr (h : foldKey raw = foldKey other) (padding : Padding) :
    ofRawKey raw padding = ofRawKey other padding := by
  rw [ofRawKey, ofRawKey, h]

theorem strict_decrypt_encrypt (key : Block) (plain : List UInt8) :
    (strict key).decrypt ((strict key).encrypt (some plain)) = .ok (some plain) :=
  decrypt_some_eq_ok_iff.mpr (strict_decryptBytes_eq_ok_iff.mpr rfl)

theorem compat_decrypt_encrypt (key : Block) (plain : List UInt8) :
    (compat key).decrypt ((compat key).encrypt (some plain)) = .ok (some (Padding.strip plain)) :=
  decrypt_some_eq_ok_iff.mpr (compat_decryptBytes_encryptBytes key plain)

/-- Every byte of a key is the sum of the material at its places.  So pieces of whole blocks
are summed up, zeros at the end do not count, and a key folds to itself.  Material that folds to
the same block gives ciphers that decrypt alike, each what the other encrypted. -/
theorem key_sums_material :
    (∀ raw, (foldKey raw).toList = (List.range 16).map fun j => byteSum (strand raw j)) ∧
    (∀ a b : List UInt8, a.length % 16 = 0 → (foldKey (a ++ b)).toList =
      List.zipWith (· ^^^ ·) (foldKey a).toList (foldKey b).toList) ∧
    (∀ raw n, foldKey (raw ++ List.replicate n 0) = foldKey raw) ∧
    (∀ raw, foldKey (foldKey raw).toList = foldKey raw) ∧
    (∀ raw other, foldKey raw = foldKey other →
      (∀ padding bytes,
        (ofRawKey raw padding).decrypt bytes = (ofRawKey other padding).decrypt bytes) ∧
      (∀ padding plain,
        (ofRawKey raw padding).decrypt ((ofRawKey other padding).encrypt plain) =
          (ofRawKey raw padding).decrypt ((ofRawKey raw padding).encrypt plain)) ∧
      (∀ plain, (ofRawKey raw .strict).decrypt ((ofRawKey other .strict).encrypt (some plain)) =
        .ok (some plain)) ∧
      (∀ plain, ∃ rest, Padding.StripsTo plain rest ∧
        (ofRawKey raw .compat).decrypt ((ofRawKey other .compat).encrypt (some plain)) =
          .ok (some rest))) := by
  refine ⟨fun raw => ?_, fun a b ha => ?_, foldKey_append_zeros,
    fun raw => foldKey_toList (foldKey raw), fun raw other h => ?_⟩
  · rw [Block.toList_eq_map_byte]
    apply List.map_congr_left
    intro j hj
    exact byte_foldKey raw (List.mem_range.mp hj)
  · rw [foldKey_append ha, Block.toList_xor]
  · have hsame := ofRawKey_congr h
    refine ⟨fun padding bytes => by rw [hsame], fun padding plain => by rw [hsame],
      fun plain => ?_, fun plain => ⟨Padding.strip plain, Padding.stripsTo_strip plain, ?_⟩⟩
    · rw [← hsame]
      exact strict_decrypt_encrypt (foldKey raw) plain
    · rw [← hsame]
      exact compat_decrypt_encrypt (foldKey raw) plain

/-- The bytes 97 in the first and in the second block cancel out. -/
theorem key_sums_material_wrapped :
    foldKey [0, 98] = foldKey ([97, 98] ++ List.replicate 14 0 ++ [97]) ∧
    (ofRawKey [0, 98] .strict).decrypt
      ((ofRawKey ([97, 98] ++ List.replicate 14 0 ++ [97]) .strict).encrypt (some [118, 16])) =
        .ok (some [118, 16]) := by
  have hfold : foldKey [0, 98] = foldKey ([97, 98] ++ List.replicate 14 0 ++ [97]) := by
    decide +kernel
  obtain ⟨-, -, -, -, hexchange⟩ := key_sums_material
  exact ⟨hfold, (hexchange _ _ hfold).2.2.1 [118, 16]⟩

end Cipher

end TableGateway
