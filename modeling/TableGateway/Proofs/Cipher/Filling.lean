import TableGateway.Proofs.Cipher.Blocks
import TableGateway.Proofs.Cipher.Inverse

/-!
# Fillings

A filling states its own length, so a filled plaintext is taken apart in one way only.  The
strict cipher therefore decrypts to a plaintext exactly what that plaintext is encrypted
to, and refuses everything else.
-/

namespace TableGateway

namespace Padding

theorem one_le_count (length : Nat) : 1 ≤ count length := by
  unfold count Block.size
  omega

theorem count_le (length : Nat) : count length ≤ Block.size :=
  Nat.sub_le _ _

theorem toNat_ofNat_count (length : Nat) :
    (UInt8.ofNat (count length)).toNat = count length := by
  have hle := count_le length
  unfold Block.size at hle
  rw [UInt8.toNat_ofNat']
  omega

theorem length_add (plain : List UInt8) :
    (add plain).length = plain.length + count plain.length := by
  rw [add, List.length_append, List.length_replicate]

theorem length_add_mod (plain : List UInt8) : (add plain).length % Block.size = 0 := by
  rw [length_add]
  unfold count Block.size
  omega

theorem whole_add (plain : List UInt8) : Whole (add plain) :=
  whole_of_length (length_add_mod plain)

theorem getLast?_add (plain : List UInt8) :
    (add plain).getLast? = some (UInt8.ofNat (count plain.length)) := by
  have hpos := one_le_count plain.length
  rw [add, List.getLast?_append, List.getLast?_replicate, if_neg (by omega)]
  rfl

theorem check?_add (plain : List UInt8) : check? (add plain) = some plain := by
  have hfilled : (List.replicate (count plain.length) (UInt8.ofNat (count plain.length))).all
      (·.toNat == count plain.length) = true := by
    rw [List.all_eq_true]
    intro b hb
    rw [List.eq_of_mem_replicate hb, toNat_ofNat_count, beq_self_eq_true]
  rw [check?, getLast?_add, Option.getD_some, toNat_ofNat_count, length_add, Nat.add_sub_cancel,
    add, List.drop_left, List.take_left, hfilled]
  simp [one_le_count, count_le]

theorem exists_of_check? {bytes plain : List UInt8} (h : check? bytes = some plain) :
    ∃ n, 1 ≤ n ∧ n ≤ Block.size ∧ n ≤ bytes.length ∧ bytes.take (bytes.length - n) = plain ∧
      bytes.drop (bytes.length - n) = List.replicate n (UInt8.ofNat n) := by
  rw [check?] at h
  split at h
  case isTrue hfilled =>
    simp only [Bool.and_eq_true, decide_eq_true_eq, List.all_eq_true, beq_iff_eq] at hfilled
    obtain ⟨⟨⟨hpos, hle⟩, hlength⟩, hall⟩ := hfilled
    refine ⟨_, hpos, hle, hlength, Option.some.inj h, ?_⟩
    rw [List.eq_replicate_iff]
    refine ⟨by rw [List.length_drop]; omega, fun b hb => ?_⟩
    rw [← hall b hb, UInt8.ofNat_toNat]
  case isFalse => contradiction

theorem add_of_check? {bytes plain : List UInt8} (hwhole : bytes.length % Block.size = 0)
    (h : check? bytes = some plain) : add plain = bytes := by
  obtain ⟨n, hpos, hle, hlength, rfl, hfilling⟩ := exists_of_check? h
  have hcount : count (bytes.take (bytes.length - n)).length = n := by
    rw [List.length_take, count]
    unfold Block.size at *
    omega
  rw [add, hcount, ← hfilling, List.take_append_drop]

end Padding

namespace Cipher

variable {c : Cipher} {key : Block} {bytes plain : List UInt8}

def strict (key : Block) : Cipher :=
  ⟨key, .strict⟩

theorem decryptBytes_of_length (h : bytes = [] ∨ bytes.length % Block.size ≠ 0) :
    c.decryptBytes bytes = .error (.cipher (.length bytes.length)) := by
  rw [decryptBytes, if_pos]
  simpa [List.isEmpty_iff] using h

theorem decryptBytes_of_whole (hne : bytes ≠ []) (h : bytes.length % Block.size = 0) :
    c.decryptBytes bytes = c.padding.remove (mapBlocks (Aes.decrypt c.key) bytes) := by
  rw [decryptBytes, if_neg]
  simp [List.isEmpty_iff, hne, h]

theorem encryptBytes_ne_nil (c : Cipher) (plain : List UInt8) : c.encryptBytes plain ≠ [] := by
  intro h
  have hlength := length_mapBlocks (Aes.encrypt c.key) (Padding.whole_add plain)
  rw [← encryptBytes, h, Padding.length_add, List.length_nil] at hlength
  have hpos := Padding.one_le_count plain.length
  omega

theorem length_encryptBytes_mod (c : Cipher) (plain : List UInt8) :
    (c.encryptBytes plain).length % Block.size = 0 := by
  rw [encryptBytes, length_mapBlocks _ (Padding.whole_add plain), Padding.length_add_mod]

theorem mapBlocks_encryptBytes (c : Cipher) (plain : List UInt8) :
    mapBlocks (Aes.decrypt c.key) (c.encryptBytes plain) = Padding.add plain :=
  mapBlocks_mapBlocks (Aes.decrypt_encrypt c.key) (Padding.whole_add plain)

theorem decryptBytes_encryptBytes (c : Cipher) (plain : List UInt8) :
    c.decryptBytes (c.encryptBytes plain) = c.padding.remove (Padding.add plain) := by
  rw [decryptBytes_of_whole (encryptBytes_ne_nil c plain) (length_encryptBytes_mod c plain),
    mapBlocks_encryptBytes]

theorem strict_decryptBytes_eq_ok_iff :
    (strict key).decryptBytes bytes = .ok plain ↔ (strict key).encryptBytes plain = bytes := by
  constructor
  · intro h
    by_cases hlength : bytes = [] ∨ bytes.length % Block.size ≠ 0
    · rw [decryptBytes_of_length hlength] at h
      contradiction
    · rw [not_or, not_not] at hlength
      obtain ⟨hne, hmod⟩ := hlength
      have hwhole := whole_of_length hmod
      rw [decryptBytes_of_whole hne hmod, strict, Padding.remove] at h
      split at h
      case h_1 found hcheck =>
        cases h
        have hadd := Padding.add_of_check? (by rw [length_mapBlocks _ hwhole, hmod]) hcheck
        rw [encryptBytes, hadd, strict, mapBlocks_mapBlocks (Aes.encrypt_decrypt key) hwhole]
      case h_2 => contradiction
  · rintro rfl
    rw [decryptBytes_encryptBytes, strict, Padding.remove, Padding.check?_add]

theorem strict_decryptBytes_cases (key : Block) (bytes : List UInt8) :
    (∃ plain, (strict key).decryptBytes bytes = .ok plain) ∨
      ∃ fault, (strict key).decryptBytes bytes = .error (.cipher fault) := by
  rw [decryptBytes]
  split
  · exact .inr ⟨_, rfl⟩
  · rw [strict, Padding.remove]
    split
    · exact .inl ⟨_, rfl⟩
    · exact .inr ⟨_, rfl⟩

/-- A filling that could be valid is no longer than what was decrypted. -/
theorem le_length_mapBlocks (f : Block → Block) (hne : bytes ≠ [])
    (h : bytes.length % Block.size = 0) {n : Nat} (hn : n ≤ Block.size) :
    n ≤ (mapBlocks f bytes).length := by
  rw [length_mapBlocks f (whole_of_length h)]
  have hpos := List.length_pos_of_ne_nil hne
  have hsize := Nat.le_of_dvd hpos (Nat.dvd_of_mod_eq_zero h)
  omega

/-- Strict decryption gives a plaintext exactly for what the plaintext is encrypted to.  It
refuses everything else, and never looks for a filling in front of the bytes. -/
theorem strict_decrypt_eq_ok_iff (key : Block) :
    (∀ bytes plain, (strict key).decrypt (some bytes) = .ok (some plain) ↔
      (strict key).encrypt (some plain) = some bytes) ∧
    (∀ plain, (strict key).decrypt ((strict key).encrypt (some plain)) = .ok (some plain)) ∧
    (∀ bytes, bytes = [] ∨ bytes.length % Block.size ≠ 0 →
      (strict key).decrypt (some bytes) = .error (.cipher (.length bytes.length))) ∧
    (∀ bytes, (∀ plain, (strict key).encrypt (some plain) ≠ some bytes) →
      ∃ fault, (strict key).decrypt (some bytes) = .error (.cipher fault)) ∧
    (∀ bytes, bytes ≠ [] → bytes.length % Block.size = 0 →
      let buffer := mapBlocks (Aes.decrypt key) bytes
      let filling := (buffer.getLast?.getD 0).toNat
      filling ≤ Block.size → filling ≤ buffer.length) := by
  have hcodec : ∀ bytes plain, (strict key).decrypt (some bytes) = .ok (some plain) ↔
      (strict key).encrypt (some plain) = some bytes := by
    intro bytes plain
    rw [encrypt, Option.map_some, Option.some.injEq, ← strict_decryptBytes_eq_ok_iff, decrypt]
    cases (strict key).decryptBytes bytes <;> simp [Except.map]
  refine ⟨hcodec, fun plain => (hcodec _ plain).mpr rfl, ?_, ?_, ?_⟩
  · intro bytes h
    rw [decrypt, decryptBytes_of_length h]
    rfl
  · intro bytes h
    rcases strict_decryptBytes_cases key bytes with ⟨plain, hplain⟩ | ⟨fault, hfault⟩
    · refine absurd ((hcodec bytes plain).mp ?_) (h plain)
      rw [decrypt, hplain]
      rfl
    · refine ⟨fault, ?_⟩
      rw [decrypt, hfault]
      rfl
  · intro bytes hne h buffer filling hle
    exact le_length_mapBlocks _ hne h hle

end Cipher

end TableGateway
