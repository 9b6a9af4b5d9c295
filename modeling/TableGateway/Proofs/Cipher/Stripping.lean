import Mathlib.Data.List.DropRight
import TableGateway.Proofs.Cipher.Filling

/-!
# Stripping

The compatible cipher knows nothing of fillings.  It strips bytes up to sixteen from the end,
and a filling consists of such bytes, so it goes as a whole.  With it go the bytes of the
plaintext that happen to be as low, and no others.
-/

namespace TableGateway

namespace Padding

/-- The longest end of a list in which all bytes are at most sixteen. -/
structure LowEnd (low bytes : List UInt8) : Prop where
  suffix : low <:+ bytes
  le : ∀ b ∈ low, b ≤ 16
  longest : ∀ other, other <:+ bytes → (∀ b ∈ other, b ≤ 16) → other.length ≤ low.length

def StripsTo (bytes rest : List UInt8) : Prop :=
  ∃ low, rest ++ low = bytes ∧ LowEnd low bytes

/-! ## One byte after the other -/

theorem lowEnd_nil : LowEnd [] [] where
  suffix := List.suffix_rfl
  le := by simp
  longest := by
    intro other hother _
    simp [List.suffix_nil.mp hother]

theorem LowEnd.concat {low bytes : List UInt8} {b : UInt8} (h : LowEnd low bytes) (hb : b ≤ 16) :
    LowEnd (low ++ [b]) (bytes ++ [b]) where
  suffix := List.suffix_append_self_iff.mpr h.suffix
  le := by simpa [or_imp, forall_and] using And.intro h.le hb
  longest := by
    intro other hother hle
    rcases List.suffix_concat_iff.mp hother with rfl | ⟨other, rfl, hsuffix⟩
    · simp
    · have hlength := h.longest other hsuffix fun d hd => hle d (by simp [hd])
      simpa using hlength

theorem lowEnd_concat_of_lt {b : UInt8} (hb : 16 < b) (bytes : List UInt8) :
    LowEnd [] (bytes ++ [b]) where
  suffix := List.nil_suffix
  le := by simp
  longest := by
    intro other hother hle
    rcases List.suffix_concat_iff.mp hother with rfl | ⟨other, rfl, -⟩
    · simp
    · exact absurd (hle b (by simp)) (UInt8.not_le.mpr hb)

theorem strip_eq_rdropWhile (bytes : List UInt8) : strip bytes = bytes.rdropWhile (· ≤ 16) :=
  rfl

theorem strip_concat (bytes : List UInt8) (b : UInt8) :
    strip (bytes ++ [b]) = if b ≤ 16 then strip bytes else bytes ++ [b] := by
  simp only [strip_eq_rdropWhile, List.rdropWhile_concat, decide_eq_true_eq]

theorem stripsTo_strip (bytes : List UInt8) : StripsTo bytes (strip bytes) := by
  -- The last byte goes first, so the induction is from the end.
  induction bytes using List.reverseRecOn with
  | nil => exact ⟨[], rfl, lowEnd_nil⟩
  | append_singleton bytes b ih =>
      rw [strip_concat]
      split
      · rename_i hb
        obtain ⟨low, hsplit, hlow⟩ := ih
        exact ⟨low ++ [b], by rw [← List.append_assoc, hsplit], hlow.concat hb⟩
      · rename_i hb
        exact ⟨[], List.append_nil _, lowEnd_concat_of_lt (UInt8.not_le.mp hb) bytes⟩

theorem strip_append_low {low : List UInt8} (h : ∀ b ∈ low, b ≤ 16) (bytes : List UInt8) :
    strip (bytes ++ low) = strip bytes := by
  induction low using List.reverseRecOn with
  | nil => simp
  | append_singleton low b ih =>
      rw [← List.append_assoc, strip_concat, if_pos (h b (by simp))]
      apply ih
      intro d hd
      exact h d (by simp [hd])

theorem strip_eq_self_iff {bytes : List UInt8} :
    strip bytes = bytes ↔ bytes = [] ∨ ∃ b ∈ bytes.getLast?, 16 < b := by
  rw [strip_eq_rdropWhile, List.rdropWhile_eq_self_iff]
  by_cases hnil : bytes = []
  · simp [hnil]
  · simp [hnil, List.getLast?_eq_some_getLast hnil]

theorem strip_add (plain : List UInt8) : strip (add plain) = strip plain := by
  apply strip_append_low
  intro b hb
  have hcount := toNat_ofNat_count plain.length
  have hle := count_le plain.length
  rw [List.eq_of_mem_replicate hb, UInt8.le_iff_toNat_le, hcount]
  exact hle

end Padding

namespace Cipher

variable {key : Block} {bytes plain : List UInt8}

def compat (key : Block) : Cipher :=
  ⟨key, .compat⟩

theorem compat_decryptBytes_of_whole (hne : bytes ≠ []) (h : bytes.length % Block.size = 0) :
    (compat key).decryptBytes bytes =
      .ok (Padding.strip (mapBlocks (Aes.decrypt key) bytes)) :=
  decryptBytes_of_whole hne h

theorem exists_compat_decryptBytes_iff :
    (∃ plain, (compat key).decryptBytes bytes = .ok plain) ↔
      0 < bytes.length ∧ bytes.length % Block.size = 0 := by
  constructor
  · rintro ⟨plain, hplain⟩
    by_contra hlength
    rw [decryptBytes_of_length] at hplain
    · contradiction
    · by_cases hnil : bytes = []
      · exact .inl hnil
      · exact .inr fun h => hlength ⟨List.length_pos_of_ne_nil hnil, h⟩
  · rintro ⟨hpos, h⟩
    exact ⟨_, compat_decryptBytes_of_whole (List.ne_nil_of_length_pos hpos) h⟩

theorem compat_decryptBytes_encryptBytes (key : Block) (plain : List UInt8) :
    (compat key).decryptBytes ((compat key).encryptBytes plain) = .ok (Padding.strip plain) := by
  rw [decryptBytes_encryptBytes, ← Padding.strip_add]
  rfl

theorem compat_decryptBytes_of_strict (h : (strict key).decryptBytes bytes = .ok plain) :
    (compat key).decryptBytes bytes = .ok (Padding.strip plain) := by
  have hencrypted : (compat key).encryptBytes plain = bytes := strict_decryptBytes_eq_ok_iff.mp h
  rw [← hencrypted, compat_decryptBytes_encryptBytes]

theorem decrypt_some_eq_ok_iff {c : Cipher} :
    c.decrypt (some bytes) = .ok (some plain) ↔ c.decryptBytes bytes = .ok plain := by
  rw [decrypt]
  cases c.decryptBytes bytes <;> simp [Except.map]

/-- Compatible decryption takes every list of whole blocks but the empty one.  Of an encrypted
plaintext it gives back all but the longest low end, and this is also what it makes of
whatever the strict cipher decrypts. -/
theorem compat_decrypt_strips (key : Block) :
    (∀ bytes, (∃ plain, (compat key).decrypt (some bytes) = .ok (some plain)) ↔
      0 < bytes.length ∧ bytes.length % Block.size = 0) ∧
    (∀ plain, ∃ rest, Padding.StripsTo plain rest ∧
      (compat key).decrypt ((compat key).encrypt (some plain)) = .ok (some rest)) ∧
    (∀ plain, (compat key).decrypt ((compat key).encrypt (some plain)) = .ok (some plain) ↔
      plain = [] ∨ ∃ b ∈ plain.getLast?, 16 < b) ∧
    (∀ bytes plain, (strict key).decrypt (some bytes) = .ok (some plain) →
      ∃ rest, Padding.StripsTo plain rest ∧
        (compat key).decrypt (some bytes) = .ok (some rest)) := by
  have hencrypt : ∀ plain, (compat key).encrypt (some plain) =
      some ((compat key).encryptBytes plain) := fun plain => rfl
  simp only [hencrypt, decrypt_some_eq_ok_iff, compat_decryptBytes_encryptBytes]
  refine ⟨fun bytes => exists_compat_decryptBytes_iff, ?_, ?_, ?_⟩
  · intro plain
    exact ⟨Padding.strip plain, Padding.stripsTo_strip plain, rfl⟩
  · intro plain
    rw [Except.ok.injEq, Padding.strip_eq_self_iff]
  · intro bytes plain h
    exact ⟨Padding.strip plain, Padding.stripsTo_strip plain, compat_decryptBytes_of_strict h⟩

end Cipher

end TableGateway
