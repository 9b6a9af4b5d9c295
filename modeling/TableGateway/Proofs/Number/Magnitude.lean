import Mathlib.Algebra.Group.Int.Defs
import Mathlib.Algebra.Group.Nat.Defs
import TableGateway.Number.Literal

/-!
# Magnitudes of rounded integers

Rounding an integer of sixty-four bits or more to the nearest binary64 number leaves it in
its binade or moves it up to the next one.  So the number that comes out is no integer of
the signed range.
-/

namespace TableGateway.Binary64

theorem toNat_ofMagnitude (negative : Bool) {magnitude : Nat} (h : magnitude < 2 ^ 63) :
    (ofMagnitude negative magnitude).bits.toNat = (if negative then 2 ^ 63 else 0) + magnitude := by
  have hpow : Nat.pow 2 63 = 2 ^ 63 := rfl
  rw [ofMagnitude, UInt64.toNat_ofNat', hpow, Nat.mod_eq_of_lt]
  cases negative <;> simp <;> omega

theorem exponentField_ofMagnitude (negative : Bool) {magnitude : Nat} (h : magnitude < 2 ^ 63) :
    (ofMagnitude negative magnitude).exponentField = magnitude / 2 ^ 52 := by
  have hlow : Nat.pow 2 52 = 2 ^ 52 := rfl
  have hhigh : Nat.pow 2 11 = 2 ^ 11 := rfl
  rw [exponentField, toNat_ofMagnitude negative h, hlow, hhigh]
  cases negative <;> simp <;> omega

theorem le_natAbs_of_toInt? {x : Binary64} (h : 1086 ≤ x.exponentField) {k : Int}
    (hk : x.toInt? = some k) : 2 ^ 63 ≤ k.natAbs := by
  have hscale : 11 ≤ x.scale := by
    rw [scale]
    omega
  have hsignificand : 2 ^ 52 ≤ x.significand := by
    rw [significand, if_neg (by omega)]
    exact Nat.le_add_right _ _
  have hsize : 2 ^ 63 ≤ x.significand * Nat.pow 2 x.scale.toNat := by
    have hpow : 2 ^ 11 ≤ Nat.pow 2 x.scale.toNat :=
      Nat.pow_le_pow_right (by decide) (by omega)
    calc 2 ^ 63 = 2 ^ 52 * 2 ^ 11 := by decide
      _ ≤ x.significand * Nat.pow 2 x.scale.toNat := Nat.mul_le_mul hsignificand hpow
  simp only [toInt?] at hk
  rw [if_pos (show 0 ≤ x.scale by omega)] at hk
  split at hk
  · contradiction
  · cases hk
    split <;> omega

theorem floorLog2_one {m : Nat} (h : m ≠ 0) : floorLog2 m 1 = m.log2 := by
  have hle : 2 ^ m.log2 ≤ m := Nat.log2_self_le h
  have hone : Nat.log2 1 = 0 := by decide
  simp [floorLog2, hone, hle]

theorem le_roundHalfEven (num den : Nat) : num / den ≤ roundHalfEven num den := by
  simp only [roundHalfEven]
  split <;> omega

theorem toInt?_infinity (negative : Bool) : (infinity negative).toInt? = none := by
  rw [infinity, toInt?, isFinite, exponentField_ofMagnitude negative (by decide)]
  rfl

theorem le_natAbs_ofRatio {negative : Bool} {m : Nat} (h : 2 ^ 63 ≤ m) {k : Int}
    (hk : (ofRatio negative m 1).toInt? = some k) : 2 ^ 63 ≤ k.natAbs := by
  have hm : m ≠ 0 := by omega
  have hlog : 63 ≤ m.log2 := (Nat.le_log2 hm).mpr h
  have hq : max (floorLog2 m 1 - 52) (-1074) = ((m.log2 - 52 : Nat) : Int) := by
    rw [floorLog2_one hm]
    omega
  have hrounded : 2 ^ 52 ≤ roundHalfEven m (1 * Nat.pow 2 (m.log2 - 52)) := by
    refine Nat.le_trans ?_ (le_roundHalfEven _ _)
    rw [Nat.one_mul, Nat.le_div_iff_mul_le (show 0 < Nat.pow 2 _ from Nat.two_pow_pos _)]
    calc 2 ^ 52 * Nat.pow 2 (m.log2 - 52) = 2 ^ (52 + (m.log2 - 52)) := (Nat.pow_add 2 52 _).symm
      _ = 2 ^ m.log2 := by rw [Nat.add_sub_cancel' (by omega)]
      _ ≤ m := Nat.log2_self_le hm
  simp only [ofRatio, if_neg hm, hq, Int.natCast_nonneg, if_true, Int.toNat_natCast] at hk
  have hlow : Nat.pow 2 52 = 2 ^ 52 := rfl
  have hexponent : ((m.log2 - 52 : Nat) + 1074 : Int).toNat = m.log2 + 1022 := by omega
  rw [hexponent, hlow] at hk
  split at hk
  · rename_i hfinite
    refine le_natAbs_of_toInt? ?_ hk
    rw [exponentField_ofMagnitude negative (by omega), Nat.le_div_iff_mul_le (by decide)]
    have hbinade : 1085 * 2 ^ 52 ≤ (m.log2 + 1022) * 2 ^ 52 := Nat.mul_le_mul_right _ (by omega)
    omega
  · -- Beyond the range there is no integer at all.
    rw [toInt?_infinity] at hk
    contradiction

theorem le_natAbs_ofDecimal {negative : Bool} {m : Nat} (h : 2 ^ 63 ≤ m) {k : Int}
    (hk : (ofDecimal negative m 0).toInt? = some k) : 2 ^ 63 ≤ k.natAbs := by
  rw [ofDecimal, if_neg (by omega)] at hk
  split at hk
  · -- Numbers of so many digits become infinite.
    rw [toInt?_infinity] at hk
    contradiction
  · rw [if_neg (by omega), if_pos (by omega)] at hk
    exact le_natAbs_ofRatio (by simpa using h) hk

end TableGateway.Binary64
