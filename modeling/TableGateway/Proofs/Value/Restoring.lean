import TableGateway.Proofs.Condition.Notation
import TableGateway.Proofs.Json.Reading

/-!
# Values from their JSON text

The JSON text of a value carries no tag, and still it is read back as the value.  Only an unsigned
integer in the signed range comes back as the signed integer with the same number, and only these
two share a text.  Binary64 numbers are left aside.
-/

namespace TableGateway

namespace Json

variable {depth : Nat}

theorem readsBack_ofInt {n : Int} (h : -Int.pow 2 63 ≤ n ∧ n < Int.pow 2 64) :
    ReadsBack depth (.number (.ofInt n)) := by
  rw [Number.ofInt_of_inRange h]
  exact readsBack_integer n h

end Json

namespace Value

def IsFloat : Value → Prop
  | .float _ => True
  | _ => False

def restored : Value → Value
  | .uint n => if n.toNat < Nat.pow 2 63 then .int (Int64.ofNat n.toNat) else .uint n
  | v => v

/-- Whether these are a signed and an unsigned integer with the same number. -/
def Twins (v w : Value) : Prop :=
  ∃ n m, v = .int n ∧ w = .uint m ∧ n.toInt = m.toNat

theorem inRange_byte (b : UInt8) :
    -Int.pow 2 63 ≤ (b.toNat : Int) ∧ (b.toNat : Int) < Int.pow 2 64 := by
  have hfits : 2 ^ 8 ≤ Nat.pow 2 64 := by decide
  exact Json.inRange_natCast (Nat.lt_of_lt_of_le b.toNat_lt hfits)

theorem byteOfJson?_ofNat (b : UInt8) : byteOfJson? (Json.ofNat b.toNat) = some b := by
  have hbyte := b.toNat_lt
  rw [Json.ofNat, Json.Number.ofInt_of_inRange (inRange_byte b), byteOfJson?, if_pos (by omega),
    Int.toNat_natCast, UInt8.ofNat_toNat]

theorem mapM_byteOfJson? (bytes : List UInt8) :
    (bytes.map fun b => Json.ofNat b.toNat).mapM byteOfJson? = some bytes := by
  induction bytes with
  | nil => rfl
  | cons b bytes ih =>
      rw [List.map_cons, List.mapM_cons, byteOfJson?_ofNat, ih]
      rfl

theorem readsBack_toJson {v : Value} (h : ¬ v.IsFloat) :
    Json.ReadsBack Json.depthLimit v.toJson := by
  cases v with
  | null => exact Json.readsBack_null
  | bool b => exact Json.readsBack_bool b
  | int n => exact Json.readsBack_ofInt (Json.inRange_toInt n)
  | uint n => exact Json.readsBack_ofInt (Json.inRange_natCast n.toNat_lt)
  | float x => exact absurd trivial h
  | text s => exact Json.readsBack_string s
  | bytes b =>
      refine Json.readsBack_array (by decide) fun j hj => ?_
      obtain ⟨x, -, rfl⟩ := List.mem_map.mp hj
      exact Json.readsBack_ofInt (inRange_byte x)

theorem ofNumber_ofInt_natCast (n : UInt64) :
    ofNumber (.ofInt n.toNat) = restored (.uint n) := by
  rw [restored]
  by_cases hsigned : n.toNat < Nat.pow 2 63
  · have hlt : (n.toNat : Int) < Int.pow 2 63 := Int.ofNat_lt.mpr hsigned
    rw [if_pos hsigned, Json.Number.ofInt_of_inRange (Json.inRange_natCast n.toNat_lt), ofNumber,
      if_pos hlt]
    rfl
  · rw [if_neg hsigned]
    exact (ofNumber_ofInt_uint n).mpr (Nat.le_of_not_lt hsigned)

theorem readJson?_toJson {v : Value} (h : ¬ v.IsFloat) : readJson? v.toJson = some v.restored := by
  cases v with
  | null => rfl
  | bool b => rfl
  | int n => exact congrArg some (ofNumber_ofInt_int n)
  | uint n => exact congrArg some (ofNumber_ofInt_natCast n)
  | float x => exact absurd trivial h
  | text s => rfl
  | bytes b => exact congrArg (Option.map Value.bytes) (mapM_byteOfJson? b)

theorem ofJsonText?_toJsonText {v : Value} (h : ¬ v.IsFloat) :
    ofJsonText? v.toJsonText = some v.restored := by
  rw [ofJsonText?, toJsonText, Json.compact, String.toList_ofList,
    Json.readAll_chars (readsBack_toJson h)]
  exact readJson?_toJson h

theorem twins_restored {n : UInt64} (h : n.toNat < Nat.pow 2 63) :
    Twins (restored (.uint n)) (.uint n) :=
  ⟨Int64.ofNat n.toNat, n, if_pos h, rfl, Int64.toInt_ofNat_of_lt h⟩

theorem restored_cases (v : Value) : v.restored = v ∨ Twins v.restored v := by
  cases v with
  | uint n =>
      by_cases hsigned : n.toNat < Nat.pow 2 63
      · exact .inr (twins_restored hsigned)
      · exact .inl (if_neg hsigned)
  | _ => exact .inl rfl

theorem restored_ne_iff (v : Value) :
    v.restored ≠ v ↔ ∃ n : UInt64, v = .uint n ∧ n.toNat < Nat.pow 2 63 := by
  cases v with
  | uint n =>
      by_cases hsigned : n.toNat < Nat.pow 2 63
      · simp [restored, hsigned]
      · simp only [restored, hsigned, if_false, ne_eq, not_true_eq_false, false_iff]
        rintro ⟨m, heq, hm⟩
        cases heq
        exact hsigned hm
  | _ => simp [restored]

theorem twins_right_unique {u v w : Value} (hv : Twins u v) (hw : Twins u w) : v = w := by
  obtain ⟨n, m, rfl, rfl, hm⟩ := hv
  obtain ⟨n', m', heq, rfl, hm'⟩ := hw
  cases heq
  exact congrArg Value.uint (UInt64.toNat_inj.mp (by omega))

theorem toJsonText_of_twins {v w : Value} (h : Twins v w) : v.toJsonText = w.toJsonText := by
  obtain ⟨n, m, rfl, rfl, heq⟩ := h
  rw [toJsonText, toJsonText, toJson, toJson, heq]

theorem toJsonText_eq_iff {v w : Value} (hv : ¬ v.IsFloat) (hw : ¬ w.IsFloat) :
    v.toJsonText = w.toJsonText ↔ v = w ∨ Twins v w ∨ Twins w v := by
  constructor
  · intro h
    have hrestored : v.restored = w.restored := by
      have hread := ofJsonText?_toJsonText hv
      rw [h, ofJsonText?_toJsonText hw] at hread
      exact (Option.some.inj hread).symm
    rcases restored_cases v with hv' | hv' <;> rcases restored_cases w with hw' | hw'
    · exact .inl (by rw [← hv', ← hw', hrestored])
    · exact .inr (.inl (by rwa [← hrestored, hv'] at hw'))
    · exact .inr (.inr (by rwa [hrestored, hw'] at hv'))
    · exact .inl (twins_right_unique hv' (hrestored ▸ hw'))
  · rintro (rfl | h | h)
    · rfl
    · exact toJsonText_of_twins h
    · exact (toJsonText_of_twins h).symm

/-- A value is read from its text, up to the sign of an integer's type, and its text is that of no
other value but its twin. -/
theorem text_restores_value {v w : Value} (hv : ¬ v.IsFloat) (hw : ¬ w.IsFloat) :
    ofJsonText? v.toJsonText = some v.restored ∧
    (v.restored ≠ v ↔ ∃ n : UInt64, v = .uint n ∧ n.toNat < Nat.pow 2 63) ∧
    (v.restored = v ∨ Twins v.restored v) ∧
    (v.toJsonText = w.toJsonText ↔ v = w ∨ Twins v w ∨ Twins w v) :=
  ⟨ofJsonText?_toJsonText hv, restored_ne_iff v, restored_cases v, toJsonText_eq_iff hv hw⟩

theorem text_restores_value_seven :
    ofJsonText? (uint 7).toJsonText = some (.int 7) ∧ (uint 7).toJsonText = (int 7).toJsonText := by
  obtain ⟨hread, -, -, htext⟩ := text_restores_value (v := .uint 7) (w := .int 7) id id
  exact ⟨hread, htext.mpr (.inr (.inr ⟨7, 7, rfl, rfl, rfl⟩))⟩

end Value

end TableGateway
