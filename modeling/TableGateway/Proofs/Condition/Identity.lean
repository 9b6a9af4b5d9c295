import TableGateway.Condition.Grammar
import TableGateway.Proofs.Number.Magnitude
import TableGateway.Proofs.Number.Numeral

/-!
# Integers as identities

A text that is an integer asks for the row with that `id`.  An integer of the signed range is
bound as itself, and a greater one as its digits.  One that lies below the range is bound as
the nearest number: its digits are lost, and it may ask for another row.
-/

namespace TableGateway

namespace Text

theorem integer?_of_digits {ds : List Char} (hne : ds ≠ []) (hdigits : ds.all isDigit = true) :
    integer? ds = some (ofDigits ds : Int) := by
  have hminus : ∀ rest, ds ≠ '-' :: rest := by
    rintro rest rfl
    simp [isDigit] at hdigits
  rw [integer?.eq_def]
  split
  · rename_i rest
    exact absurd rfl (hminus rest)
  · rw [natural?_of_digits hne hdigits]
    rfl

theorem integer?_of_minus {ds : List Char} (hne : ds ≠ []) (hdigits : ds.all isDigit = true) :
    integer? ('-' :: ds) = some (-(ofDigits ds : Int)) := by
  rw [integer?, natural?_of_digits hne hdigits]
  rfl

end Text

def Value.integer? : Value → Option Int
  | .int n => some n.toInt
  | .uint n => some n.toNat
  | .float x => x.toInt?
  | .text s => Text.integer? s.toList
  | _ => none

namespace Literal

def ofInteger (sign : Option Char) (digits : List Char) : Literal :=
  ⟨sign, digits, none, none⟩

def unplussed (l : Literal) : List Char :=
  if l.negative then '-' :: l.whole else l.whole

variable {sign : Option Char} {digits : List Char}

theorem wellFormed_ofInteger (hsign : IsSign sign) (hne : digits ≠ [])
    (hdigits : digits.all Text.isDigit = true) : (ofInteger sign digits).WellFormed where
  sign := hsign
  whole := hdigits
  fraction := by simp [ofInteger]
  nonempty := .inl hne
  exponent := by simp [ofInteger]

theorem chars_ofInteger (mark : Char) :
    (ofInteger sign digits).chars mark = sign.toList ++ digits := by
  simp [chars, ofInteger, fractionChars, exponentChars]

theorem toInt_of_negative {l : Literal} (h : l.negative = true) :
    l.toInt = -(Text.ofDigits l.whole : Int) := by
  rw [toInt, if_pos h]

theorem toInt_of_not_negative {l : Literal} (h : l.negative = false) :
    l.toInt = Text.ofDigits l.whole := by
  rw [toInt, if_neg (by simp [h])]

theorem integer?_unplussed (hne : digits ≠ []) (hdigits : digits.all Text.isDigit = true) :
    Text.integer? (ofInteger sign digits).unplussed = some (ofInteger sign digits).toInt := by
  cases hnegative : (ofInteger sign digits).negative with
  | false =>
      rw [unplussed, toInt_of_not_negative hnegative, if_neg (by simp [hnegative])]
      exact Text.integer?_of_digits hne hdigits
  | true =>
      rw [unplussed, toInt_of_negative hnegative, if_pos hnegative]
      exact Text.integer?_of_minus hne hdigits

theorem toFloat_ofInteger :
    (ofInteger sign digits).toFloat =
      Binary64.ofDecimal (ofInteger sign digits).negative (Text.ofDigits digits) 0 := by
  simp [toFloat, ofInteger, exponentValue]

end Literal

namespace Condition

/-- The value that stands for an integer without loss: the integer itself in the signed
range, and its digits beyond it. -/
def exactId (l : Literal) : Value :=
  if -2 ^ 63 ≤ l.toInt ∧ l.toInt < 2 ^ 63 then .int (Int64.ofInt l.toInt)
  else .text (String.ofList l.unplussed)

variable {sign : Option Char} {digits : List Char}

theorem integer?_exactId (hne : digits ≠ []) (hdigits : digits.all Text.isDigit = true) :
    (exactId (.ofInteger sign digits)).integer? = some (Literal.ofInteger sign digits).toInt := by
  rw [exactId]
  split
  · rename_i hrange
    rw [Value.integer?, Int64.toInt_ofInt_of_le hrange.1 hrange.2]
  · rw [Value.integer?, String.toList_ofList, Literal.integer?_unplussed hne hdigits]

theorem idOfFloat_of_natAbs {x : Binary64}
    (h : ∀ k, x.toInt? = some k → 2 ^ 63 ≤ k.natAbs) : idOfFloat x = .float x := by
  have hpow : Nat.pow 2 63 = 2 ^ 63 := rfl
  rw [idOfFloat]
  split
  · rename_i k hk
    rw [if_neg]
    have hsize := h k hk
    omega
  · rfl

theorem idOfLiteral_ofInteger (sign : Option Char) (digits : List Char) :
    idOfLiteral (.ofInteger sign digits) =
      if -2 ^ 63 ≤ (Literal.ofInteger sign digits).toInt ∧
          (Literal.ofInteger sign digits).toInt < 2 ^ 63 then
        .int (Int64.ofInt (Literal.ofInteger sign digits).toInt)
      else if (Literal.ofInteger sign digits).negative then
        idOfFloat (Literal.ofInteger sign digits).toFloat
      else .text (String.ofList digits) := by
  have hinteger : (Literal.ofInteger sign digits).isInteger = true := rfl
  have hpow : Int.pow 2 63 = 2 ^ 63 := rfl
  simp only [idOfLiteral, hinteger, hpow, Bool.true_and, Bool.and_eq_true, decide_eq_true_eq]
  split
  · rfl
  · cases (Literal.ofInteger sign digits).negative <;> rfl

theorem idOfLiteral_of_le (h : -2 ^ 63 ≤ (Literal.ofInteger sign digits).toInt) :
    idOfLiteral (.ofInteger sign digits) = exactId (.ofInteger sign digits) := by
  rw [idOfLiteral_ofInteger, exactId]
  split
  · rfl
  · rename_i hbeyond
    cases hnegative : (Literal.ofInteger sign digits).negative with
    | false =>
        rw [Literal.unplussed, hnegative]
        rfl
    | true =>
        rw [Literal.toInt_of_negative hnegative] at h hbeyond
        omega

theorem idOfLiteral_of_lt (h : (Literal.ofInteger sign digits).toInt < -2 ^ 63) :
    idOfLiteral (.ofInteger sign digits) =
      .float (Binary64.ofDecimal true (Text.ofDigits digits) 0) := by
  rw [idOfLiteral_ofInteger, if_neg (by omega)]
  cases hnegative : (Literal.ofInteger sign digits).negative with
  | false =>
      rw [Literal.toInt_of_not_negative hnegative] at h
      omega
  | true =>
      rw [Literal.toInt_of_negative hnegative] at h
      have hsize : 2 ^ 63 ≤ Text.ofDigits digits := by
        have hwhole : (Literal.ofInteger sign digits).whole = digits := rfl
        rw [hwhole] at h
        omega
      rw [if_pos rfl, Literal.toFloat_ofInteger, hnegative]
      exact idOfFloat_of_natAbs fun k hk => Binary64.le_natAbs_ofDecimal hsize hk

theorem parse_of_integer {s : String} (hsign : Literal.IsSign sign) (hne : digits ≠ [])
    (hdigits : digits.all Text.isDigit = true)
    (htrim : Text.trim s.toList = sign.toList ++ digits) :
    parse (.string s) = .ok (hasId (idOfLiteral (.ofInteger sign digits))) := by
  have hmark : Literal.IsMark 'e' := .inl rfl
  have hread := Literal.ofChars?_chars (Literal.wellFormed_ofInteger hsign hne hdigits) hmark
  rw [Literal.chars_ofInteger] at hread
  rw [parse, ofText, htrim, hread]

/-- A text that is an integer is bound without loss exactly if the integer does not lie below
the signed range.  If it does, the nearest number is bound. -/
theorem parse_integer_text {s : String} (hsign : Literal.IsSign sign) (hne : digits ≠ [])
    (hdigits : digits.all Text.isDigit = true)
    (htrim : Text.trim s.toList = sign.toList ++ digits) :
    (exactId (.ofInteger sign digits)).integer? = some (Literal.ofInteger sign digits).toInt ∧
    (parse (.string s) = .ok (hasId (exactId (.ofInteger sign digits))) ↔
      -2 ^ 63 ≤ (Literal.ofInteger sign digits).toInt) ∧
    ((Literal.ofInteger sign digits).toInt < -2 ^ 63 →
      parse (.string s) = .ok (hasId (.float (.ofDecimal true (Text.ofDigits digits) 0)))) := by
  have hparse := parse_of_integer hsign hne hdigits htrim
  have hbelow : (Literal.ofInteger sign digits).toInt < -2 ^ 63 →
      parse (.string s) = .ok (hasId (.float (.ofDecimal true (Text.ofDigits digits) 0))) := by
    intro h
    rw [hparse, idOfLiteral_of_lt h]
  refine ⟨integer?_exactId hne hdigits, ?_, hbelow⟩
  constructor
  · intro hexact
    by_contra h
    rw [hbelow (by omega), exactId, if_neg (by omega)] at hexact
    simp [hasId, equals] at hexact
  · intro h
    rw [hparse, idOfLiteral_of_le h]

theorem parse_integer_text_padded :
    Text.trim " +0099999999999999999999\n".toList =
        (some '+').toList ++ "0099999999999999999999".toList ∧
      parse (.string " +0099999999999999999999\n") =
        .ok (hasId (.text "0099999999999999999999")) := by
  have htrim : Text.trim " +0099999999999999999999\n".toList =
      (some '+').toList ++ "0099999999999999999999".toList := by decide
  have hexact : exactId (.ofInteger (some '+') "0099999999999999999999".toList) =
      .text "0099999999999999999999" := by decide +kernel
  have hsign : Literal.IsSign (some '+') := by simp [Literal.IsSign]
  obtain ⟨-, hparse, -⟩ := parse_integer_text hsign (by decide) (by decide) htrim
  rw [hexact] at hparse
  exact ⟨htrim, hparse.mpr (by decide +kernel)⟩

/-- The integer right below the signed range is bound as the one above it. -/
theorem parse_below_range :
    parse (.string "-9223372036854775809") = .ok (hasId (.float ⟨0xc3e0000000000000⟩)) ∧
      exactId (.ofInteger (some '-') "9223372036854775809".toList) = .text "-9223372036854775809" ∧
      (Literal.ofInteger (some '-') "9223372036854775809".toList).toInt = -9223372036854775809 ∧
      (Value.float ⟨0xc3e0000000000000⟩).integer? = some (-9223372036854775808) := by
  have hvalue : idOfLiteral (.ofInteger (some '-') "9223372036854775809".toList) =
      .float ⟨0xc3e0000000000000⟩ := by decide +kernel
  refine ⟨?_, by decide +kernel, by decide +kernel, by decide +kernel⟩
  rw [← hvalue]
  exact parse_of_integer (by simp [Literal.IsSign]) (by decide) (by decide) (by decide)

end Condition

end TableGateway
