import TableGateway.Proofs.Number.Spelling

/-!
# Decimal numerals

The digits of a number are read back as the number, also where other text follows them, and
they begin with a zero for zero only.
-/

namespace TableGateway.Text

theorem isDigit_of_mem_digits {c : Char} {n : Nat} (h : c ∈ decimal n) : isDigit c = true := by
  have hdigit : c.isDigit = true := Nat.isDigit_of_mem_toDigits (by decide) (by decide) h
  obtain ⟨hle, hge⟩ := Bool.and_eq_true_iff.mp hdigit
  exact Bool.and_eq_true_iff.mpr ⟨hle, hge⟩

theorem all_isDigit_decimal (n : Nat) : (decimal n).all isDigit = true :=
  List.all_eq_true.mpr fun _ hc => isDigit_of_mem_digits hc

theorem decimal_ne_nil (n : Nat) : decimal n ≠ [] :=
  List.ne_nil_of_length_pos Nat.length_toDigits_pos

theorem ofDigits_decimal (n : Nat) : ofDigits (decimal n) = n :=
  Nat.ofDigitChars_ten_toDigits

theorem natural?_of_digits {ds : List Char} (hne : ds ≠ []) (hdigits : ds.all isDigit = true) :
    natural? ds = some (ofDigits ds) := by
  simp [natural?, hne, hdigits]

theorem natural?_decimal (n : Nat) : natural? (decimal n) = some n := by
  rw [natural?_of_digits (decimal_ne_nil n) (all_isDigit_decimal n), ofDigits_decimal]

theorem spanDigits_decimal_append (n : Nat) {rest : List Char}
    (h : ∀ c ∈ rest.head?, isDigit c = false) :
    spanDigits (decimal n ++ rest) = (decimal n, rest) :=
  spanDigits_append (all_isDigit_decimal n) h

theorem head_decimal_ne_zero {n : Nat} (h : n ≠ 0) : (decimal n).head? ≠ some '0' := by
  induction n using Nat.strongRecOn with
  | ind n ih =>
      by_cases hsmall : n < 10
      · have hall : ∀ m < 10, m ≠ 0 → (decimal m).head? ≠ some '0' := by decide
        exact hall n hsmall h
      · have hsplit : decimal n = decimal (n / 10) ++ [(n % 10).digitChar] :=
          Nat.toDigits_of_base_le (by decide) (by omega)
        rw [hsplit, List.head?_append_of_ne_nil _ (decimal_ne_nil _)]
        exact ih (n / 10) (by omega) (by omega)

end TableGateway.Text
