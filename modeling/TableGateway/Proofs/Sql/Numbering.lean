import TableGateway.Proofs.Sql.Lexing
import TableGateway.Sql.Statement

/-!
# Numbered placeholders

A stem followed by a number can stand behind a colon, and the number can be read off
it.  The two stems in use begin differently, so that a placeholder of a condition is
never one of an assignment.
-/

namespace TableGateway

namespace Text

theorem decimal_injective {m n : Nat} (h : decimal m = decimal n) : m = n := by
  have hread := congrArg (fun cs => Nat.ofDigitChars 10 cs 0) h
  simpa only [decimal, Nat.ofDigitChars_ten_toDigits] using hread

theorem isDigit_of_mem_decimal {c : Char} {n : Nat} (h : c ∈ decimal n) : c.isDigit = true :=
  Nat.isDigit_of_mem_toDigits (by decide) (by decide) h

theorem isPlain_of_mem_decimal {c : Char} {n : Nat} (h : c ∈ decimal n) :
    Placeholder.isPlain c = true := by
  have hdigit := isDigit_of_mem_decimal h
  have hne : ∀ d : Char, d.isDigit = false → c ≠ d := by
    rintro d hd rfl
    rw [hdigit] at hd
    contradiction
  simp [Placeholder.isPlain, hne _ (rfl : Char.isDigit '\x27' = false),
    hne _ (rfl : Char.isDigit '\x22' = false),
    hne _ (rfl : Char.isDigit Identifier.quoteMark = false),
    hne _ (rfl : Char.isDigit ':' = false), hne _ (rfl : Char.isDigit '#' = false),
    hne _ (rfl : Char.isDigit '-' = false), hne _ (rfl : Char.isDigit '/' = false)]

theorem isPlainText_decimal (n : Nat) :
    Placeholder.isPlainText (String.ofList (decimal n)) = true := by
  rw [Placeholder.isPlainText, String.toList_ofList, List.all_eq_true]
  exact fun c hc => isPlain_of_mem_decimal hc

end Text

theorem Identifier.isPlaceholderName_append_decimal {stem : String}
    (h : isPlaceholderName stem = true) (n : Nat) :
    isPlaceholderName (stem ++ String.ofList (Text.decimal n)) = true := by
  rw [isPlaceholderName, String.toList_append, String.toList_ofList]
  rw [isPlaceholderName] at h
  cases hchars : stem.toList with
  | nil => simp [hchars] at h
  | cons c cs =>
      rw [hchars] at h
      simp only [Bool.and_eq_true, List.all_eq_true] at h
      simp only [List.cons_append, Bool.and_eq_true, List.all_eq_true, List.mem_append]
      refine ⟨h.1, ?_⟩
      rintro d (hd | hd)
      · exact h.2 d hd
      · simp [isWordPart, Char.isAlphanum, Text.isDigit_of_mem_decimal hd]

theorem append_decimal_injective {stem : String} {m n : Nat}
    (h : stem ++ String.ofList (Text.decimal m) = stem ++ String.ofList (Text.decimal n)) :
    m = n := by
  have hchars := congrArg String.toList h
  rw [String.toList_append, String.toList_append, List.append_cancel_left_eq,
    String.toList_ofList, String.toList_ofList] at hchars
  exact Text.decimal_injective hchars

namespace Condition

theorem isPlaceholderName_numbered (n : Nat) :
    Identifier.isPlaceholderName (numbered n) = true :=
  Identifier.isPlaceholderName_append_decimal (by decide) n

theorem numbered_injective {m n : Nat} (h : numbered m = numbered n) : m = n :=
  append_decimal_injective h

theorem placeholderStem_isPrefixOf_numbered (n : Nat) :
    placeholderStem.toList.isPrefixOf (numbered n).toList = true := by
  rw [numbered, String.toList_append, List.isPrefixOf_iff_prefix]
  exact List.prefix_append _ _

def numberedFrom (n count : Nat) : List String :=
  (List.range' n count).map numbered

theorem numberedFrom_add (n count more : Nat) :
    numberedFrom n (count + more) = numberedFrom n count ++ numberedFrom (n + count) more := by
  rw [numberedFrom, ← List.range'_append_1, List.map_append]
  rfl

theorem length_numberedFrom (n count : Nat) : (numberedFrom n count).length = count := by
  rw [numberedFrom, List.length_map, List.length_range']

theorem nodup_numberedFrom (n count : Nat) : (numberedFrom n count).Nodup := by
  have hrange : (List.range' n count).Nodup := List.nodup_range'
  exact List.pairwise_map.mpr (hrange.imp fun hne h => hne (numbered_injective h))

end Condition

namespace Assignment

theorem isPlaceholderName_numbered (n : Nat) :
    Identifier.isPlaceholderName (numbered n) = true :=
  Identifier.isPlaceholderName_append_decimal (by decide) n

theorem numbered_injective {m n : Nat} (h : numbered m = numbered n) : m = n :=
  append_decimal_injective h

end Assignment

end TableGateway
