import Mathlib.Data.List.Basic
import TableGateway.Number.Literal

/-!
# Spelling of numeric literals

A literal is written as its sign, its digits with an optional point, and its exponent
behind an `e` or an `E`.  Reading accepts exactly the texts that are written so.
-/

namespace TableGateway

namespace Text

theorem spanDigits_append {ds cs : List Char} (hdigits : ds.all isDigit = true)
    (hrest : ∀ c ∈ cs.head?, isDigit c = false) : spanDigits (ds ++ cs) = (ds, cs) := by
  induction ds with
  | nil =>
      cases cs with
      | nil => rfl
      | cons c cs => simp [spanDigits, hrest c rfl]
  | cons d ds ih =>
      rw [List.all_cons, Bool.and_eq_true] at hdigits
      have htail := ih hdigits.2
      simp only [spanDigits, Prod.mk.injEq] at htail
      simp [spanDigits, hdigits.1, htail.1, htail.2]

theorem append_spanDigits (cs : List Char) : (spanDigits cs).1 ++ (spanDigits cs).2 = cs :=
  List.takeWhile_append_dropWhile

theorem all_isDigit_spanDigits (cs : List Char) : (spanDigits cs).1.all isDigit = true :=
  List.all_takeWhile

end Text

namespace Literal

def IsSign (sign : Option Char) : Prop :=
  ∀ c ∈ sign, c = '+' ∨ c = '-'

structure WellFormed (l : Literal) : Prop where
  sign : IsSign l.sign
  whole : l.whole.all Text.isDigit = true
  fraction : ∀ ds ∈ l.fraction, ds.all Text.isDigit = true
  nonempty : l.whole ≠ [] ∨ l.fraction.getD [] ≠ []
  exponent : ∀ e ∈ l.exponent, IsSign e.1 ∧ e.2 ≠ [] ∧ e.2.all Text.isDigit = true

def fractionChars (fraction : Option (List Char)) : List Char :=
  fraction.elim [] ('.' :: ·)

def exponentChars (mark : Char) (exponent : Option (Option Char × List Char)) : List Char :=
  exponent.elim [] fun e => mark :: (e.1.toList ++ e.2)

def chars (mark : Char) (l : Literal) : List Char :=
  l.sign.toList ++ (l.whole ++ (fractionChars l.fraction ++ exponentChars mark l.exponent))

def IsMark (c : Char) : Prop :=
  c = 'e' ∨ c = 'E'

def Spelled (cs : List Char) : Prop :=
  ∃ l mark, WellFormed l ∧ IsMark mark ∧ cs = l.chars mark

/-! ## Parts of a literal -/

theorem splitSign_append {sign : Option Char} {cs : List Char} (hsign : IsSign sign)
    (hrest : ∀ c ∈ cs.head?, c ≠ '+' ∧ c ≠ '-') : splitSign (sign.toList ++ cs) = (sign, cs) := by
  cases sign with
  | some c =>
      rcases hsign c rfl with rfl | rfl <;> rfl
  | none =>
      cases cs with
      | nil => rfl
      | cons c cs =>
          have hc := hrest c rfl
          simp [splitSign, hc.1, hc.2]

theorem splitSign_spec (cs : List Char) :
    IsSign (splitSign cs).1 ∧ cs = (splitSign cs).1.toList ++ (splitSign cs).2 := by
  cases cs with
  | nil => simp [splitSign, IsSign]
  | cons c cs =>
      by_cases hc : c = '+' ∨ c = '-'
      · simp [splitSign, IsSign, hc]
      · simp [splitSign, IsSign, hc]

theorem splitFraction_append {fraction : Option (List Char)} {cs : List Char}
    (hdigits : ∀ ds ∈ fraction, ds.all Text.isDigit = true)
    (hrest : ∀ c ∈ cs.head?, Text.isDigit c = false ∧ c ≠ '.') :
    splitFraction (fractionChars fraction ++ cs) = (fraction, cs) := by
  cases fraction with
  | some ds =>
      have hspan := Text.spanDigits_append (hdigits ds rfl) fun c hc => (hrest c hc).1
      simp [fractionChars, splitFraction, hspan]
  | none =>
      cases cs with
      | nil => rfl
      | cons c cs =>
          have hc := (hrest c rfl).2
          simp only [fractionChars, Option.elim_none, List.nil_append]
          rw [splitFraction]
          rintro ds ⟨rfl, -⟩
          exact hc rfl

theorem splitFraction_spec (cs : List Char) :
    (∀ ds ∈ (splitFraction cs).1, ds.all Text.isDigit = true) ∧
      cs = fractionChars (splitFraction cs).1 ++ (splitFraction cs).2 := by
  rw [splitFraction.eq_def]
  split
  · rename_i rest
    refine ⟨?_, by simp [fractionChars, Text.append_spanDigits]⟩
    rintro ds ⟨⟩
    exact Text.all_isDigit_spanDigits rest
  · simp [fractionChars]

theorem isDigit_of_all {ds : List Char} (h : ds.all Text.isDigit = true) :
    ∀ c ∈ ds.head?, Text.isDigit c = true :=
  fun c hc => List.all_eq_true.mp h c (List.mem_of_mem_head? hc)

theorem ne_sign_of_isDigit {c : Char} (h : Text.isDigit c = true) : c ≠ '+' ∧ c ≠ '-' := by
  constructor
  · rintro rfl
    contradiction
  · rintro rfl
    contradiction

theorem exponent?_eq_some_iff {cs : List Char} {exponent : Option (Option Char × List Char)} :
    exponent? cs = some exponent ↔
      (∀ e ∈ exponent, IsSign e.1 ∧ e.2 ≠ [] ∧ e.2.all Text.isDigit = true) ∧
        ∃ mark, IsMark mark ∧ cs = exponentChars mark exponent := by
  constructor
  · intro h
    cases cs with
    | nil =>
        simp only [exponent?, Option.some.injEq] at h
        subst h
        exact ⟨by simp, 'e', .inl rfl, rfl⟩
    | cons c cs =>
        obtain ⟨hsign, hcs⟩ := splitSign_spec cs
        simp only [exponent?] at h
        split at h
        · rename_i hdigits
          simp only [Bool.and_eq_true, Bool.or_eq_true, decide_eq_true_eq, Bool.not_eq_true',
            List.isEmpty_eq_false_iff] at hdigits
          obtain ⟨⟨hmark, hne⟩, hall⟩ := hdigits
          cases h
          refine ⟨?_, c, hmark, by rw [exponentChars, Option.elim_some, ← hcs]⟩
          rintro e ⟨⟩
          exact ⟨hsign, hne, hall⟩
        · contradiction
  · rintro ⟨hwell, mark, hmark, rfl⟩
    cases exponent with
    | none => rfl
    | some e =>
        obtain ⟨hsign, hne, hall⟩ := hwell e rfl
        have hsplit := splitSign_append hsign fun c hc =>
          ne_sign_of_isDigit (isDigit_of_all hall c hc)
        simp only [exponentChars, Option.elim_some, exponent?, hsplit]
        rw [if_pos]
        simpa [hne, hall, IsMark] using hmark

/-! ## Whole literals -/

theorem head_exponentChars {mark c : Char} {exponent : Option (Option Char × List Char)}
    (hmark : IsMark mark) (hc : c ∈ (exponentChars mark exponent).head?) :
    Text.isDigit c = false ∧ c ≠ '.' := by
  cases exponent with
  | none => simp [exponentChars] at hc
  | some e =>
      simp only [exponentChars, Option.elim_some, List.head?_cons, Option.mem_some_iff] at hc
      subst hc
      rcases hmark with rfl | rfl <;> decide

theorem head_fraction {mark c : Char} {l : Literal} (hmark : IsMark mark)
    (hc : c ∈ (fractionChars l.fraction ++ exponentChars mark l.exponent).head?) :
    Text.isDigit c = false ∧ c ≠ '+' ∧ c ≠ '-' := by
  cases hfraction : l.fraction with
  | some ds =>
      simp only [hfraction, fractionChars, Option.elim_some, List.cons_append, List.head?_cons,
        Option.mem_some_iff] at hc
      subst hc
      decide
  | none =>
      simp only [hfraction, fractionChars, Option.elim_none, List.nil_append] at hc
      cases hexponent : l.exponent with
      | none => simp [hexponent, exponentChars] at hc
      | some e =>
          simp only [hexponent, exponentChars, Option.elim_some, List.head?_cons,
            Option.mem_some_iff] at hc
          subst hc
          rcases hmark with rfl | rfl <;> decide

theorem ofChars?_chars {l : Literal} {mark : Char} (hl : l.WellFormed) (hmark : IsMark mark) :
    ofChars? (l.chars mark) = some l := by
  have hexponent : exponent? (exponentChars mark l.exponent) = some l.exponent :=
    exponent?_eq_some_iff.mpr ⟨hl.exponent, mark, hmark, rfl⟩
  have hfraction := splitFraction_append hl.fraction fun c hc =>
    @head_exponentChars mark c l.exponent hmark hc
  have hwhole := Text.spanDigits_append hl.whole fun c hc => (head_fraction (l := l) hmark hc).1
  have hunsigned : ∀ c ∈ (l.whole ++ (fractionChars l.fraction ++
      exponentChars mark l.exponent)).head?, c ≠ '+' ∧ c ≠ '-' := by
    intro c hc
    rw [List.head?_append] at hc
    cases hhead : l.whole.head? with
    | none =>
        rw [hhead, Option.none_or] at hc
        exact (head_fraction hmark hc).2
    | some d =>
        rw [hhead, Option.some_or, Option.mem_some_iff] at hc
        subst hc
        exact ne_sign_of_isDigit (isDigit_of_all hl.whole d hhead)
  have hsign := splitSign_append hl.sign hunsigned
  simp only [ofChars?, chars, hsign, hwhole, hfraction, hexponent]
  rw [if_neg]
  · rfl
  · simpa [or_iff_not_imp_left] using hl.nonempty

theorem spelled_of_ofChars? {cs : List Char} {l : Literal} (h : ofChars? cs = some l) :
    l.WellFormed ∧ ∃ mark, IsMark mark ∧ cs = l.chars mark := by
  obtain ⟨hsign, hcs⟩ := splitSign_spec cs
  have hwhole := Text.all_isDigit_spanDigits (splitSign cs).2
  have hrest := Text.append_spanDigits (splitSign cs).2
  obtain ⟨hfraction, htail⟩ := splitFraction_spec (Text.spanDigits (splitSign cs).2).2
  simp only [ofChars?] at h
  split at h
  · contradiction
  · rename_i hnonempty
    obtain ⟨exponent, hexponent, rfl⟩ := Option.map_eq_some_iff.mp h
    obtain ⟨hwell, mark, hmark, hend⟩ := exponent?_eq_some_iff.mp hexponent
    refine ⟨⟨hsign, hwhole, hfraction, ?_, hwell⟩, mark, hmark, ?_⟩
    · simpa [or_iff_not_imp_left] using hnonempty
    · rw [chars, ← hend, ← htail, hrest, ← hcs]

theorem ofChars?_eq_none_iff {cs : List Char} : ofChars? cs = none ↔ ¬ Spelled cs := by
  constructor
  · rintro h ⟨l, mark, hl, hmark, rfl⟩
    rw [ofChars?_chars hl hmark] at h
    contradiction
  · intro h
    cases hread : ofChars? cs with
    | none => rfl
    | some l =>
        obtain ⟨hl, mark, hmark, hcs⟩ := spelled_of_ofChars? hread
        exact absurd ⟨l, mark, hl, hmark, hcs⟩ h

end Literal

end TableGateway
