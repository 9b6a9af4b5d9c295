import Mathlib.Data.List.Chain
import TableGateway.Proofs.Condition.Rejection

/-!
# The words of operators

An operator is written in words, and neither the case of their letters nor the blanks between
them matter.  But the text is brought into capitals by the rules of Unicode, which have more
small letters than ASCII: an i without a dot and a long s become the capitals I and S.  So a
text in which they stand for i and s passes for an operator that it does not spell.  All other
texts are read by their words.
-/

namespace TableGateway

namespace Text

def unmask (c : Char) : Char :=
  if c = '\u0131' then 'I' else if c = '\u017f' then 'S' else c

/-- How the capitals of letters begin that become more than one ASCII letter. -/
def ligatures : List (Char × Char) :=
  [('S', 'S'), ('F', 'F'), ('F', 'I'), ('F', 'L'), ('S', 'T')]

structure IsKeyword (k : List Char) : Prop where
  capital : ∀ c ∈ k, c.toNat < 0x80 ∧ c.toUpper = c
  parted : k.IsChain fun c d => (c, d) ∉ ligatures

theorem toUpper_of_small {c : Char} (hle : 0x61 ≤ c.toNat) (hge : c.toNat ≤ 0x7a) :
    c.toUpper = Char.ofNat (c.toNat - 0x20) := by
  have hall : ∀ n < 0x7b, 0x61 ≤ n → (Char.ofNat n).toUpper = Char.ofNat (n - 0x20) := by
    decide +kernel
  have h := hall c.toNat (by omega) hle
  rwa [Char.ofNat_toNat] at h

theorem toUpper_of_not_small {c : Char} (h : ¬ (0x61 ≤ c.toNat ∧ c.toNat ≤ 0x7a)) :
    c.toUpper = c :=
  dif_neg h

def beyondAscii : List Char :=
  ['\u00df', '\u0131', '\u017f', '\ufb00', '\ufb01', '\ufb02', '\ufb03', '\ufb04', '\ufb05',
    '\ufb06']

theorem asciiUpper_of_other {c : Char} (hsmall : ¬ (0x61 ≤ c.toNat ∧ c.toNat ≤ 0x7a))
    (hother : c ∉ beyondAscii) : asciiUpper c = [c] := by
  have hne : ∀ d ∈ beyondAscii, c.toNat ≠ d.toNat := by
    intro d hd heq
    rw [Char.toNat_inj] at heq
    exact hother (heq ▸ hd)
  simp [beyondAscii] at hne
  simp [asciiUpper, hsmall, hne]

theorem unmask_of_other {c : Char} (hother : c ∉ beyondAscii) : unmask c = c := by
  rw [unmask, if_neg, if_neg]
  · rintro rfl
    exact hother (by decide)
  · rintro rfl
    exact hother (by decide)

theorem asciiUpper_cases (c : Char) :
    asciiUpper c = [(unmask c).toUpper] ∨
      0x80 ≤ (unmask c).toUpper.toNat ∧ ∃ p ∈ ligatures, [p.1, p.2] <+: asciiUpper c := by
  by_cases hbeyond : c ∈ beyondAscii
  · have hall : beyondAscii.all (fun d => asciiUpper d == [(unmask d).toUpper] ||
        decide (0x80 ≤ (unmask d).toUpper.toNat) &&
          ligatures.any fun p => [p.1, p.2].isPrefixOf (asciiUpper d)) = true := by
      decide +kernel
    simpa [List.isPrefixOf_iff_prefix] using List.all_eq_true.mp hall c hbeyond
  · left
    rw [unmask_of_other hbeyond]
    by_cases hsmall : 0x61 ≤ c.toNat ∧ c.toNat ≤ 0x7a
    · rw [toUpper_of_small hsmall.1 hsmall.2]
      simp [asciiUpper, hsmall]
    · rw [toUpper_of_not_small hsmall, asciiUpper_of_other hsmall hbeyond]

/-- The capitals of a text are a keyword exactly if they are its ASCII capitals, when the
letters that pass for i and s are taken for these. -/
theorem flatMap_asciiUpper_eq_iff {w k : List Char} (hk : IsKeyword k) :
    w.flatMap asciiUpper = k ↔ (w.map unmask).map Char.toUpper = k := by
  induction w generalizing k with
  | nil => rfl
  | cons c w ih =>
      rw [List.flatMap_cons, List.map_cons, List.map_cons]
      rcases asciiUpper_cases c with hone | ⟨hbeyond, p, hp, hmany⟩
      · rw [hone, List.singleton_append]
        cases k with
        | nil => simp
        | cons d k =>
            have htail : IsKeyword k :=
              ⟨fun e he => hk.capital e (List.mem_cons_of_mem d he),
                (List.isChain_cons.mp hk.parted).2⟩
            rw [List.cons.injEq, List.cons.injEq, ih htail]
      · -- A keyword has neither the ligature nor the letter.
        constructor
        · rintro rfl
          obtain ⟨rest, hrest⟩ := hmany
          have hparted := hk.parted
          rw [← hrest] at hparted
          simp only [List.cons_append, List.isChain_cons_cons] at hparted
          exact absurd hp hparted.1
        · rintro rfl
          have hcapital := (hk.capital _ List.mem_cons_self).1
          omega

theorem map_toUpper_of_isKeyword {k : List Char} (hk : IsKeyword k) : k.map Char.toUpper = k := by
  have hsame : ∀ c ∈ k, c.toUpper = id c := fun c hc => (hk.capital c hc).2
  rw [List.map_congr_left hsame, List.map_id]

end Text

namespace Operator

/-- Whether the words of a text spell an operator, in any case of the ASCII letters. -/
def Spelled (s : String) (op : Operator) : Prop :=
  Text.equalsIgnoringCase (Text.squeeze s.toList) op.sql.toList = true

/-- Whether they do so once the letters that pass for i and s are taken for these. -/
def Passes (s : String) (op : Operator) : Prop :=
  Text.equalsIgnoringCase ((Text.squeeze s.toList).map Text.unmask) op.sql.toList = true

/-- Whether a text passes for an operator by a letter that is not its own. -/
def Disguised (s : String) (op : Operator) : Prop :=
  Passes s op ∧ ∃ c ∈ Text.squeeze s.toList, Text.unmask c ≠ c

instance (s : String) (op : Operator) : Decidable (Spelled s op) :=
  inferInstanceAs (Decidable (_ = true))

instance (s : String) (op : Operator) : Decidable (Passes s op) :=
  inferInstanceAs (Decidable (_ = true))

instance (s : String) (op : Operator) : Decidable (Disguised s op) :=
  -- The words are searched, and not the whole of Unicode.
  have := List.decidableBEx (fun c => Text.unmask c ≠ c) (Text.squeeze s.toList)
  inferInstanceAs (Decidable (_ ∧ _))

theorem isKeyword_sql (op : Operator) : Text.IsKeyword op.sql.toList := by
  have hall : ∀ a ∈ all,
      a.sql.toList.all (fun c => decide (c.toNat < 0x80) && c.toUpper == c) = true ∧
        a.sql.toList.IsChain fun c d => (c, d) ∉ Text.ligatures := by
    decide +kernel
  obtain ⟨hcapital, hparted⟩ := hall op (mem_all op)
  exact ⟨by simpa using hcapital, hparted⟩

theorem keywordForm_eq_sql_iff {s : String} {op : Operator} :
    Text.keywordForm s = op.sql ↔ Passes s op := by
  have hkeyword := isKeyword_sql op
  rw [Text.keywordForm, ← String.toList_inj, String.toList_ofList,
    Text.flatMap_asciiUpper_eq_iff hkeyword, Passes, Text.equalsIgnoringCase, beq_iff_eq,
    Text.map_toUpper_of_isKeyword hkeyword]

theorem ofText?_eq_some_iff {s : String} {op : Operator} :
    ofText? s = some op ↔ Passes s op := by
  have hform : ∀ {t}, ofText? t = some op → Text.keywordForm t = op.sql := by
    intro t h
    have hfound := List.find?_some h
    exact (beq_iff_eq.mp hfound).symm
  rw [← keywordForm_eq_sql_iff]
  constructor
  · exact hform
  · intro h
    have hown := hform (Condition.ofText?_sql op)
    rw [ofText?, h.trans hown.symm]
    exact Condition.ofText?_sql op

theorem passes_sql (op : Operator) : Passes op.sql op :=
  ofText?_eq_some_iff.mp (Condition.ofText?_sql op)

theorem spelled_iff {s : String} {op : Operator} :
    Spelled s op ↔ Passes s op ∧ ∀ c ∈ Text.squeeze s.toList, Text.unmask c = c := by
  have hkeyword := isKeyword_sql op
  have hsame (h : ∀ c ∈ Text.squeeze s.toList, Text.unmask c = c) :
      (Text.squeeze s.toList).map Text.unmask = Text.squeeze s.toList := by
    rw [List.map_congr_left h, List.map_id']
  constructor
  · intro h
    have hplain : ∀ c ∈ Text.squeeze s.toList, Text.unmask c = c := by
      intro c hc
      rw [Spelled, Text.equalsIgnoringCase, beq_iff_eq,
        Text.map_toUpper_of_isKeyword hkeyword] at h
      have hmem : c.toUpper ∈ op.sql.toList := h ▸ List.mem_map_of_mem hc
      have hascii := (hkeyword.capital _ hmem).1
      rw [Text.unmask, if_neg, if_neg]
      · rintro rfl
        exact absurd hascii (by decide)
      · rintro rfl
        exact absurd hascii (by decide)
    refine ⟨?_, hplain⟩
    rw [Passes, hsame hplain]
    exact h
  · rintro ⟨h, hplain⟩
    rwa [Passes, hsame hplain] at h

theorem passes_iff {s : String} {op : Operator} : Passes s op ↔ Spelled s op ∨ Disguised s op := by
  have hmask : (∀ c ∈ Text.squeeze s.toList, Text.unmask c = c) ∨
      ∃ c ∈ Text.squeeze s.toList, Text.unmask c ≠ c := by
    simpa using Classical.em (∀ c ∈ Text.squeeze s.toList, Text.unmask c = c)
  rw [spelled_iff, Disguised, ← and_or_left, and_iff_left hmask]

theorem Disguised.not_spelled {s : String} {op : Operator} (h : Disguised s op) (op' : Operator) :
    ¬ Spelled s op' := by
  obtain ⟨-, c, hc, hmask⟩ := h
  intro hspelled
  exact hmask ((spelled_iff.mp hspelled).2 c hc)

end Operator

namespace Condition

open Operator

variable {column : String}

/-- Whether the words of a text decide what `[column, s]` asks: a test for null, or else
equality with the text. -/
structure PairByWords (column s : String) : Prop where
  nullTest : ∀ negated, parse (.array [.string column, .string s]) = .ok (.isNull column negated) ↔
    Spelled s (.nullTest negated)
  equality : (∀ negated, ¬ Spelled s (.nullTest negated)) →
    parse (.array [.string column, .string s]) = .ok (.compare column .equal (.text s))

/-- Whether the words of a text decide what `[column, s, operand, …]` asks: the same as with
the operator that they spell, and nothing if they spell none. -/
structure OperationByWords (column s : String) (operands : List Json) : Prop where
  spelled : ∀ op, Spelled s op → parse (.array (.string column :: .string s :: operands)) =
    parse (.array (.string column :: .string op.sql :: operands))
  unknown : (∀ op, ¬ Spelled s op) → parse (.array (.string column :: .string s :: operands)) =
    .error (.invalidOperator (String.ofList (Text.trim s.toList)))

theorem parse_pair_eq_isNull_iff (h : IsColumn column) {s : String} {negated : Bool} :
    parse (.array [.string column, .string s]) = .ok (.isNull column negated) ↔
      Passes s (.nullTest negated) := by
  rw [parse_column h, ofColumn, ofPair, ← ofText?_eq_some_iff]
  split
  · rename_i hop
    simp [hop]
  · rename_i hnone
    simpa using hnone negated

theorem parse_pair_of_other (h : IsColumn column) {s : String}
    (hs : ∀ negated, ¬ Passes s (.nullTest negated)) :
    parse (.array [.string column, .string s]) = .ok (.compare column .equal (.text s)) := by
  rw [parse_column h, ofColumn, ofPair]
  split
  · rename_i negated hop
    exact absurd (ofText?_eq_some_iff.mp hop) (hs negated)
  · rfl

theorem parse_operation (h : IsColumn column) (op operand : Json) (operands : List Json) :
    parse (.array (.string column :: op :: operand :: operands)) =
      ofOperation column (operand :: operands) op := by
  rw [parse_column h]
  rfl

theorem parse_operation_of_passes (h : IsColumn column) {s : String} {op : Operator}
    (hs : Passes s op) (operand : Json) (operands : List Json) :
    parse (.array (.string column :: .string s :: operand :: operands)) =
      ofOperator column (operand :: operands) op := by
  rw [parse_operation h, ofOperation, ofText?_eq_some_iff.mpr hs]

theorem parse_operation_of_unknown (h : IsColumn column) {s : String}
    (hs : ∀ op, ¬ Passes s op) (operand : Json) (operands : List Json) :
    parse (.array (.string column :: .string s :: operand :: operands)) =
      .error (.invalidOperator (String.ofList (Text.trim s.toList))) := by
  have hnone : ofText? s = none := by
    rw [Option.eq_none_iff_forall_ne_some]
    exact fun op hop => hs op (ofText?_eq_some_iff.mp hop)
  rw [parse_operation h, ofOperation, hnone]

theorem ofOperator_ne_invalidOperator (column : String) (operands : List Json) (op : Operator)
    (token : String) : ofOperator column operands op ≠ .error (.invalidOperator token) := by
  intro h
  have hfault := (testFault_iff_of_ofText? (ofText?_sql op)).mpr h
  cases hfault with
  | operatorWord hnone =>
      rw [ofText?_sql] at hnone
      contradiction

theorem pairByWords_iff (h : IsColumn column) (s : String) :
    PairByWords column s ↔ ∀ negated, ¬ Disguised s (.nullTest negated) := by
  constructor
  · intro hwords negated hdisguised
    have hnull := (parse_pair_eq_isNull_iff h).mpr (passes_iff.mpr (.inr hdisguised))
    exact hdisguised.not_spelled _ ((hwords.nullTest negated).mp hnull)
  · intro hundisguised
    have hpasses : ∀ negated, Passes s (.nullTest negated) ↔ Spelled s (.nullTest negated) :=
      fun negated => passes_iff.trans (or_iff_left (hundisguised negated))
    constructor
    · intro negated
      rw [parse_pair_eq_isNull_iff h, hpasses]
    · intro hnone
      exact parse_pair_of_other h fun negated => (hpasses negated).not.mpr (hnone negated)

theorem operationByWords_iff (h : IsColumn column) (s : String) (operand : Json)
    (operands : List Json) :
    OperationByWords column s (operand :: operands) ↔ ∀ op, ¬ Disguised s op := by
  constructor
  · intro hwords op hdisguised
    have hread := parse_operation_of_passes h (passes_iff.mpr (.inr hdisguised)) operand operands
    have hunknown := hwords.unknown hdisguised.not_spelled
    exact ofOperator_ne_invalidOperator column _ op _ (hread.symm.trans hunknown)
  · intro hundisguised
    have hpasses : ∀ op, Passes s op ↔ Spelled s op :=
      fun op => passes_iff.trans (or_iff_left (hundisguised op))
    constructor
    · intro op hspelled
      rw [parse_operation_of_passes h ((hpasses op).mpr hspelled),
        parse_operation_of_passes h (passes_sql op)]
    · intro hnone
      exact parse_operation_of_unknown h (fun op => (hpasses op).not.mpr (hnone op)) operand
        operands

/-- The words of a text decide how it is read exactly if the text is not disguised.  A disguised
text is read as the operator for which it passes. -/
theorem by_words_iff_not_disguised (h : IsColumn column) (s : String) :
    (PairByWords column s ↔ ∀ negated, ¬ Disguised s (.nullTest negated)) ∧
    (∀ operand operands,
      OperationByWords column s (operand :: operands) ↔ ∀ op, ¬ Disguised s op) ∧
    (∀ negated, Disguised s (.nullTest negated) →
      parse (.array [.string column, .string s]) = .ok (.isNull column negated)) ∧
    ∀ op operand operands, Disguised s op →
      parse (.array (.string column :: .string s :: operand :: operands)) =
        parse (.array (.string column :: .string op.sql :: operand :: operands)) := by
  refine ⟨pairByWords_iff h s, operationByWords_iff h s, ?_, ?_⟩
  · intro negated hdisguised
    exact (parse_pair_eq_isNull_iff h).mpr (passes_iff.mpr (.inr hdisguised))
  · intro op operand operands hdisguised
    rw [parse_operation_of_passes h (passes_iff.mpr (.inr hdisguised)),
      parse_operation_of_passes h (passes_sql op)]

theorem by_words_iff_not_disguised_long_s :
    IsColumn " or\u0131 " ∧ ¬ PairByWords " or\u0131 " "i\u017f\n NOT null" ∧
      parse (.array [.string " or\u0131 ", .string "i\u017f\n NOT null"]) =
        .ok (.isNull " or\u0131 " true) := by
  have h : IsColumn " or\u0131 " := by decide +kernel
  have hdisguised : Disguised "i\u017f\n NOT null" (.nullTest true) := by
    decide +kernel
  obtain ⟨hpair, -, hread, -⟩ := by_words_iff_not_disguised h "i\u017f\n NOT null"
  exact ⟨h, fun hwords => hpair.mp hwords true hdisguised, hread true hdisguised⟩

/-- A text that spells no operator is read as a test for null. -/
theorem null_test_without_dot :
    (∀ negated, ¬ Spelled "\u0131s null" (.nullTest negated)) ∧ IsColumn "c" ∧
      parse (.array [.string "c", .string "\u0131s null"]) = .ok (.isNull "c" false) := by
  refine ⟨by decide +kernel, by decide +kernel, ?_⟩
  rfl

end Condition

end TableGateway
