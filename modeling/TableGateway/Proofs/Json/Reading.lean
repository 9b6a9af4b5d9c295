import TableGateway.Proofs.Number.Numeral
import TableGateway.Proofs.Sql.Outline

/-!
# Reading what was written

Compact JSON text is read back as the value that it was written for.  A string ends at its first
quote without a backslash, and a numeral where its digits do, so the readers need not know how
long a text is: they stop before whatever follows it.
-/

namespace TableGateway.Json

/-! ## Strings -/

theorem hexValue?_hexDigit {n : Nat} (h : n < 16) : Text.hexValue? (Text.hexDigit n) = some n := by
  have hall : ∀ m < 16, Text.hexValue? (Text.hexDigit m) = some m := by decide
  exact hall n h

theorem readCodePoint_control {c : Char} (h : c.toNat < 0x20) (rest : List Char) :
    readCodePoint ('0' :: '0' :: Text.hexDigit (c.toNat / 16) :: Text.hexDigit (c.toNat % 16) ::
      rest) = .ok (c, rest) := by
  have hhigh := hexValue?_hexDigit (n := c.toNat / 16) (by omega)
  have hlow := hexValue?_hexDigit (n := c.toNat % 16) (by omega)
  have hzero : Text.hexValue? '0' = some 0 := by decide
  have hnumber : Text.hexNumber? ['0', '0', Text.hexDigit (c.toNat / 16),
      Text.hexDigit (c.toNat % 16)] = some c.toNat := by
    simp only [Text.hexNumber?, List.foldlM_cons, List.foldlM_nil, hzero, hhigh, hlow,
      Option.map_some, Option.bind_eq_bind, Option.bind_some, Option.pure_def]
    congr 1
    omega
  have hleading : ¬ 0xd800 ≤ c.toNat := by omega
  have htrailing : ¬ 0xdc00 ≤ c.toNat := by omega
  simp [readCodePoint, readHex4, hnumber, bind, Except.bind, pure, Except.pure, hleading,
    htrailing]

theorem readChars_escape (fuel : Nat) {e d : Char} (hu : e ≠ 'u') (hd : escapedChar? e = some d)
    (rest : List Char) :
    readChars (fuel + 1) ('\\' :: e :: rest) =
      (readChars fuel rest).map fun r => (d :: r.1, r.2) := by
  rw [readChars, if_neg (by decide), if_pos rfl, hd]
  · rfl
  · exact hu

def abbreviated : List Char :=
  ['\x22', '\\', '\x08', '\x09', '\x0a', '\x0c', '\x0d']

theorem escapeChar_of_abbreviated :
    ∀ c ∈ abbreviated, ∃ e, escapeChar c = ['\\', e] ∧ e ≠ 'u' ∧ escapedChar? e = some c := by
  simp [abbreviated, escapeChar, escapedChar?]

theorem readChars_escapeChar (fuel : Nat) (c : Char) (rest : List Char) :
    readChars (fuel + 1) (escapeChar c ++ rest) =
      (readChars fuel rest).map fun r => (c :: r.1, r.2) := by
  by_cases habbreviated : c ∈ abbreviated
  · obtain ⟨e, hescape, hu, he⟩ := escapeChar_of_abbreviated c habbreviated
    rw [hescape]
    exact readChars_escape fuel hu he rest
  · simp only [abbreviated, List.mem_cons, List.not_mem_nil, or_false, not_or] at habbreviated
    by_cases hcontrol : c.toNat < 0x20
    · simp only [escapeChar, habbreviated, hcontrol, if_true, if_false, List.cons_append,
        List.nil_append]
      rw [readChars, if_neg (by decide), if_pos rfl]
      dsimp only
      rw [readCodePoint_control hcontrol]
      rfl
    · simp only [escapeChar, habbreviated, hcontrol, if_false, List.cons_append, List.nil_append]
      rw [readChars.eq_def]
      dsimp only
      rw [if_neg habbreviated.1, if_neg habbreviated.2.1, if_neg hcontrol]
      rfl

theorem readChars_flatMap {cs : List Char} {fuel : Nat} (h : cs.length < fuel)
    (rest : List Char) :
    readChars fuel (cs.flatMap escapeChar ++ '\x22' :: rest) = .ok (cs, rest) := by
  induction cs generalizing fuel with
  | nil =>
      obtain ⟨fuel, rfl⟩ := Nat.exists_eq_add_one_of_ne_zero (Nat.ne_zero_of_lt h)
      rfl
  | cons c cs ih =>
      obtain ⟨fuel, rfl⟩ := Nat.exists_eq_add_one_of_ne_zero (Nat.ne_zero_of_lt h)
      rw [List.flatMap_cons, List.append_assoc, readChars_escapeChar,
        ih (Nat.lt_of_succ_lt_succ h)]
      rfl

theorem length_le_flatMap_escapeChar (cs : List Char) :
    cs.length ≤ (cs.flatMap escapeChar).length := by
  induction cs with
  | nil => exact Nat.le_refl 0
  | cons c cs ih =>
      have hpos : 0 < (escapeChar c).length := by
        unfold escapeChar
        repeat' split
        all_goals exact Nat.zero_lt_succ _
      rw [List.flatMap_cons, List.length_append, List.length_cons]
      omega

theorem readString_quoted (s : String) (rest : List Char) :
    readString (s.toList.flatMap escapeChar ++ '\x22' :: rest) = .ok (s, rest) := by
  have hfuel : s.toList.length <
      (s.toList.flatMap escapeChar ++ '\x22' :: rest).length + 1 := by
    have hle := length_le_flatMap_escapeChar s.toList
    rw [List.length_append]
    omega
  rw [readString, readChars_flatMap hfuel]
  change Except.ok (String.ofList s.toList, rest) = _
  rw [String.ofList_toList]

/-! ## Numerals -/

def EndsNumeral (rest : List Char) : Prop :=
  ∀ c ∈ rest.head?, Text.isDigit c = false ∧ c ≠ '.' ∧ c ≠ 'e' ∧ c ≠ 'E'

theorem le_ofDigitChars (ds : List Char) (n : Nat) : n ≤ Nat.ofDigitChars 10 ds n := by
  induction ds generalizing n with
  | nil => exact Nat.le_refl n
  | cons d ds ih =>
      rw [Nat.ofDigitChars_cons]
      have hle := ih (10 * n + (d.toNat - '0'.toNat))
      omega

theorem takeDigits_of_fits {ds : List Char} {n : Nat}
    (h : Nat.ofDigitChars 10 ds n < Nat.pow 2 64) :
    takeDigits n ds = (Nat.ofDigitChars 10 ds n, []) := by
  induction ds generalizing n with
  | nil => rfl
  | cons d ds ih =>
      have hnext : 10 * n + Text.ofDigits [d] = 10 * n + (d.toNat - '0'.toNat) := by
        rw [Text.ofDigits, Nat.ofDigitChars_cons, Nat.ofDigitChars_nil, Nat.mul_zero, Nat.zero_add]
      rw [Nat.ofDigitChars_cons] at h ⊢
      have hfits : 10 * n + (d.toNat - '0'.toNat) < Nat.pow 2 64 :=
        Nat.lt_of_le_of_lt (le_ofDigitChars ds _) h
      simp only [takeDigits, hnext, if_pos hfits]
      exact ih h

theorem takeDigits_decimal {n : Nat} (h : n < Nat.pow 2 64) :
    takeDigits 0 (Text.decimal n) = (n, []) := by
  have hvalue : Nat.ofDigitChars 10 (Text.decimal n) 0 = n := Text.ofDigits_decimal n
  rw [takeDigits_of_fits (hvalue.symm ▸ h), hvalue]

theorem numberOf?_decimal {negative : Bool} {m : Nat} {n : Int}
    (hn : n = if negative then -(m : Int) else m) (hzero : negative = true → m ≠ 0)
    (h : -Int.pow 2 63 ≤ n ∧ n < Int.pow 2 64) :
    numberOf? negative (Text.decimal m) [] none = some (.integer n h) := by
  have hfits : m < Nat.pow 2 64 := by
    have hnat : Nat.pow 2 64 = 2 ^ 64 := rfl
    have hpow : Int.pow 2 63 = 2 ^ 63 := rfl
    have hpow' : Int.pow 2 64 = 2 ^ 64 := rfl
    cases negative <;> simp at hn <;> omega
  subst hn
  have hsigned : (negative && m == 0) = false := by
    cases negative with
    | false => rfl
    | true => simpa using hzero rfl
  simp only [numberOf?, takeDigits_decimal hfits, hsigned]
  rw [dif_pos ⟨rfl, h⟩]

theorem readFraction_of_ends {rest : List Char} (h : EndsNumeral rest) :
    readFraction rest = .ok ([], rest) := by
  cases rest with
  | nil => rfl
  | cons c rest =>
      rw [readFraction]
      rintro cs ⟨rfl, -⟩
      exact (h _ rfl).2.1 rfl

theorem readExponent_of_ends {rest : List Char} (h : EndsNumeral rest) :
    readExponent rest = .ok (none, rest) := by
  cases rest with
  | nil => rfl
  | cons c rest =>
      obtain ⟨-, -, hsmall, hcapital⟩ := h c rfl
      simp [readExponent, hsmall, hcapital]

theorem readNumber_decimal {negative : Bool} {m : Nat} {n : Int}
    (hn : n = if negative then -(m : Int) else m) (hzero : negative = true → m ≠ 0)
    (h : -Int.pow 2 63 ≤ n ∧ n < Int.pow 2 64) {rest : List Char} (hrest : EndsNumeral rest) :
    readNumber negative (Text.decimal m ++ rest) = .ok (.number (.integer n h), rest) := by
  have hspan := Text.spanDigits_decimal_append m fun c hc => (hrest c hc).1
  simp only [readNumber, hspan]
  split
  · rename_i heq
    exact absurd heq (Text.decimal_ne_nil m)
  · rename_i d ds heq
    by_cases hm : m = 0
    · have hdecimal : Text.decimal 0 = ['0'] := rfl
      rw [hm, hdecimal] at heq
      cases heq
    · exact absurd (congrArg List.head? heq) (Text.head_decimal_ne_zero hm)
  · rw [readFraction_of_ends hrest]
    simp only [bind, Except.bind, readExponent_of_ends hrest, numberOf?_decimal hn hzero h]
    rfl

/-! ## Values -/

theorem ne_of_isDigit {c d : Char} (hc : Text.isDigit c = true) (hd : Text.isDigit d = false) :
    c ≠ d := by
  rintro rfl
  rw [hc] at hd
  contradiction

theorem isSpace_of_isDigit {c : Char} (h : Text.isDigit c = true) : isSpace c = false := by
  have hspace : c ≠ ' ' := ne_of_isDigit h (by decide)
  have htab : c ≠ '\x09' := ne_of_isDigit h (by decide)
  have hnewline : c ≠ '\x0a' := ne_of_isDigit h (by decide)
  have hreturn : c ≠ '\x0d' := ne_of_isDigit h (by decide)
  simp [isSpace, hspace, htab, hnewline, hreturn]

/-- Whether a value is read from its text where `depth` levels may be opened, whatever text is
behind it that ends a numeral. -/
structure ReadsBack (depth : Nat) (j : Json) : Prop where
  begins : ∃ c cs, j.chars = c :: cs ∧ isSpace c = false ∧ c ≠ ']'
  read : ∀ fuel rest, j.chars.length ≤ fuel → EndsNumeral rest →
    readValue fuel depth (j.chars ++ rest) = .ok (j, rest)

variable {depth : Nat}

theorem skipSpace_cons {c : Char} (h : isSpace c = false) (cs : List Char) :
    skipSpace (c :: cs) = c :: cs :=
  List.dropWhile_cons_of_neg (by simp [h])

theorem readsBack_intro {j : Json} {c : Char} {cs : List Char} (hchars : j.chars = c :: cs)
    (hspace : isSpace c = false) (hbracket : c ≠ ']')
    (hread : ∀ fuel rest, cs.length ≤ fuel → EndsNumeral rest →
      readValue (fuel + 1) depth (c :: (cs ++ rest)) = .ok (j, rest)) : ReadsBack depth j where
  begins := ⟨c, cs, hchars, hspace, hbracket⟩
  read := by
    intro fuel rest hfuel hrest
    rw [hchars] at hfuel ⊢
    cases fuel with
    | zero => exact absurd hfuel (by simp)
    | succ fuel => exact hread fuel rest (Nat.le_of_succ_le_succ hfuel) hrest

theorem readsBack_null : ReadsBack depth .null :=
  readsBack_intro rfl (by decide) (by decide) fun _ _ _ _ => rfl

theorem readsBack_bool (b : Bool) : ReadsBack depth (.bool b) := by
  cases b with
  | true => exact readsBack_intro rfl (by decide) (by decide) fun _ _ _ _ => rfl
  | false => exact readsBack_intro rfl (by decide) (by decide) fun _ _ _ _ => rfl

theorem readValue_quote (fuel : Nat) (cs : List Char) :
    readValue (fuel + 1) depth ('\x22' :: cs) =
      (readString cs).bind fun r => .ok (.string r.1, r.2) :=
  rfl

theorem readValue_minus (fuel : Nat) (cs : List Char) :
    readValue (fuel + 1) depth ('-' :: cs) = readNumber true cs :=
  rfl

theorem readValue_digit (fuel : Nat) {c : Char} (h : Text.isDigit c = true) (cs : List Char) :
    readValue (fuel + 1) depth (c :: cs) = readNumber false (c :: cs) := by
  rw [readValue, skipSpace_cons (isSpace_of_isDigit h)]
  dsimp only
  rw [if_neg (ne_of_isDigit h (by decide)), if_neg (ne_of_isDigit h (by decide)),
    if_neg (ne_of_isDigit h (by decide)), if_neg (ne_of_isDigit h (by decide)), if_pos h]

theorem readsBack_string (s : String) : ReadsBack depth (.string s) := by
  refine readsBack_intro rfl (by decide) (by decide) fun fuel rest _ _ => ?_
  rw [List.append_assoc, List.singleton_append, readValue_quote, readString_quoted]
  rfl

theorem readsBack_integer (n : Int) (h : -Int.pow 2 63 ≤ n ∧ n < Int.pow 2 64) :
    ReadsBack depth (.number (.integer n h)) := by
  by_cases hnegative : n < 0
  · have hchars : chars (.number (.integer n h)) = '-' :: Text.decimal n.natAbs := by
      rw [chars, Number.chars, Text.signed, if_pos hnegative]
    refine readsBack_intro hchars (by decide) (by decide) fun fuel rest _ hrest => ?_
    rw [readValue_minus, readNumber_decimal _ _ h hrest]
    · rw [if_pos rfl]
      omega
    · omega
  · obtain ⟨d, ds, hdecimal⟩ := List.exists_cons_of_ne_nil (Text.decimal_ne_nil n.natAbs)
    have hdigit : Text.isDigit d = true :=
      Text.isDigit_of_mem_digits (hdecimal ▸ List.mem_cons_self)
    have hchars : chars (.number (.integer n h)) = d :: ds := by
      rw [chars, Number.chars, Text.signed, if_neg hnegative, hdecimal]
    refine readsBack_intro hchars ?_ ?_ fun fuel rest _ hrest => ?_
    · exact isSpace_of_isDigit hdigit
    · exact ne_of_isDigit hdigit (by decide)
    · rw [readValue_digit fuel hdigit, ← List.cons_append, ← hdecimal,
        readNumber_decimal _ _ h hrest]
      · rw [if_neg (by decide)]
        omega
      · exact fun hfalse => nomatch hfalse

/-! ## Lists -/

theorem itemChars_eq_map (items : List Json) : itemChars items = items.map chars := by
  induction items with
  | nil => rfl
  | cons item items ih => rw [itemChars, ih, List.map_cons]

theorem readItems_last {fuel : Nat} {cs rest : List Char} {item : Json}
    (h : readValue fuel depth cs = .ok (item, ']' :: rest)) :
    readItems (fuel + 1) depth cs = .ok ([item], rest) := by
  rw [readItems, h]
  rfl

theorem readItems_more {fuel : Nat} {cs more : List Char} {c : Char} {item : Json}
    (h : readValue fuel depth cs = .ok (item, ',' :: c :: more)) (hspace : isSpace c = false)
    (hbracket : c ≠ ']') :
    readItems (fuel + 1) depth cs =
      (readItems fuel depth (c :: more)).map fun r => (item :: r.1, r.2) := by
  rw [readItems, h]
  simp only [bind, Except.bind, skipSpace_cons (show isSpace ',' = false by decide),
    skipSpace_cons hspace]
  split
  · contradiction
  · rename_i heq
    exact absurd (List.cons.inj heq).1 hbracket
  · rfl

def joined (items : List Json) : List Char :=
  List.intercalate [','] (items.map chars)

theorem joined_singleton (item : Json) : joined [item] = item.chars :=
  List.intercalate_singleton

theorem joined_cons_cons (item next : Json) (items : List Json) :
    joined (item :: next :: items) = item.chars ++ ',' :: joined (next :: items) := by
  rw [joined, List.map_cons, List.map_cons, List.intercalate_cons_cons, List.append_assoc]
  rfl

theorem chars_array (items : List Json) :
    chars (.array items) = '[' :: (joined items ++ [']']) := by
  rw [chars, itemChars_eq_map, joined]

theorem begins_joined {item : Json} (h : ReadsBack depth item) (items : List Json) :
    ∃ c cs, joined (item :: items) = c :: cs ∧ isSpace c = false ∧ c ≠ ']' := by
  obtain ⟨c, cs, hchars, hc⟩ := h.begins
  refine ⟨c, cs ++ (items.map chars).flatMap fun l => [','] ++ l, ?_, hc⟩
  rw [joined, List.map_cons, intercalate_cons, hchars, List.cons_append]

theorem readItems_joined {item : Json} {items : List Json} {fuel : Nat}
    (h : ∀ j ∈ item :: items, ReadsBack depth j) (hfuel : (joined (item :: items)).length < fuel)
    (rest : List Char) :
    readItems fuel depth (joined (item :: items) ++ ']' :: rest) = .ok (item :: items, rest) := by
  induction items generalizing item fuel with
  | nil =>
      obtain ⟨fuel, rfl⟩ := Nat.exists_eq_add_one_of_ne_zero (Nat.ne_zero_of_lt hfuel)
      rw [joined_singleton] at hfuel ⊢
      apply readItems_last
      refine (h item List.mem_cons_self).read fuel _ (Nat.le_of_lt_succ hfuel) ?_
      rintro c ⟨⟩
      decide
  | cons next items ih =>
      obtain ⟨fuel, rfl⟩ := Nat.exists_eq_add_one_of_ne_zero (Nat.ne_zero_of_lt hfuel)
      rw [joined_cons_cons, List.length_append, List.length_cons] at hfuel
      have hnext : ∀ j ∈ next :: items, ReadsBack depth j :=
        fun j hj => h j (List.mem_cons_of_mem _ hj)
      obtain ⟨c, cs, hjoined, hspace, hbracket⟩ :=
        begins_joined (hnext next List.mem_cons_self) items
      have hshorter : (joined (next :: items)).length < fuel := by omega
      have htail := ih hnext hshorter
      rw [hjoined, List.cons_append] at htail
      rw [joined_cons_cons, hjoined, List.append_assoc, List.cons_append, List.cons_append,
        readItems_more _ hspace hbracket, htail]
      · rfl
      · refine (h item List.mem_cons_self).read fuel _ (by omega) ?_
        rintro c ⟨⟩
        decide

theorem readValue_bracket (fuel : Nat) {c : Char} (hdepth : 1 < depth)
    (hspace : isSpace c = false) (cs : List Char) :
    readValue (fuel + 1) depth ('[' :: c :: cs) =
      match c :: cs with
      | ']' :: rest => .ok (.array [], rest)
      | [] => fail .endInList []
      | rest => (readItems fuel (depth - 1) rest).bind fun r => .ok (.array r.1, r.2) := by
  rw [readValue, skipSpace_cons (by decide)]
  dsimp only
  rw [if_neg (by decide), if_neg (by decide), if_neg (by decide), if_neg (by decide),
    if_neg (by decide), if_neg (by decide), if_pos rfl, if_neg (by omega), skipSpace_cons hspace]
  rfl

theorem readsBack_array {items : List Json} (hdepth : 1 < depth)
    (h : ∀ j ∈ items, ReadsBack (depth - 1) j) : ReadsBack depth (.array items) := by
  refine readsBack_intro (chars_array items) (by decide) (by decide) fun fuel rest hfuel _ => ?_
  rw [List.append_assoc, List.singleton_append]
  cases items with
  | nil => exact readValue_bracket fuel hdepth (by decide) rest
  | cons item items =>
      obtain ⟨c, cs, hjoined, hspace, hbracket⟩ := begins_joined (h item List.mem_cons_self) items
      rw [List.length_append, List.length_singleton] at hfuel
      have hitems := readItems_joined h hfuel rest
      rw [hjoined, List.cons_append] at hitems ⊢
      rw [readValue_bracket fuel hdepth hspace]
      split
      · rename_i heq
        exact absurd (List.cons.inj heq).1 hbracket
      · contradiction
      · rw [hitems]
        rfl

/-! ## Texts -/

theorem readAll_chars {j : Json} (h : ReadsBack depthLimit j) : readAll j.chars = .ok j := by
  have hread := h.read (2 * j.chars.length + 2) [] (by omega) (fun c hc => nomatch hc)
  rw [List.append_nil] at hread
  rw [readAll, hread]
  rfl

end TableGateway.Json
