import TableGateway.Proofs.Identifier.Cleaning

/-!
# The name inside a quoted identifier

Cleaning deletes the backticks first and the blanks around what is left second, so that blanks
that stood behind a backtick go as well.  What remains is the one middle of the name that has
no blank at either end, and neither backticks nor blanks around a name make a difference to it.
-/

namespace TableGateway

namespace Text

structure Tight (cs : List Char) : Prop where
  head : ∀ c ∈ cs.head?, isBlank c = false
  last : ∀ c ∈ cs.getLast?, isBlank c = false

/-- A text that is another one with blanks around it, which has none at its own ends. -/
def Middle (cs middle : List Char) : Prop :=
  ∃ left right, cs = left ++ middle ++ right ∧ (∀ c ∈ left, isBlank c = true) ∧
    (∀ c ∈ right, isBlank c = true) ∧ Tight middle

variable {left cs right middle : List Char}

theorem trimStart_append (h : ∀ c ∈ left, isBlank c = true) (cs : List Char) :
    trimStart (left ++ cs) = trimStart cs :=
  List.dropWhile_append_of_pos h

theorem trimEnd_append (h : ∀ c ∈ right, isBlank c = true) (cs : List Char) :
    trimEnd (cs ++ right) = trimEnd cs := by
  rw [trimEnd, trimEnd, List.reverse_append, List.dropWhile_append_of_pos]
  intro c hc
  exact h c (List.mem_reverse.mp hc)

theorem trimEnd_of_blank (h : ∀ c ∈ cs, isBlank c = true) : trimEnd cs = [] :=
  List.rdropWhile_eq_nil_iff.mpr h

theorem trim_append (hleft : ∀ c ∈ left, isBlank c = true)
    (hright : ∀ c ∈ right, isBlank c = true) (cs : List Char) :
    trim (left ++ cs ++ right) = trim cs := by
  rw [List.append_assoc, trim, trim, trimStart_append hleft, trimStart, List.dropWhile_append]
  split
  · next hempty =>
    -- The text is blank as well, so that the blanks behind it are at the start.
    rw [trimStart, List.isEmpty_iff.mp hempty]
    exact trimEnd_of_blank fun c hc => hright c ((List.dropWhile_sublist isBlank).mem hc)
  · exact trimEnd_append hright _

theorem tight_trim (cs : List Char) : Tight (trim cs) where
  head := by
    intro c hc
    have hhead := List.head?_dropWhile_not isBlank (trim cs)
    rw [← trimStart, trimStart_trim, hc] at hhead
    simpa using hhead
  last := by
    intro c hc
    obtain ⟨hne, rfl⟩ := List.mem_getLast?_eq_getLast hc
    exact Bool.eq_false_iff.mpr (List.rdropWhile_last_not isBlank (trimStart cs) hne)

theorem Tight.trim_eq (h : Tight cs) : trim cs = cs := by
  have hstart : trimStart cs = cs := by
    cases cs with
    | nil => rfl
    | cons c cs => exact List.dropWhile_cons_of_neg (by simp [h.head c rfl])
  rw [trim, hstart]
  refine List.rdropWhile_eq_self_iff.mpr fun hne => ?_
  simp [h.last _ (List.getLast?_eq_some_getLast hne)]

theorem middle_trim (cs : List Char) : Middle cs (trim cs) := by
  refine ⟨cs.takeWhile isBlank, (trimStart cs).rtakeWhile isBlank, ?_, ?_, ?_, tight_trim cs⟩
  · rw [List.append_assoc, trim]
    change cs = _ ++ ((trimStart cs).rdropWhile isBlank ++ _)
    rw [List.rdropWhile_append_rtakeWhile, trimStart, List.takeWhile_append_dropWhile]
  · exact fun c hc => List.mem_takeWhile_imp hc
  · exact fun c hc => List.mem_rtakeWhile_imp hc

theorem trim_eq_iff : trim cs = middle ↔ Middle cs middle := by
  constructor
  · rintro rfl
    exact middle_trim cs
  · rintro ⟨left, right, rfl, hleft, hright, htight⟩
    rw [trim_append hleft hright, htight.trim_eq]

end Text

namespace Identifier

/-- Whether the second text is the first with backticks put into it. -/
inductive Ticked : List Char → List Char → Prop where
  | nil : Ticked [] []
  | keep (c : Char) {cs ds : List Char} (h : Ticked cs ds) : Ticked (c :: cs) (c :: ds)
  | tick {cs ds : List Char} (h : Ticked cs ds) : Ticked cs (quoteMark :: ds)

theorem Ticked.cleanChars_eq {cs ds : List Char} (h : Ticked cs ds) :
    cleanChars ds = cleanChars cs := by
  have hfilter : ds.filter (· != quoteMark) = cs.filter (· != quoteMark) := by
    induction h with
    | nil => rfl
    | keep c h ih => rw [List.filter_cons, List.filter_cons, ih]
    | tick h ih => rw [List.filter_cons_of_neg (by simp), ih]
  rw [cleanChars, hfilter, cleanChars]

/-- The characters that do not count at the ends of a name. -/
def isWrapping (c : Char) : Bool :=
  Text.isBlank c || c == quoteMark

theorem isBlank_of_wrapping {cs : List Char} (h : ∀ c ∈ cs, isWrapping c = true) :
    ∀ c ∈ cs.filter (· != quoteMark), Text.isBlank c = true := by
  intro c hc
  obtain ⟨hmem, hne⟩ := List.mem_filter.mp hc
  have hwrapping := h c hmem
  rw [bne_iff_ne] at hne
  simpa [isWrapping, hne] using hwrapping

theorem cleanChars_append {left right : List Char} (hleft : ∀ c ∈ left, isWrapping c = true)
    (hright : ∀ c ∈ right, isWrapping c = true) (cs : List Char) :
    cleanChars (left ++ cs ++ right) = cleanChars cs := by
  rw [cleanChars, List.filter_append, List.filter_append,
    Text.trim_append (isBlank_of_wrapping hleft) (isBlank_of_wrapping hright), cleanChars]

theorem clean_eq_iff {name cleaned : String} :
    clean name = cleaned ↔
      Text.Middle (name.toList.filter (· != quoteMark)) cleaned.toList := by
  rw [← Text.trim_eq_iff, ← cleanChars, clean]
  constructor
  · rintro rfl
    rw [String.toList_ofList]
  · intro h
    rw [h, String.ofList_toList]

theorem clean_quote (name : String) : clean (quote name) = clean name := by
  have hmark : ∀ c ∈ [quoteMark], isWrapping c = true := by simp [isWrapping]
  rw [clean, quote, String.toList_ofList, ← List.cons_append, ← List.singleton_append,
    cleanChars_append hmark hmark, cleanChars_cleanChars, clean]

theorem quote_clean (name : String) : quote (clean name) = quote name := by
  rw [quote, clean, String.toList_ofList, cleanChars_cleanChars, quote]

theorem quote_eq_quote_iff {name other : String} :
    quote name = quote other ↔ clean name = clean other := by
  constructor
  · intro h
    rw [← clean_quote name, h, clean_quote]
  · intro h
    rw [← quote_clean name, h, quote_clean]

/-- A cleaned name is the middle of the name without its backticks.  So it changes neither with
backticks anywhere in the name nor with backticks and blanks around it, it is its own cleaned
name, and it is what two names have in common that are quoted alike. -/
theorem clean_is_normal_form :
    (∀ name, quoteMark ∉ (clean name).toList ∧ Text.Tight (clean name).toList) ∧
    (∀ name cleaned, clean name = cleaned ↔
      Text.Middle (name.toList.filter (· != quoteMark)) cleaned.toList) ∧
    (∀ name ticked : String, Ticked name.toList ticked.toList → clean ticked = clean name) ∧
    (∀ left name right : String, (∀ c ∈ left.toList, isWrapping c = true) →
      (∀ c ∈ right.toList, isWrapping c = true) → clean (left ++ name ++ right) = clean name) ∧
    (∀ name, clean (clean name) = clean name) ∧
    (∀ name, clean (quote name) = clean name ∧ quote (clean name) = quote name) ∧
    (∀ name other, quote name = quote other ↔ clean name = clean other) := by
  refine ⟨fun name => ⟨quoteMark_notMem_clean name, ?_⟩, fun name cleaned => clean_eq_iff,
    fun name ticked h => ?_, fun left name right hleft hright => ?_, clean_clean,
    fun name => ⟨clean_quote name, quote_clean name⟩, fun name other => quote_eq_quote_iff⟩
  · rw [clean, String.toList_ofList]
    exact Text.tight_trim _
  · rw [clean, clean, h.cleanChars_eq]
  · rw [clean, clean, String.toList_append, String.toList_append, cleanChars_append hleft hright]

/-- The ideographic space stands behind a backtick. -/
theorem clean_is_normal_form_wrapped :
    clean ("\x60\u3000 " ++ "user id" ++ "\t\x60") = clean "user id" ∧
      clean "us\x60er id\x60" = clean "user id" := by
  obtain ⟨-, -, htick, hwrap, -⟩ := clean_is_normal_form
  refine ⟨hwrap "\x60\u3000 " "user id" "\t\x60" (List.all_eq_true.mp (by decide))
    (List.all_eq_true.mp (by decide)), htick _ _ ?_⟩
  exact .keep _ (.keep _ (.tick (.keep _ (.keep _ (.keep _ (.keep _ (.keep _ (.tick .nil))))))))

end Identifier

end TableGateway
