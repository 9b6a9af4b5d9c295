import Mathlib.Data.List.Infix
import TableGateway.Proofs.Condition.Wording
import TableGateway.Proofs.Number.Numeral
import TableGateway.Proofs.Statement.Parameters

/-!
# The tails of statements

Behind its condition a statement says in which order rows are wanted and which of them.  This
tail is read back from its text: a name ends at its backtick whatever it holds, behind a direction
only a comma goes on with the order, and a number ends where its digits do.
-/

namespace TableGateway

/-- Which rows of a result are wanted.  There is no offset without a limit. -/
inductive Window where
  | all
  | first (limit : Nat)
  | slice (limit offset : Nat)
  deriving DecidableEq, Repr

structure Tail where
  order : List (String × Bool)
  window : Window
  deriving DecidableEq, Repr

namespace Text

def behind? (word cs : List Char) : Option (List Char) :=
  word.isPrefixOf? cs

theorem behind?_append (word cs : List Char) : behind? word (word ++ cs) = some cs :=
  List.isPrefixOf?_eq_some_iff_append_eq.mpr rfl

theorem length_behind? {word cs rest : List Char} (h : behind? word cs = some rest) :
    rest.length ≤ cs.length := by
  rw [← List.isPrefixOf?_eq_some_iff_append_eq.mp h, List.length_append]
  omega

theorem toLower_of_not_capital {c : Char} (h : ¬ (0x41 ≤ c.toNat ∧ c.toNat ≤ 0x5a)) :
    c.toLower = c :=
  dif_neg h

theorem toLower_toUpper (c : Char) : c.toUpper.toLower = c.toLower := by
  by_cases hsmall : c.toNat < 0x80
  · have hall : ∀ n < 0x80, (Char.ofNat n).toUpper.toLower = (Char.ofNat n).toLower := by
      decide +kernel
    have h := hall c.toNat hsmall
    rwa [Char.ofNat_toNat] at h
  · rw [toUpper_of_not_small (by omega)]

theorem toUpper_toLower (c : Char) : c.toLower.toUpper = c.toUpper := by
  by_cases hsmall : c.toNat < 0x80
  · have hall : ∀ n < 0x80, (Char.ofNat n).toLower.toUpper = (Char.ofNat n).toUpper := by
      decide +kernel
    have h := hall c.toNat hsmall
    rwa [Char.ofNat_toNat] at h
  · rw [toLower_of_not_capital (by omega)]

theorem equalsIgnoringCase_iff (a b : List Char) :
    equalsIgnoringCase a b = true ↔ a.map Char.toLower = b.map Char.toLower := by
  have hlower : (Char.toLower ∘ Char.toUpper) = Char.toLower := funext toLower_toUpper
  have hupper : (Char.toUpper ∘ Char.toLower) = Char.toUpper := funext toUpper_toLower
  rw [equalsIgnoringCase, beq_iff_eq]
  constructor
  · intro h
    have hmap := congrArg (List.map Char.toLower) h
    rwa [List.map_map, List.map_map, hlower] at hmap
  · intro h
    have hmap := congrArg (List.map Char.toUpper) h
    rwa [List.map_map, List.map_map, hupper] at hmap
end Text

/-! ## Windows -/

namespace Window

def limitWord : List Char := [' ', 'L', 'I', 'M', 'I', 'T', ' ']

def offsetWord : List Char := [' ', 'O', 'F', 'F', 'S', 'E', 'T', ' ']

def chars : Window → List Char
  | .all => []
  | .first limit => limitWord ++ Text.decimal limit
  | .slice limit offset =>
    limitWord ++ (Text.decimal limit ++ (offsetWord ++ Text.decimal offset))

def limited? (cs : List Char) : Option Window :=
  match Text.spanDigits cs with
  | (digits, []) => (Text.natural? digits).map .first
  | (digits, rest) => do
    let limit ← Text.natural? digits
    let offset ← (Text.behind? offsetWord rest).bind Text.natural?
    return .slice limit offset

def ofChars? : List Char → Option Window
  | [] => some .all
  | cs => (Text.behind? limitWord cs).bind limited?

theorem limited?_first (limit : Nat) : limited? (Text.decimal limit) = some (.first limit) := by
  have hspan : Text.spanDigits (Text.decimal limit ++ []) = (Text.decimal limit, []) :=
    Text.spanDigits_decimal_append limit (by simp)
  rw [List.append_nil] at hspan
  simp only [limited?, hspan, Text.natural?_decimal, Option.map_some]

theorem limited?_slice (limit offset : Nat) :
    limited? (Text.decimal limit ++ (offsetWord ++ Text.decimal offset)) =
      some (.slice limit offset) := by
  have hword : ∀ c ∈ (offsetWord ++ Text.decimal offset).head?, Text.isDigit c = false := by
    rintro c ⟨⟩
    decide
  have hspan := Text.spanDigits_decimal_append limit hword
  have hoffset : offsetWord ++ Text.decimal offset ≠ [] := List.cons_ne_nil _ _
  unfold limited?
  rw [hspan]
  split
  · rename_i heq
    exact absurd (Prod.mk.inj heq).2 hoffset
  · rename_i heq
    cases heq
    rw [Text.natural?_decimal, Text.behind?_append]
    simp [Text.natural?_decimal]

theorem ofChars?_limit (cs : List Char) : ofChars? (limitWord ++ cs) = limited? cs :=
  congrArg (·.bind limited?) (Text.behind?_append limitWord cs)

theorem ofChars?_chars (w : Window) : ofChars? w.chars = some w := by
  cases w with
  | all => rfl
  | first limit => rw [chars, ofChars?_limit, limited?_first]
  | slice limit offset => rw [chars, ofChars?_limit, limited?_slice]

/-- The window of a limit and an offset, for which zero stands for none. -/
def ofLimits (limit offset : UInt64) : Window :=
  if offset = 0 then if limit = 0 then .all else .first limit.toNat
  else .slice (if limit = 0 then Nat.pow 2 64 - 1 else limit.toNat) offset.toNat

end Window

/-! ## Orders -/

namespace Tail

def orderWord : List Char := [' ', 'O', 'R', 'D', 'E', 'R', ' ', 'B', 'Y', ' ']

def comma : List Char := [',', ' ']

def directionWord : Bool → List Char
  | true => [' ', 'D', 'E', 'S', 'C']
  | false => [' ', 'A', 'S', 'C']

def keyChars (key : String × Bool) : List Char :=
  Identifier.quoteMark :: (key.1.toList ++ Identifier.quoteMark :: directionWord key.2)

def orderChars (keys : List (String × Bool)) : List Char :=
  if keys.isEmpty then [] else orderWord ++ comma.intercalate (keys.map keyChars)

def chars (t : Tail) : List Char :=
  orderChars t.order ++ t.window.chars

def Sound (t : Tail) : Prop :=
  ∀ key ∈ t.order, Identifier.quoteMark ∉ key.1.toList

def readDirection? (cs : List Char) : Option (Bool × List Char) :=
  match Text.behind? (directionWord true) cs with
  | some rest => some (true, rest)
  | none => (Text.behind? (directionWord false) cs).map (false, ·)

def readKey? : List Char → Option ((String × Bool) × List Char)
  | [] => none
  | c :: cs =>
    if c = Identifier.quoteMark then
      match cs.dropWhile (· != Identifier.quoteMark) with
      | [] => none
      | _ :: rest => (readDirection? rest).map fun r =>
        ((String.ofList (cs.takeWhile (· != Identifier.quoteMark)), r.1), r.2)
    else none

theorem length_readDirection? {cs rest : List Char} {descending : Bool}
    (h : readDirection? cs = some (descending, rest)) : rest.length ≤ cs.length := by
  unfold readDirection? at h
  split at h
  · rename_i hword
    cases h
    exact Text.length_behind? hword
  · obtain ⟨after, hword, heq⟩ := Option.map_eq_some_iff.mp h
    cases heq
    exact Text.length_behind? hword

theorem length_readKey? {cs rest : List Char} {key : String × Bool}
    (h : readKey? cs = some (key, rest)) : rest.length < cs.length := by
  cases cs with
  | nil => contradiction
  | cons c cs =>
      simp only [readKey?] at h
      split at h
      · split at h
        · contradiction
        · rename_i d after hdrop
          obtain ⟨⟨descending, rest⟩, hdirection, heq⟩ := Option.map_eq_some_iff.mp h
          cases heq
          have hle : rest.length ≤ after.length := length_readDirection? hdirection
          have hdropped := List.length_dropWhile_le (· != Identifier.quoteMark) cs
          rw [hdrop, List.length_cons] at hdropped
          change rest.length < cs.length + 1
          omega
      · contradiction

def readKeys? (cs : List Char) : Option (List (String × Bool) × List Char) :=
  match _hkey : readKey? cs with
  | none => none
  | some (key, rest) =>
    match _hcomma : Text.behind? comma rest with
    | none => some ([key], rest)
    | some more => (readKeys? more).map fun r => (key :: r.1, r.2)
  termination_by cs.length
  decreasing_by
    have hlt := length_readKey? _hkey
    have hle := Text.length_behind? _hcomma
    omega

def ofChars? (cs : List Char) : Option Tail :=
  match Text.behind? orderWord cs with
  | none => (Window.ofChars? cs).map (⟨[], ·⟩)
  | some rest => do
    let (order, rest) ← readKeys? rest
    let window ← Window.ofChars? rest
    return ⟨order, window⟩

theorem readDirection?_append (descending : Bool) (rest : List Char) :
    readDirection? (directionWord descending ++ rest) = some (descending, rest) := by
  cases descending with
  | true => rw [readDirection?, Text.behind?_append]
  | false =>
      have hnone : Text.behind? (directionWord true) (directionWord false ++ rest) = none := rfl
      rw [readDirection?, hnone, Text.behind?_append]
      rfl

theorem readKey?_append {key : String × Bool} (h : Identifier.quoteMark ∉ key.1.toList)
    (rest : List Char) : readKey? (keyChars key ++ rest) = some (key, rest) := by
  have hname : ∀ c ∈ key.1.toList, (c != Identifier.quoteMark) = true := by
    intro c hc
    rw [bne_iff_ne]
    rintro rfl
    exact h hc
  have hdrop : (key.1.toList ++ Identifier.quoteMark :: (directionWord key.2 ++ rest)).dropWhile
      (· != Identifier.quoteMark) = Identifier.quoteMark :: (directionWord key.2 ++ rest) := by
    rw [List.dropWhile_append_of_pos hname, List.dropWhile_cons_of_neg (by simp)]
  have htake : (key.1.toList ++ Identifier.quoteMark :: (directionWord key.2 ++ rest)).takeWhile
      (· != Identifier.quoteMark) = key.1.toList := by
    rw [List.takeWhile_append_of_pos hname, List.takeWhile_cons_of_neg (by simp), List.append_nil]
  rw [keyChars, List.cons_append, List.append_assoc, List.cons_append, readKey?, if_pos rfl, hdrop,
    htake]
  simp only [readDirection?_append, Option.map_some, String.ofList_toList]

theorem readKeys?_last {cs rest : List Char} {key : String × Bool}
    (hkey : readKey? cs = some (key, rest)) (hrest : Text.behind? comma rest = none) :
    readKeys? cs = some ([key], rest) := by
  rw [readKeys?]
  split
  · rename_i hnone
    rw [hkey] at hnone
    contradiction
  · rename_i heq
    cases hkey.symm.trans heq
    split
    · rfl
    · rename_i hsome
      rw [hrest] at hsome
      contradiction

theorem readKeys?_more {cs rest more : List Char} {key : String × Bool}
    (hkey : readKey? cs = some (key, rest)) (hrest : Text.behind? comma rest = some more) :
    readKeys? cs = (readKeys? more).map fun r => (key :: r.1, r.2) := by
  rw [readKeys?]
  split
  · rename_i hnone
    rw [hkey] at hnone
    contradiction
  · rename_i heq
    cases hkey.symm.trans heq
    split
    · rename_i hnone
      rw [hrest] at hnone
      contradiction
    · rename_i heq
      cases hrest.symm.trans heq
      rfl

theorem readKeys?_append {key : String × Bool} {keys : List (String × Bool)}
    (h : ∀ k ∈ key :: keys, Identifier.quoteMark ∉ k.1.toList) {rest : List Char}
    (hrest : Text.behind? comma rest = none) :
    readKeys? (comma.intercalate ((key :: keys).map keyChars) ++ rest) =
      some (key :: keys, rest) := by
  rw [List.map_cons]
  induction keys generalizing key with
  | nil =>
      rw [List.map_nil, List.intercalate_singleton]
      exact readKeys?_last (readKey?_append (h key List.mem_cons_self) rest) hrest
  | cons next keys ih =>
      rw [List.map_cons, List.intercalate_cons_cons, List.append_assoc, List.append_assoc]
      rw [readKeys?_more (readKey?_append (h key List.mem_cons_self) _)
        (Text.behind?_append comma _), ih fun k hk => h k (List.mem_cons_of_mem _ hk)]
      rfl

theorem behind?_comma_window (w : Window) : Text.behind? comma w.chars = none := by
  cases w <;> rfl

theorem behind?_orderWord_window (w : Window) : Text.behind? orderWord w.chars = none := by
  cases w <;> rfl

theorem ofChars?_chars {t : Tail} (h : t.Sound) : ofChars? t.chars = some t := by
  obtain ⟨order, window⟩ := t
  cases order with
  | nil =>
      change ofChars? window.chars = _
      rw [ofChars?, behind?_orderWord_window]
      dsimp only
      rw [Window.ofChars?_chars]
      rfl
  | cons key keys =>
      have hchars : chars ⟨key :: keys, window⟩ =
          orderWord ++ (comma.intercalate ((key :: keys).map keyChars) ++ window.chars) :=
        List.append_assoc _ _ _
      rw [hchars, ofChars?, Text.behind?_append]
      dsimp only
      rw [readKeys?_append h (behind?_comma_window window)]
      simp only [Option.bind_eq_bind, Option.bind_some, Window.ofChars?_chars, Option.pure_def]

theorem sound_window (w : Window) : Sound ⟨[], w⟩ :=
  fun _ h => nomatch h

theorem chars_window (w : Window) : chars ⟨[], w⟩ = w.chars := rfl

theorem chars_inj {t u : Tail} (ht : t.Sound) (hu : u.Sound) (h : t.chars = u.chars) : t = u := by
  have hread := ofChars?_chars ht
  rw [h, ofChars?_chars hu] at hread
  exact (Option.some.inj hread).symm

theorem orderWord_infix_chars_iff (t : Tail) : orderWord <:+: t.chars ↔ t.order ≠ [] := by
  obtain ⟨order, window⟩ := t
  cases order with
  | nil =>
      refine iff_of_false ?_ fun h => h rfl
      intro hinfix
      have hmem : 'R' ∈ window.chars := hinfix.subset (by decide)
      have hdigits : ∀ n, 'R' ∉ Text.decimal n := by
        intro n hn
        exact absurd (Text.isDigit_of_mem_digits hn) (by decide)
      cases window with
      | all => exact absurd hmem (by decide)
      | first limit =>
          rw [Window.chars, List.mem_append] at hmem
          exact hmem.elim (by decide) (hdigits limit)
      | slice limit offset =>
          simp only [Window.chars, List.mem_append] at hmem
          rcases hmem with hmem | hmem | hmem | hmem
          · exact absurd hmem (by decide)
          · exact hdigits limit hmem
          · exact absurd hmem (by decide)
          · exact hdigits offset hmem
  | cons key keys =>
      refine iff_of_true ?_ (List.cons_ne_nil _ _)
      exact ⟨[], comma.intercalate ((key :: keys).map keyChars) ++ window.chars,
        (List.append_assoc _ _ _).symm⟩

/-- Whether a text is written for a tail, and for no other, and is read as this tail. -/
structure ReadsAs (tail : String) (t : Tail) : Prop where
  sound : t.Sound
  written : tail.toList = t.chars
  unique : ∀ u : Tail, u.Sound → tail.toList = u.chars → u = t
  read : ofChars? tail.toList = some t
  ordered : orderWord <:+: tail.toList ↔ t.order ≠ []

theorem readsAs_chars {t : Tail} (h : t.Sound) : ReadsAs (String.ofList t.chars) t where
  sound := h
  written := String.toList_ofList
  unique := fun u hu heq => chars_inj hu h (by rw [← heq, String.toList_ofList])
  read := by rw [String.toList_ofList, ofChars?_chars h]
  ordered := by rw [String.toList_ofList, orderWord_infix_chars_iff]

end Tail

/-! ## Statements -/

/-- What the pairs of a column and a direction ask for.  A column of which cleaning leaves nothing
is passed over, and a direction is descending if it spells `desc` between blanks. -/
def OrderBy.asked (list : List (String × String)) : List (String × Bool) :=
  (list.filter fun p => Identifier.clean p.1 ≠ "").map fun p =>
    (Identifier.clean p.1, (Text.trim p.2.toList).map Char.toLower = ['d', 'e', 's', 'c'])

theorem OrderBy.keys_eq_asked (list : List (String × String)) : keys list = asked list := by
  have hdirection : ∀ direction, isDescending direction =
      decide ((Text.trim direction.toList).map Char.toLower = ['d', 'e', 's', 'c']) := by
    intro direction
    rw [Bool.eq_iff_iff, isDescending, Text.equalsIgnoringCase_iff, decide_eq_true_iff]
    exact Iff.rfl
  induction list with
  | nil => rfl
  | cons p list ih =>
      rw [keys, asked] at ih
      rw [keys, asked, List.filterMap_cons, List.filter_cons, ih]
      by_cases hempty : Identifier.clean p.1 = "" <;> simp [hempty, hdirection]

namespace Statement

theorem chars_keyClause (key : String × Bool) :
    Clause.chars (OrderBy.keyClause key) = Tail.keyChars key := by
  obtain ⟨name, descending⟩ := key
  cases descending <;>
    simp [OrderBy.keyClause, Fragment.chars, Tail.keyChars, Tail.directionWord]

theorem chars_orderClause (list : List (String × String)) :
    Clause.chars (orderClause (some (.columns list))) =
      Tail.orderChars (OrderBy.keys list) := by
  rw [orderClause, Option.bind_some, OrderBy.clause?, Tail.orderChars]
  by_cases hempty : (OrderBy.keys list).isEmpty = true
  · rw [if_pos hempty, if_pos hempty]
    rfl
  · rw [if_neg hempty, if_neg hempty]
    dsimp only
    rw [Clause.chars_cons, Clause.join, Clause.chars, flatMap_intercalate, List.map_map]
    have hword : Fragment.chars (.text " ORDER BY ") = Tail.orderWord := by decide
    have hcomma : [Fragment.text ", "].flatMap Fragment.chars = Tail.comma := by decide
    have hkeys : (fun c : Clause => c.flatMap Fragment.chars) ∘ OrderBy.keyClause =
        Tail.keyChars := funext chars_keyClause
    rw [hword, hcomma, hkeys]

theorem chars_limitClause (limit : UInt64) :
    Clause.chars (limitClause limit) = (Window.ofLimits limit 0).chars := by
  rw [limitClause, Window.ofLimits, if_pos rfl]
  by_cases hlimit : limit = 0
  · rw [if_pos hlimit, if_pos hlimit]
    rfl
  · rw [if_neg hlimit, if_neg hlimit]
    simp [Fragment.chars, Clause.number, Window.chars, Window.limitWord]

theorem chars_windowClause (limit offset : UInt64) :
    Clause.chars (windowClause limit offset) = (Window.ofLimits limit offset).chars := by
  rw [windowClause]
  by_cases hoffset : offset = 0
  · rw [if_pos hoffset, chars_limitClause, hoffset]
  · rw [if_neg hoffset, Window.ofLimits, if_neg hoffset]
    simp [Fragment.chars, Clause.number, Window.chars, Window.limitWord, Window.offsetWord]

def EndsIn (result : Except Error Statement) (built : Except Error String) (t : Tail) : Prop :=
  ∃ tail, Tail.ReadsAs tail t ∧ result.map (·.sql) = built.map (· ++ tail)

theorem endsIn_intro {result : Except Error Statement} {built : Except Error String} {t : Tail}
    (ht : t.Sound) (h : result.map (·.sql) = built.map (· ++ String.ofList t.chars)) :
    EndsIn result built t :=
  ⟨String.ofList t.chars, Tail.readsAs_chars ht, h⟩

theorem map_sql_select (table : String) (condition : Condition) (order : Option OrderBy)
    (limit offset : UInt64) :
    (select table condition order limit offset).map (·.sql) =
      (condition.compile.map fun c =>
        "SELECT * FROM " ++ Identifier.quote table ++ " WHERE " ++ c.1).map
        (· ++ Clause.sql (orderClause order ++ windowClause limit offset)) := by
  rw [compile_eq, select, selectClause]
  cases whereClause condition <;>
    simp [bind, Except.bind, pure, Except.pure, Except.map, ofClause, String.append_assoc]

theorem map_sql_delete (table : String) (condition : Condition) (limit : UInt64) :
    (delete table condition limit).map (·.sql) =
      (condition.compile.map fun c =>
        "DELETE FROM " ++ Identifier.quote table ++ " WHERE " ++ c.1).map
        (· ++ Clause.sql (limitClause limit)) := by
  rw [compile_eq, delete, deleteClause]
  cases whereClause condition <;>
    simp [bind, Except.bind, pure, Except.pure, Except.map, ofClause, String.append_assoc]

theorem updateSql_append (table : String) (list : List Assignment) (restriction : String)
    (limit : UInt64) :
    updateSql table list restriction limit =
      updateSql table list restriction 0 ++ Clause.sql (limitClause limit) := by
  have hnone : Clause.sql (limitClause 0) = "" := rfl
  rw [updateSql, updateSql, hnone, String.append_empty]

theorem map_sql_update (table : String) (values : Bindings) (condition : Condition)
    (limit : UInt64) :
    (update table values condition limit).map (·.sql) =
      ((assignments table values).bind fun list =>
        condition.compile.map fun c => updateSql table list c.1 0).map
        (· ++ Clause.sql (limitClause limit)) := by
  rw [compile_eq, update, updateClause, assignments_eq]
  by_cases hempty : Assignment.ofBindings values = []
  · rw [if_pos hempty]
    rfl
  · rw [if_neg hempty]
    cases hrestriction : whereClause condition with
    | error e => rfl
    | ok restriction =>
        change Except.ok (ofClause _).sql = Except.ok _
        rw [ofClause_update table values limit hrestriction, updateSql_append]

theorem sound_asked (list : List (String × String)) (w : Window) :
    Tail.Sound ⟨OrderBy.asked list, w⟩ := by
  intro key hkey
  rw [← OrderBy.keys_eq_asked] at hkey
  exact quoteMark_notMem_key hkey

theorem sql_orderClause_append_windowClause (list : List (String × String))
    (limit offset : UInt64) :
    Clause.sql (orderClause (some (.columns list)) ++ windowClause limit offset) =
      String.ofList (Tail.chars ⟨OrderBy.asked list, Window.ofLimits limit offset⟩) := by
  rw [Clause.sql, Clause.chars_append, chars_orderClause, chars_windowClause,
    OrderBy.keys_eq_asked, Tail.chars]

/-- A selection ends in its order and its window, an update and a deletion in a limit.  The order
has the columns that are asked for, each with its direction. -/
theorem tail_reads_back (table : String) (condition : Condition) (limit offset : UInt64) :
    (∀ list, EndsIn (select table condition (some (.columns list)) limit offset)
      (condition.compile.map fun c =>
        "SELECT * FROM " ++ Identifier.quote table ++ " WHERE " ++ c.1)
      ⟨OrderBy.asked list, Window.ofLimits limit offset⟩) ∧
    EndsIn (select table condition none limit offset)
      (condition.compile.map fun c =>
        "SELECT * FROM " ++ Identifier.quote table ++ " WHERE " ++ c.1)
      ⟨[], Window.ofLimits limit offset⟩ ∧
    (∀ values, EndsIn (update table values condition limit)
      ((assignments table values).bind fun list =>
        condition.compile.map fun c => updateSql table list c.1 0)
      ⟨[], Window.ofLimits limit 0⟩) ∧
    EndsIn (delete table condition limit)
      (condition.compile.map fun c =>
        "DELETE FROM " ++ Identifier.quote table ++ " WHERE " ++ c.1)
      ⟨[], Window.ofLimits limit 0⟩ := by
  refine ⟨fun list => ?_, ?_, fun values => ?_, ?_⟩
  · refine endsIn_intro (sound_asked list _) ?_
    rw [map_sql_select, sql_orderClause_append_windowClause]
  · refine endsIn_intro (Tail.sound_window _) ?_
    rw [map_sql_select, Tail.chars_window, ← chars_windowClause]
    rfl
  · refine endsIn_intro (Tail.sound_window _) ?_
    rw [map_sql_update, Tail.chars_window, ← chars_limitClause]
    rfl
  · refine endsIn_intro (Tail.sound_window _) ?_
    rw [map_sql_delete, Tail.chars_window, ← chars_limitClause]
    rfl

example :
    Tail.chars ⟨OrderBy.asked [("a`, `b", " desc\t"), ("``", "DESC"), (" LIMIT 1", "x")],
      Window.ofLimits 0 7⟩ =
      " ORDER BY `a, b` DESC, `LIMIT 1` ASC LIMIT 18446744073709551615 OFFSET 7".toList := by
  decide +kernel

end Statement

end TableGateway
