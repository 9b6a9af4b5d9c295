import TableGateway.Proofs.Condition.Normal

/-!
# Reading conditions back

An outline of a condition is read from the left in one way only: its first piece tells a
question about a column from a group and from the conditions that take every row or none,
an operator ends at the first operand, and a member of a group ends at its closing
parenthesis.  What is read back is the normal form.
-/

namespace TableGateway

theorem append_inj_of_all {α : Type} {p : α → Bool} {a a' b b' : List α} (ha : a.all p = true)
    (ha' : a'.all p = true) (hb : ∀ x ∈ b.head?, p x = false) (hb' : ∀ x ∈ b'.head?, p x = false)
    (h : a ++ b = a' ++ b') : a = a' ∧ b = b' := by
  induction a generalizing a' with
  | nil =>
      cases a' with
      | nil => exact ⟨rfl, h⟩
      | cons x a' =>
          rw [List.all_cons, Bool.and_eq_true] at ha'
          have hx := hb x (by rw [← List.nil_append b, h]; rfl)
          rw [ha'.1] at hx
          contradiction
  | cons x a ih =>
      rw [List.all_cons, Bool.and_eq_true] at ha
      cases a' with
      | nil =>
          have hx := hb' x (by rw [← List.nil_append b', ← h]; rfl)
          rw [ha.1] at hx
          contradiction
      | cons y a' =>
          rw [List.all_cons, Bool.and_eq_true] at ha'
          rw [List.cons_append, List.cons_append, List.cons.injEq] at h
          obtain ⟨rfl, hb⟩ := ih ha.2 ha'.2 h.2
          exact ⟨by rw [h.1], hb⟩

namespace Operator

def Takes : Operator → List Value → Prop
  | .compare _, operands => operands.length = 1
  | .nullTest _, operands => operands = []
  | .range _, operands => operands.length = 2
  | .membership _, operands => operands ≠ []

theorem spelling_injective {op op' : Operator}
    (h : (" " ++ op.sql ++ op.before).toList = (" " ++ op'.sql ++ op'.before).toList) :
    op = op' := by
  have hall : ∀ a ∈ all, ∀ b ∈ all,
      (" " ++ a.sql ++ a.before).toList = (" " ++ b.sql ++ b.before).toList → a = b := by
    decide
  exact hall op (mem_all op) op' (mem_all op') h

end Operator

namespace Piece

def isSpelling : Piece → Bool
  | .char c => c != ')'
  | .name _ => false
  | .slot _ => false

end Piece

namespace Outline

/-- What can follow a condition: the end, or a closing parenthesis. -/
def Closing (o : Outline) : Prop :=
  ∀ p ∈ o.head?, p = .char ')'

theorem join_slots_cons (separator : String) (v : Value) (vs : List Value) :
    join separator ((v :: vs).map fun v => [.slot v]) =
      .slot v :: vs.flatMap fun v => text separator ++ [.slot v] := by
  rw [join, List.map_cons, intercalate_cons, List.flatMap_map]
  rfl

theorem isSpelling_operator (op : Operator) :
    (text (" " ++ op.sql ++ op.before)).all Piece.isSpelling = true := by
  have hall : ∀ a ∈ Operator.all,
      (text (" " ++ a.sql ++ a.before)).all Piece.isSpelling = true := by
    decide
  exact hall op (Operator.mem_all op)

theorem head_operands {op : Operator} {vs : List Value} (h : op.Takes vs) {r : Outline}
    (hr : Closing r) :
    ∀ p ∈ (join op.between (vs.map fun v => [.slot v]) ++ (text op.after ++ r)).head?,
      p.isSpelling = false := by
  cases vs with
  | cons v vs =>
      rw [join_slots_cons]
      intro p hp
      cases hp
      rfl
  | nil =>
      cases op with
      | compare op => simp [Operator.Takes] at h
      | nullTest negated =>
          intro p hp
          rw [hr p hp]
          rfl
      | range negated => simp [Operator.Takes] at h
      | membership negated => simp [Operator.Takes] at h

theorem slots_inj {vs vs' : List Value} {r r' : Outline}
    (h : (vs.flatMap fun v => text ", " ++ [.slot v]) ++ .char ')' :: r =
      (vs'.flatMap fun v => text ", " ++ [.slot v]) ++ .char ')' :: r') : vs = vs' ∧ r = r' := by
  induction vs generalizing vs' with
  | nil =>
      cases vs' with
      | nil => exact ⟨rfl, (List.cons.inj h).2⟩
      | cons v' vs' => simp [text] at h
  | cons v vs ih =>
      cases vs' with
      | nil => simp [text] at h
      | cons v' vs' =>
          simp only [List.flatMap_cons, List.append_assoc, List.append_cancel_left_eq,
            List.cons_append, List.nil_append, List.cons.injEq, Piece.slot.injEq] at h
          obtain ⟨rfl, hrest⟩ := ih h.2
          exact ⟨by rw [h.1], hrest⟩

theorem operands_inj {op : Operator} {vs vs' : List Value} (hvs : op.Takes vs)
    (hvs' : op.Takes vs') {r r' : Outline}
    (h : join op.between (vs.map fun v => [.slot v]) ++ (text op.after ++ r) =
      join op.between (vs'.map fun v => [.slot v]) ++ (text op.after ++ r')) :
    vs = vs' ∧ r = r' := by
  cases op with
  | compare op =>
      obtain ⟨v, rfl⟩ := List.length_eq_one_iff.mp hvs
      obtain ⟨v', rfl⟩ := List.length_eq_one_iff.mp hvs'
      simpa [join_slots_cons, Operator.after] using h
  | nullTest negated =>
      rw [Operator.Takes] at hvs hvs'
      subst hvs hvs'
      exact ⟨rfl, h⟩
  | range negated =>
      obtain ⟨low, high, rfl⟩ := List.length_eq_two.mp hvs
      obtain ⟨low', high', rfl⟩ := List.length_eq_two.mp hvs'
      rw [join_slots_cons, join_slots_cons] at h
      simpa [Operator.after, and_assoc] using h
  | membership negated =>
      obtain ⟨v, vs, rfl⟩ := List.exists_cons_of_ne_nil hvs
      obtain ⟨v', vs', rfl⟩ := List.exists_cons_of_ne_nil hvs'
      rw [join_slots_cons, join_slots_cons, List.cons_append, List.cons_append, List.cons.injEq,
        Piece.slot.injEq] at h
      have hbetween : (Operator.membership negated).between = ", " := rfl
      have hafter : text (Operator.membership negated).after = [.char ')'] := by
        cases negated <;> decide
      rw [hbetween, hafter] at h
      obtain ⟨rfl, hrest⟩ := slots_inj h.2
      exact ⟨by rw [h.1], hrest⟩

theorem asked_inj {column column' : String} {op op' : Operator} {vs vs' : List Value}
    (hvs : op.Takes vs) (hvs' : op'.Takes vs') {r r' : Outline} (hr : Closing r)
    (hr' : Closing r') (h : asked column op vs ++ r = asked column' op' vs' ++ r') :
    column = column' ∧ op = op' ∧ vs = vs' ∧ r = r' := by
  simp only [asked, List.cons_append, List.append_assoc, List.cons.injEq, Piece.name.injEq] at h
  obtain ⟨hcolumn, h⟩ := h
  obtain ⟨hspelling, hoperands⟩ := append_inj_of_all (isSpelling_operator op)
    (isSpelling_operator op') (head_operands hvs hr) (head_operands hvs' hr') h
  have hchars : (" " ++ op.sql ++ op.before).toList = (" " ++ op'.sql ++ op'.before).toList := by
    refine List.map_injective_iff.mpr ?_ hspelling
    intro c d hcd
    exact Piece.char.inj hcd
  obtain rfl := Operator.spelling_injective hchars
  obtain ⟨hvalues, hrest⟩ := operands_inj hvs hvs' hoperands
  exact ⟨hcolumn, rfl, hvalues, hrest⟩

end Outline

namespace Condition

/-! ## Conditions without members -/

def question? : Condition → Option (String × Operator × List Value)
  | .compare column op value => some (Identifier.clean column, .compare op, [value])
  | .isNull column negated => some (Identifier.clean column, .nullTest negated, [])
  | .between column negated low high =>
    some (Identifier.clean column, .range negated, [low, high])
  | .isIn column negated values =>
    if values.isEmpty then none else some (Identifier.clean column, .membership negated, values)
  | _ => none

def ofQuestion (column : String) : Operator → List Value → Condition
  | .compare op, [value] => .compare column op value
  | .nullTest negated, _ => .isNull column negated
  | .range negated, [low, high] => .between column negated low high
  | .membership negated, values => .isIn column negated values
  | _, _ => .all

theorem of_question {c : Condition} {column : String} {op : Operator} {vs : List Value}
    (h : c.question? = some (column, op, vs)) :
    c.outline = Outline.asked column op vs ∧ op.Takes vs ∧ c.normal = ofQuestion column op vs := by
  cases c with
  | all => simp [question?] at h
  | raw sql => simp [question?] at h
  | group op members => simp [question?] at h
  | compare column op value =>
      simp only [question?, Option.some.injEq, Prod.mk.injEq] at h
      obtain ⟨rfl, rfl, rfl⟩ := h
      exact ⟨rfl, rfl, rfl⟩
  | isNull column negated =>
      simp only [question?, Option.some.injEq, Prod.mk.injEq] at h
      obtain ⟨rfl, rfl, rfl⟩ := h
      exact ⟨rfl, rfl, rfl⟩
  | between column negated low high =>
      simp only [question?, Option.some.injEq, Prod.mk.injEq] at h
      obtain ⟨rfl, rfl, rfl⟩ := h
      exact ⟨rfl, rfl, rfl⟩
  | isIn column negated values =>
      cases values with
      | nil => simp [question?] at h
      | cons v values =>
          simp only [question?, List.isEmpty_cons, Bool.false_eq_true, if_false,
            Option.some.injEq, Prod.mk.injEq] at h
          obtain ⟨rfl, rfl, rfl⟩ := h
          refine ⟨rfl, ?_, rfl⟩
          simp [Operator.Takes]

theorem kinds {c : Condition} (hraw : c.rawTexts = []) :
    (c.normal = .all ∧ c.outline = [.char '1']) ∨
      (c.normal = .isIn "" false [] ∧ c.outline = [.char '0']) ∨
      (∃ column op vs, c.question? = some (column, op, vs)) ∨
      ∃ op m ms, c = .group op (m :: ms) := by
  cases c with
  | all => exact .inl ⟨rfl, rfl⟩
  | raw sql => simp [rawTexts] at hraw
  | group op members =>
      cases members with
      | nil => exact .inl ⟨rfl, rfl⟩
      | cons m ms => exact .inr (.inr (.inr ⟨op, m, ms, rfl⟩))
  | compare column op value => exact .inr (.inr (.inl ⟨_, _, _, rfl⟩))
  | isNull column negated => exact .inr (.inr (.inl ⟨_, _, _, rfl⟩))
  | between column negated low high => exact .inr (.inr (.inl ⟨_, _, _, rfl⟩))
  | isIn column negated values =>
      cases values with
      | nil =>
          cases negated with
          | true => exact .inl ⟨rfl, rfl⟩
          | false => exact .inr (.inl ⟨rfl, rfl⟩)
      | cons v values => exact .inr (.inr (.inl ⟨_, _, _, rfl⟩))

/-! ## Groups -/

def tails (op : Connective) : List Condition → Outline
  | [] => []
  | c :: cs => Outline.text (" " ++ op.sql ++ " (") ++ (c.outline ++ .char ')' :: tails op cs)

theorem outline_group_cons (op : Connective) (m : Condition) (ms : List Condition) :
    (Condition.group op (m :: ms)).outline =
      .char '(' :: (m.outline ++ .char ')' :: tails op ms) := by
  have htails : (memberOutlines ms).flatMap (fun o => Outline.text (" " ++ op.sql ++ " ") ++
      (Outline.text "(" ++ o ++ Outline.text ")")) = tails op ms := by
    induction ms with
    | nil => rfl
    | cons c cs ih =>
        rw [memberOutlines, List.flatMap_cons, ih, tails]
        simp [Outline.text]
  rw [outline, memberOutlines, Outline.grouped, Outline.join, List.map_cons, intercalate_cons,
    List.flatMap_map, htails]
  · simp [Outline.text]
  · simp

theorem not_closing_tails (op : Connective) (c : Condition) (cs : List Condition) (r : Outline) :
    ¬ (tails op (c :: cs) ++ r).Closing := by
  intro h
  have hhead : (tails op (c :: cs) ++ r).head? = some (.char ' ') := by
    simp [tails, Outline.text]
  have hclose := h (.char ' ') hhead
  cases hclose

theorem memberNormals_eq_nil {cs : List Condition} : memberNormals cs = [] ↔ cs = [] := by
  cases cs <;> simp [memberNormals]

theorem normalGroup_congr {op op' : Connective} {c : Condition} {cs : List Condition}
    (h : cs ≠ [] → op = op') : normalGroup op (c :: cs) = normalGroup op' (c :: cs) := by
  cases cs with
  | nil => rfl
  | cons d ds => rw [h (by simp)]

theorem connective_inj {op op' : Connective} {o o' : Outline}
    (h : Outline.text (" " ++ op.sql ++ " (") ++ o = Outline.text (" " ++ op'.sql ++ " (") ++ o') :
    op = op' ∧ o = o' := by
  cases op with
  | and =>
      cases op' with
      | and => exact ⟨rfl, List.append_cancel_left h⟩
      | or => simp [Outline.text, Connective.sql] at h
  | or =>
      cases op' with
      | and => simp [Outline.text, Connective.sql] at h
      | or => exact ⟨rfl, List.append_cancel_left h⟩

theorem closing_cons (o : Outline) : Outline.Closing (.char ')' :: o) := by
  intro p hp
  cases hp
  rfl

/-! ## Reading from the left -/

theorem outline_inj_of_memberless {c d : Condition} (hc : c.rawTexts = []) (hd : d.rawTexts = [])
    (hmemberless : ∀ op m ms, c ≠ .group op (m :: ms)) {r r' : Outline} (hr : r.Closing)
    (hr' : r'.Closing) (h : c.outline ++ r = d.outline ++ r') : c.normal = d.normal ∧ r = r' := by
  rcases kinds hc with ⟨hnormal, houtline⟩ | ⟨hnormal, houtline⟩ | ⟨column, op, vs, hquestion⟩ |
    ⟨op, m, ms, heq⟩
  · rw [houtline] at h
    rcases kinds hd with ⟨hnormal', houtline'⟩ | ⟨-, houtline'⟩ | ⟨column, op, vs, hquestion⟩ |
      ⟨op, m, ms, rfl⟩
    · rw [houtline'] at h
      exact ⟨hnormal.trans hnormal'.symm, List.append_cancel_left h⟩
    · simp [houtline'] at h
    · simp [(of_question hquestion).1, Outline.asked] at h
    · simp [outline_group_cons] at h
  · rw [houtline] at h
    rcases kinds hd with ⟨-, houtline'⟩ | ⟨hnormal', houtline'⟩ | ⟨column, op, vs, hquestion⟩ |
      ⟨op, m, ms, rfl⟩
    · simp [houtline'] at h
    · rw [houtline'] at h
      exact ⟨hnormal.trans hnormal'.symm, List.append_cancel_left h⟩
    · simp [(of_question hquestion).1, Outline.asked] at h
    · simp [outline_group_cons] at h
  · obtain ⟨houtline, htakes, hnormal⟩ := of_question hquestion
    rw [houtline] at h
    rcases kinds hd with ⟨-, houtline'⟩ | ⟨-, houtline'⟩ | ⟨column', op', vs', hquestion'⟩ |
      ⟨op', m, ms, rfl⟩
    · simp [houtline', Outline.asked] at h
    · simp [houtline', Outline.asked] at h
    · obtain ⟨houtline', htakes', hnormal'⟩ := of_question hquestion'
      rw [houtline'] at h
      obtain ⟨rfl, rfl, rfl, hrest⟩ := Outline.asked_inj htakes htakes' hr hr' h
      exact ⟨hnormal.trans hnormal'.symm, hrest⟩
    · simp [outline_group_cons, Outline.asked] at h
  · exact absurd heq (hmemberless op m ms)

theorem exists_group_of_head {d : Condition} (hd : d.rawTexts = []) {o r : Outline}
    (h : .char '(' :: o = d.outline ++ r) : ∃ op m ms, d = .group op (m :: ms) := by
  rcases kinds hd with ⟨-, houtline⟩ | ⟨-, houtline⟩ | ⟨column, op, vs, hquestion⟩ | hgroup
  · simp [houtline] at h
  · simp [houtline] at h
  · simp [(of_question hquestion).1, Outline.asked] at h
  · exact hgroup

mutual

theorem outline_inj {c d : Condition} (hc : c.rawTexts = []) (hd : d.rawTexts = [])
    {r r' : Outline} (hr : r.Closing) (hr' : r'.Closing)
    (h : c.outline ++ r = d.outline ++ r') : c.normal = d.normal ∧ r = r' := by
  cases c with
  | all => exact outline_inj_of_memberless hc hd (by simp) hr hr' h
  | raw sql => simp [rawTexts] at hc
  | compare column op value => exact outline_inj_of_memberless hc hd (by simp) hr hr' h
  | isNull column negated => exact outline_inj_of_memberless hc hd (by simp) hr hr' h
  | between column negated low high => exact outline_inj_of_memberless hc hd (by simp) hr hr' h
  | isIn column negated values => exact outline_inj_of_memberless hc hd (by simp) hr hr' h
  | group op members =>
      cases members with
      | nil => exact outline_inj_of_memberless hc hd (by simp) hr hr' h
      | cons m ms =>
          rw [outline_group_cons, List.cons_append] at h
          obtain ⟨op', m', ms', rfl⟩ := exists_group_of_head hd h
          rw [outline_group_cons, List.cons_append, List.cons.injEq, List.append_assoc,
            List.append_assoc, List.cons_append, List.cons_append] at h
          rw [rawTexts, memberRawTexts, List.append_eq_nil_iff] at hc hd
          -- The first member ends at its own parenthesis, and the rest of the group at that
          -- of its last member.
          obtain ⟨hfirst, hrest⟩ := outline_inj hc.1 hd.1 (closing_cons _) (closing_cons _) h.2
          obtain ⟨hmembers, hop, hr⟩ := tails_inj hc.2 hd.2 hr hr' (List.cons.inj hrest).2
          refine ⟨?_, hr⟩
          rw [normal, normal, memberNormals, memberNormals, hfirst, hmembers]
          apply normalGroup_congr
          rw [← hmembers]
          exact fun hne => hop fun hnil => hne (memberNormals_eq_nil.mpr hnil)

theorem tails_inj {op op' : Connective} {cs ds : List Condition} (hcs : memberRawTexts cs = [])
    (hds : memberRawTexts ds = []) {r r' : Outline} (hr : r.Closing) (hr' : r'.Closing)
    (h : tails op cs ++ r = tails op' ds ++ r') :
    memberNormals cs = memberNormals ds ∧ (cs ≠ [] → op = op') ∧ r = r' := by
  cases cs with
  | nil =>
      cases ds with
      | nil => exact ⟨rfl, fun hne => absurd rfl hne, h⟩
      | cons d ds =>
          have hnil : r = tails op' (d :: ds) ++ r' := h
          rw [hnil] at hr
          exact absurd hr (not_closing_tails op' d ds r')
  | cons c cs =>
      cases ds with
      | nil =>
          have hnil : tails op (c :: cs) ++ r = r' := h
          rw [← hnil] at hr'
          exact absurd hr' (not_closing_tails op c cs r)
      | cons d ds =>
          simp only [tails, List.append_assoc, List.cons_append] at h
          obtain ⟨hop, h⟩ := connective_inj h
          rw [memberRawTexts, List.append_eq_nil_iff] at hcs hds
          obtain ⟨hfirst, hrest⟩ := outline_inj hcs.1 hds.1 (closing_cons _) (closing_cons _) h
          obtain ⟨hmembers, -, hr⟩ := tails_inj hcs.2 hds.2 hr hr' (List.cons.inj hrest).2
          exact ⟨by rw [memberNormals, memberNormals, hfirst, hmembers], fun _ => hop, hr⟩

end

end Condition

end TableGateway
