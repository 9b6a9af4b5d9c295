import TableGateway.Proofs.Condition.Outline

/-!
# Normal forms of conditions

What a condition says is left in its normal form: columns are cleaned, the ways to take
every row or none are one condition each, and a group with one member forgets its
connective.  Conditions with one normal form have one outline.
-/

namespace TableGateway.Condition

def normalGroup (op : Connective) : List Condition → Condition
  | [] => .all
  | [member] => .group .and [member]
  | members => .group op members

mutual

def normal : Condition → Condition
  | .all => .all
  | .raw sql => .raw sql
  | .group op members => normalGroup op (memberNormals members)
  | .compare column op value => .compare (Identifier.clean column) op value
  | .isNull column negated => .isNull (Identifier.clean column) negated
  | .between column negated low high => .between (Identifier.clean column) negated low high
  | .isIn column negated values =>
    if values.isEmpty then (if negated then .all else .isIn "" false [])
    else .isIn (Identifier.clean column) negated values

def memberNormals : List Condition → List Condition
  | [] => []
  | c :: cs => normal c :: memberNormals cs

end

theorem outline_normalGroup (op : Connective) (members : List Condition) :
    (normalGroup op members).outline = Outline.grouped op (memberOutlines members) := by
  cases members with
  | nil => rfl
  | cons c cs =>
      cases cs with
      | nil => simp [normalGroup, outline, memberOutlines, Outline.grouped]
      | cons d ds => rw [normalGroup, outline] <;> simp

mutual

theorem outline_normal (c : Condition) : c.normal.outline = c.outline := by
  cases c with
  | all => rfl
  | raw sql => rfl
  | group op members =>
      rw [normal, outline_normalGroup, outline_memberNormals members, outline]
  | compare column op value => rw [normal, outline, outline, Identifier.clean_clean]
  | isNull column negated => rw [normal, outline, outline, Identifier.clean_clean]
  | between column negated low high => rw [normal, outline, outline, Identifier.clean_clean]
  | isIn column negated values =>
      rw [normal]
      cases values with
      | nil => cases negated <;> simp [outline]
      | cons v values => simp [outline, Identifier.clean_clean]

theorem outline_memberNormals (cs : List Condition) :
    memberOutlines (memberNormals cs) = memberOutlines cs := by
  cases cs with
  | nil => rfl
  | cons c cs =>
      rw [memberNormals, memberOutlines, memberOutlines, outline_normal c,
        outline_memberNormals cs]

end

end TableGateway.Condition
