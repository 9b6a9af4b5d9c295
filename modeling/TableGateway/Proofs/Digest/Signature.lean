import TableGateway.Proofs.Identifier.Cleaning
import TableGateway.StatementCache

/-!
# Signatures of statements

A signature spells a digest in hexadecimal digits, which spell no other digest.  So texts
without blanks around them have one signature only if they have one digest, and a cache
without such texts returns for a text what was last kept for this very text.
-/

namespace TableGateway

namespace Text

theorem hexDigit_injOn : ∀ m < 16, ∀ n < 16, hexDigit m = hexDigit n → m = n := by
  decide

theorem hex_injective {a b : List UInt8} (h : hex a = hex b) : a = b := by
  have hdigits := String.ofList_injective h
  clear h
  induction a generalizing b with
  | nil =>
      cases b with
      | nil => rfl
      | cons y b => simp at hdigits
  | cons x a ih =>
      cases b with
      | nil => simp at hdigits
      | cons y b =>
          simp only [List.flatMap_cons, List.cons_append, List.nil_append,
            List.cons.injEq] at hdigits
          obtain ⟨hhigh, hlow, hrest⟩ := hdigits
          have hx := x.toNat_lt
          have hy := y.toNat_lt
          have hdiv := hexDigit_injOn _ (by omega) _ (by omega) hhigh
          have hmod := hexDigit_injOn _ (by omega) _ (by omega) hlow
          have hbyte : x = y := UInt8.toNat_inj.mp (by omega)
          rw [hbyte, ih hrest]

def trimmed (sql : String) : String :=
  String.ofList (trim sql.toList)

@[simp] theorem trimmed_trimmed (sql : String) : trimmed (trimmed sql) = trimmed sql := by
  simp [trimmed, trim_trim]

end Text

theorem signature_eq_iff {s t : String} :
    signature s = signature t ↔
      Sha256.digest (Text.utf8 (Text.trimmed s)) = Sha256.digest (Text.utf8 (Text.trimmed t)) :=
  ⟨Text.hex_injective, congrArg Text.hex⟩

namespace StatementCache

variable {η : Type}

@[simp] theorem get?_empty (sql : String) : (empty : StatementCache η).get? sql = none := by
  simp [empty, get?]

theorem get?_insert (c : StatementCache η) (sql sql' : String) (handle : η) :
    (c.insert sql handle).get? sql' =
      if signature sql = signature sql' then some handle else c.get? sql' := by
  simp [insert, get?, Std.TreeMap.getElem?_insert]

end StatementCache

end TableGateway
