import Mathlib.Data.List.DropRight
import TableGateway.Identifier

/-!
# Cleaned names

A cleaned name holds no backtick, so that its quoted form ends where it seems to.
Cleaning it again changes nothing.
-/

namespace TableGateway

namespace Text

theorem mem_of_mem_trim {c : Char} {cs : List Char} (h : c ∈ trim cs) : c ∈ cs := by
  have hreverse : c ∈ (trimStart cs).reverse.dropWhile isBlank := List.mem_reverse.mp h
  have hstart : c ∈ trimStart cs :=
    List.mem_reverse.mp ((List.dropWhile_sublist isBlank).mem hreverse)
  exact (List.dropWhile_sublist isBlank).mem hstart

theorem trimStart_trim (cs : List Char) : trimStart (trim cs) = trim cs := by
  cases htrim : trim cs with
  | nil => rfl
  | cons c rest =>
      have hprefix : trim cs <+: trimStart cs := List.rdropWhile_prefix isBlank (trimStart cs)
      obtain ⟨tail, htail⟩ := hprefix
      have hhead := List.head?_dropWhile_not isBlank cs
      rw [htrim, List.cons_append, trimStart] at htail
      rw [← htail] at hhead
      have hblank : isBlank c = false := by simpa using hhead
      simp [trimStart, hblank]

theorem trim_trim (cs : List Char) : trim (trim cs) = trim cs := by
  rw [trim, trimStart_trim]
  exact List.rdropWhile_idempotent isBlank (trimStart cs)

end Text

namespace Identifier

theorem quoteMark_notMem_cleanChars (cs : List Char) : quoteMark ∉ cleanChars cs := by
  intro h
  have hfilter := Text.mem_of_mem_trim h
  simp at hfilter

theorem quoteMark_notMem_clean (name : String) : quoteMark ∉ (clean name).toList := by
  rw [clean, String.toList_ofList]
  exact quoteMark_notMem_cleanChars name.toList

theorem cleanChars_cleanChars (cs : List Char) : cleanChars (cleanChars cs) = cleanChars cs := by
  have hfilter : (cleanChars cs).filter (· != quoteMark) = cleanChars cs := by
    rw [List.filter_eq_self]
    intro c hc
    rw [bne_iff_ne]
    rintro rfl
    exact quoteMark_notMem_cleanChars cs hc
  rw [cleanChars, hfilter, cleanChars, Text.trim_trim]

theorem clean_clean (name : String) : clean (clean name) = clean name := by
  rw [clean, clean, String.toList_ofList, cleanChars_cleanChars]

end Identifier

end TableGateway
