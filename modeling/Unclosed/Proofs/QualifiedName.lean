import Mathlib.Data.List.TakeWhile
import Unclosed.Text

/-!
# Reading qualified names

A text is read as a qualified name in one way, if it can be read at all: the path and the name are
what stands before and after the last dot.
-/

namespace Unclosed

/-- A text is cut at its last dot. -/
theorem cutAtLastDot_eq_some_iff {cs path name : List Char} :
    cutAtLastDot cs = some (path, name) ↔ cs = path ++ '.' :: name ∧ '.' ∉ name := by
  constructor
  · intro h
    rw [cutAtLastDot] at h
    split at h
    · cases h
    · rename_i dot before hdrop
      cases h
      have hdot : dot = '.' := by
        have hhead := List.head?_dropWhile_not (· != '.') cs.reverse
        simpa [hdrop] using hhead
      have hsplit := List.takeWhile_append_dropWhile (p := (· != '.')) (l := cs.reverse)
      rw [hdrop, hdot] at hsplit
      constructor
      · rw [← List.reverse_inj]
        simpa using hsplit.symm
      · intro hmem
        have hne := List.mem_takeWhile_imp (List.mem_reverse.mp hmem)
        simp at hne
  · rintro ⟨rfl, hname⟩
    have hne : ∀ c ∈ name.reverse, c != '.' := by
      intro c hc
      simp only [bne_iff_ne, ne_eq]
      rintro rfl
      exact hname (List.mem_reverse.mp hc)
    have hreverse : (path ++ '.' :: name).reverse = name.reverse ++ '.' :: path.reverse := by simp
    rw [cutAtLastDot, hreverse, List.dropWhile_append_of_pos hne, List.takeWhile_append_of_pos hne]
    simp

theorem cutAtLastDot_eq_none_iff {cs : List Char} : cutAtLastDot cs = none ↔ '.' ∉ cs := by
  have hdrop : cs.reverse.dropWhile (· != '.') = [] ↔ '.' ∉ cs := by
    rw [List.dropWhile_eq_nil_iff]
    simp only [List.mem_reverse, bne_iff_ne]
    constructor
    · intro h hdot
      exact h '.' hdot rfl
    · rintro h c hc rfl
      exact h hc
  rw [← hdrop, cutAtLastDot]
  split <;> simp_all

namespace QualifiedName

/-- A qualified name that is written can be read: neither part is empty, and the name has no dot. -/
structure WellFormed (q : QualifiedName) : Prop where
  path_ne : q.path ≠ ""
  name_ne : q.name ≠ ""
  no_dot : '.' ∉ q.name.toList

variable {q : QualifiedName} {s : String}

theorem toList_toText : q.toText.toList = q.path.toList ++ '.' :: q.name.toList := by
  simp [toText]

/-- A text is read as the well-formed name that it is written as. -/
theorem parse?_eq_some_iff : parse? s = some q ↔ q.WellFormed ∧ s = q.toText := by
  constructor
  · intro h
    rw [parse?] at h
    split at h
    · cases h
    · rename_i path name hcut
      obtain ⟨htext, hdot⟩ := cutAtLastDot_eq_some_iff.mp hcut
      split at h
      · cases h
      · rename_i hparts
        cases h
        simp only [Bool.or_eq_true, List.isEmpty_iff, not_or] at hparts
        refine ⟨⟨by simpa using hparts.1, by simpa using hparts.2, by simpa using hdot⟩, ?_⟩
        rw [← String.toList_inj, toList_toText, htext]
        simp
  · rintro ⟨h, rfl⟩
    have hcut : cutAtLastDot q.toText.toList = some (q.path.toList, q.name.toList) :=
      cutAtLastDot_eq_some_iff.mpr ⟨toList_toText, h.no_dot⟩
    rw [parse?, hcut]
    simp [h.path_ne, h.name_ne]

/-- A text cannot be read if it has no dot, nothing before its last dot or nothing after it. -/
theorem parse?_eq_none_iff :
    parse? s = none ↔ '.' ∉ s.toList ∨ (∃ name : String, '.' ∉ name.toList ∧ s = "." ++ name) ∨
      ∃ path, s = path ++ "." := by
  constructor
  · intro h
    cases hcut : cutAtLastDot s.toList with
    | none => exact .inl (cutAtLastDot_eq_none_iff.mp hcut)
    | some parts =>
        obtain ⟨path, name⟩ := parts
        obtain ⟨htext, hdot⟩ := cutAtLastDot_eq_some_iff.mp hcut
        have hempty : path = [] ∨ name = [] := by
          rw [parse?, hcut] at h
          simpa [or_iff_not_imp_left] using h
        rcases hempty with rfl | rfl
        · refine .inr (.inl ⟨String.ofList name, by simpa using hdot, ?_⟩)
          rw [← String.toList_inj, htext]
          simp
        · refine .inr (.inr ⟨String.ofList path, ?_⟩)
          rw [← String.toList_inj, htext]
          simp
  · rintro (hdot | ⟨name, hdot, rfl⟩ | ⟨path, rfl⟩)
    · rw [parse?, cutAtLastDot_eq_none_iff.mpr hdot]
    · have hcut : cutAtLastDot ("." ++ name).toList = some ([], name.toList) :=
        cutAtLastDot_eq_some_iff.mpr ⟨by simp, hdot⟩
      rw [parse?, hcut]
      rfl
    · have hcut : cutAtLastDot (path ++ ".").toList = some (path.toList, []) :=
        cutAtLastDot_eq_some_iff.mpr ⟨by simp, List.not_mem_nil⟩
      rw [parse?, hcut]
      simp

end QualifiedName

theorem isQualified_iff {name : String} :
    isQualified name ↔ ∃ q : QualifiedName, q.WellFormed ∧ name = q.toText := by
  simp only [isQualified, Option.isSome_iff_exists, QualifiedName.parse?_eq_some_iff]

end Unclosed
