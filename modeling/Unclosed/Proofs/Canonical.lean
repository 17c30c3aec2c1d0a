import Mathlib.Data.List.Nodup
import Mathlib.Data.Prod.Lex
import Mathlib.Data.String.Basic
import Unclosed.Report

/-!
# The canonical form of findings

Spans and keys are ordered lexicographically.  The canonical form of a list of findings is strictly
increasing in this order and holds the first finding of each key of the list, no more and no fewer.
All findings of the linter violate the same rule; among these the order of keys is that of spans.
-/

namespace Unclosed

/-! ## The order of spans and keys -/

/-- Spans in order of start, then end. -/
instance : LinearOrder Span :=
  LinearOrder.lift' (fun s : Span => toLex (s.start, s.stop)) <| by
    intro a b h
    cases a
    cases b
    simpa using h

theorem Span.lt_iff {a b : Span} :
    a < b ↔ a.start < b.start ∨ a.start = b.start ∧ a.stop < b.stop :=
  Prod.Lex.toLex_lt_toLex

namespace Finding

namespace Key

/-- Keys in order of start, then end, then rule. -/
instance : LinearOrder Key :=
  LinearOrder.lift' (fun k : Key => toLex (k.start, toLex (k.stop, k.rule))) <| by
    intro a b h
    cases a
    cases b
    simpa using h

theorem le_iff {a b : Key} :
    a ≤ b ↔ a.start < b.start ∨
      a.start = b.start ∧ (a.stop < b.stop ∨ a.stop = b.stop ∧ a.rule ≤ b.rule) :=
  Prod.Lex.toLex_le_toLex.trans (or_congr_right (and_congr_right fun _ => Prod.Lex.toLex_le_toLex))

theorem lt_iff {a b : Key} :
    a < b ↔ a.start < b.start ∨
      a.start = b.start ∧ (a.stop < b.stop ∨ a.stop = b.stop ∧ a.rule < b.rule) :=
  Prod.Lex.toLex_lt_toLex.trans (or_congr_right (and_congr_right fun _ => Prod.Lex.toLex_lt_toLex))

/-- The comparison that findings are sorted by is the order of their keys. -/
theorem le_eq_true_iff {a b : Key} : a.le b = true ↔ a ≤ b := by
  rw [le_iff, le]
  split
  · rename_i hstart
    split
    · rename_i hstop
      simp [hstart, hstop]
    · rename_i hstop
      simp [hstart, hstop]
  · rename_i hstart
    simp [hstart]

end Key

/-- The key of a finding that violates the linter's rule is before another such key if its span is
before the other span. -/
theorem key_unclosed_lt_iff {a b : Span} : (unclosed a).key < (unclosed b).key ↔ a < b := by
  rw [Key.lt_iff, Span.lt_iff]
  simp [key, unclosed]

/-! ## Leaving out repetitions -/

theorem mem_of_mem_distinctAfter {f : Finding} {last : Key} {fs : List Finding}
    (h : f ∈ distinctAfter last fs) : f ∈ fs := by
  induction fs generalizing last with
  | nil => exact h
  | cons g fs ih =>
      rw [distinctAfter] at h
      split at h
      · exact List.mem_cons_of_mem g (ih h)
      · rcases List.mem_cons.mp h with rfl | h
        · exact List.mem_cons_self
        · exact List.mem_cons_of_mem g (ih h)

/-- The first finding of every key is left, but for the key that was there before. -/
theorem find?_distinctAfter {last k : Key} (h : k ≠ last) (fs : List Finding) :
    (distinctAfter last fs).find? (·.key = k) = fs.find? (·.key = k) := by
  induction fs generalizing last with
  | nil => rfl
  | cons g fs ih =>
      rw [distinctAfter]
      split
      · rename_i hg
        have hk : g.key ≠ k := hg ▸ h.symm
        simp [hk, ih h]
      · by_cases hk : g.key = k
        · simp [hk]
        · simp [hk, ih (Ne.symm hk)]

/-- In a sorted list, what is left after a key is above that key and strictly increasing. -/
theorem pairwise_distinctAfter {last : Key} {fs : List Finding}
    (sorted : fs.Pairwise fun a b => a.key ≤ b.key) (above : ∀ f ∈ fs, last ≤ f.key) :
    (∀ f ∈ distinctAfter last fs, last < f.key) ∧
      (distinctAfter last fs).Pairwise fun a b => a.key < b.key := by
  induction fs generalizing last with
  | nil => exact ⟨fun f hf => (List.not_mem_nil hf).elim, .nil⟩
  | cons g fs ih =>
      obtain ⟨hg, sorted⟩ := List.pairwise_cons.mp sorted
      obtain ⟨hlast, above⟩ := List.forall_mem_cons.mp above
      rw [distinctAfter]
      split
      · exact ih sorted above
      · rename_i hne
        obtain ⟨habove, hsorted⟩ := ih sorted hg
        have hlt : last < g.key := lt_of_le_of_ne hlast (Ne.symm hne)
        refine ⟨?_, List.pairwise_cons.mpr ⟨habove, hsorted⟩⟩
        intro f hf
        rcases List.mem_cons.mp hf with rfl | hf
        · exact hlt
        · exact lt_trans hlt (habove f hf)

theorem mem_of_mem_distinct {f : Finding} {fs : List Finding} (h : f ∈ distinct fs) : f ∈ fs := by
  cases fs with
  | nil => exact h
  | cons g fs =>
      rcases List.mem_cons.mp h with rfl | h
      · exact List.mem_cons_self
      · exact List.mem_cons_of_mem g (mem_of_mem_distinctAfter h)

/-- Keeping the first of every run keeps the first finding of every key. -/
theorem find?_distinct (fs : List Finding) (k : Key) :
    (distinct fs).find? (·.key = k) = fs.find? (·.key = k) := by
  cases fs with
  | nil => rfl
  | cons g fs =>
      rw [distinct]
      by_cases hk : g.key = k
      · simp [hk]
      · simp [hk, find?_distinctAfter (Ne.symm hk) fs]

/-- Keeping the first of every run makes a sorted list strictly increasing. -/
theorem pairwise_distinct {fs : List Finding} (sorted : fs.Pairwise fun a b => a.key ≤ b.key) :
    (distinct fs).Pairwise fun a b => a.key < b.key := by
  cases fs with
  | nil => exact .nil
  | cons g fs =>
      obtain ⟨hg, sorted⟩ := List.pairwise_cons.mp sorted
      obtain ⟨habove, hsorted⟩ := pairwise_distinctAfter sorted hg
      exact List.pairwise_cons.mpr ⟨habove, hsorted⟩

/-! ## The canonical form -/

theorem le_key_trans (a b c : Finding) (hab : a.key.le b.key) (hbc : b.key.le c.key) :
    a.key.le c.key := by
  rw [Key.le_eq_true_iff] at hab hbc ⊢
  exact le_trans hab hbc

theorem le_key_total (a b : Finding) : a.key.le b.key || b.key.le a.key := by
  rw [Bool.or_eq_true, Key.le_eq_true_iff, Key.le_eq_true_iff]
  exact le_total a.key b.key

theorem pairwise_mergeSort (fs : List Finding) :
    (fs.mergeSort fun a b => a.key.le b.key).Pairwise fun a b => a.key ≤ b.key :=
  (List.pairwise_mergeSort le_key_trans le_key_total fs).imp Key.le_eq_true_iff.mp

/-- Sorting keeps findings of one key in the order in which they came. -/
theorem filter_key_mergeSort (fs : List Finding) (k : Key) :
    (fs.mergeSort fun a b => a.key.le b.key).filter (·.key = k) = fs.filter (·.key = k) := by
  -- Findings of one key are in order as they came, and sorting keeps what is in order a sublist.
  have hsorted : (fs.filter (·.key = k)).Pairwise fun a b => a.key.le b.key := by
    apply List.pairwise_of_forall_mem_list
    intro a ha b hb
    have hkey : a.key = b.key := by simp_all
    rw [hkey, Key.le_eq_true_iff]
  have hsub := (List.sublist_mergeSort le_key_trans le_key_total hsorted
    List.filter_sublist).filter (·.key = k)
  simp only [List.filter_filter, Bool.and_self] at hsub
  have hperm := (List.mergeSort_perm fs fun a b => a.key.le b.key).filter (·.key = k)
  exact (hsub.eq_of_length hperm.length_eq.symm).symm

/-- The canonical form is strictly increasing in the keys. -/
theorem pairwise_canonical (fs : List Finding) :
    (canonical fs).Pairwise fun a b => a.key < b.key :=
  pairwise_distinct (pairwise_mergeSort fs)

theorem mem_of_mem_canonical {f : Finding} {fs : List Finding} (h : f ∈ canonical fs) : f ∈ fs :=
  List.mem_mergeSort.mp (mem_of_mem_distinct h)

/-- The canonical form has the first finding of every key. -/
theorem find?_canonical (fs : List Finding) (k : Key) :
    (canonical fs).find? (·.key = k) = fs.find? (·.key = k) := by
  rw [canonical, find?_distinct, ← List.head?_filter, filter_key_mergeSort, List.head?_filter]

theorem exists_mem_canonical {f : Finding} {fs : List Finding} (h : f ∈ fs) :
    ∃ g ∈ canonical fs, g.key = f.key := by
  have hfound : (fs.find? (·.key = f.key)).isSome := by
    rw [List.find?_isSome]
    exact ⟨f, h, by simp⟩
  rw [← find?_canonical, List.find?_isSome] at hfound
  simpa using hfound

theorem span_eq_of_key_eq {f g : Finding} (h : f.key = g.key) : f.span = g.span := by
  obtain ⟨⟨start, stop⟩, rule⟩ := f
  obtain ⟨⟨start', stop'⟩, rule'⟩ := g
  simp_all [key]

theorem nodup_map_key_canonical (fs : List Finding) : ((canonical fs).map key).Nodup :=
  List.pairwise_map.mpr ((pairwise_canonical fs).imp ne_of_lt)

theorem nodup_canonical (fs : List Finding) : (canonical fs).Nodup :=
  List.Nodup.of_map _ (nodup_map_key_canonical fs)

/-- If a key tells the finding, the canonical form holds all findings. -/
theorem mem_canonical_iff {f : Finding} {fs : List Finding}
    (h : ∀ f ∈ fs, ∀ g ∈ fs, f.key = g.key → f = g) : f ∈ canonical fs ↔ f ∈ fs := by
  refine ⟨mem_of_mem_canonical, ?_⟩
  intro hf
  obtain ⟨g, hg, hkey⟩ := exists_mem_canonical hf
  have hgf : g = f := h g (mem_of_mem_canonical hg) f hf hkey
  exact hgf ▸ hg

/-- Findings at different spans are all kept. -/
theorem canonical_perm {fs : List Finding} (h : (fs.map span).Nodup) : (canonical fs).Perm fs := by
  refine (List.perm_ext_iff_of_nodup (nodup_canonical fs) (List.Nodup.of_map _ h)).mpr ?_
  intro f
  refine mem_canonical_iff ?_
  intro f hf g hg hkey
  exact List.inj_on_of_nodup_map h hf hg (span_eq_of_key_eq hkey)

end Finding

end Unclosed
