import Mathlib.Data.List.Sort
import Unclosed.Proofs.Canonical
import Unclosed.Proofs.Suppression

/-!
# Adding a directive

A new comment group that starts with a directive silences positions before it on its line.  It can
also stand between a position and the group that came next before: then both are on one line if the
position was silenced, and the position is still silenced.  So the directive only adds silence, and
only on its own line.  Positions are not negative.
-/

namespace Unclosed

/-! ## Lines in order -/

namespace Extent

variable {e : Extent} {a b c : Pos}

/-- Lines come in the order of positions.  No position has the least line. -/
theorem line_le_line (hb : b ≠ 0) (h : a ≤ b) : e.line a ≤ e.line b := by
  rw [line, line, if_neg hb]
  split
  · exact Nat.zero_le _
  · apply List.countP_mono_left
    intro start _ hstart
    simp only [decide_eq_true_eq] at hstart ⊢
    grind

/-- What stands between two positions of one line is on the line. -/
theorem line_eq_of_between (ha : 0 ≤ a) (hab : a ≤ b) (hbc : b ≤ c) (hline : e.line c = e.line a) :
    e.line b = e.line a := by
  by_cases hzero : b = 0
  · obtain rfl : a = b := by grind
    rfl
  · have hc : c ≠ 0 := by grind
    exact Nat.le_antisymm (hline ▸ line_le_line hc hbc) (line_le_line hzero hab)

end Extent

/-! ## The next group after an insertion -/

namespace OpenFile

variable {o : OpenFile} {g : CommentGroup} {pos : Pos}

/-- The file with one more comment group, in its place in the order. -/
def withGroup (o : OpenFile) (g : CommentGroup) : OpenFile :=
  { o with
    file := { o.file with
      comments := (o.file.comments.toList.orderedInsert (·.pos ≤ ·.pos) g).toArray } }

theorem commentsSorted_withGroup (sorted : o.file.CommentsSorted) (g : CommentGroup) :
    (o.withGroup g).file.CommentsSorted := by
  have : Std.Total fun a b : CommentGroup => a.pos ≤ b.pos := ⟨fun a b => Int.le_total a.pos b.pos⟩
  have : IsTrans CommentGroup fun a b => a.pos ≤ b.pos := ⟨fun _ _ _ => Int.le_trans⟩
  exact List.Pairwise.orderedInsert g _ sorted

/-- The new group comes next if it does not precede the position and all groups that precede it do.
Otherwise the same group comes next as before. -/
theorem nextGroup?_withGroup (sorted : o.file.CommentsSorted) (g : CommentGroup) (pos : Pos) :
    (o.withGroup g).nextGroup? pos =
      if pos ≤ g.pos ∧ ∀ h ∈ o.file.comments, h.pos < g.pos → h.pos < pos then some g
      else o.nextGroup? pos := by
  have hmem : ∀ h, h ∈ o.file.comments ↔ h ∈ o.file.comments.toList :=
    fun h => Array.mem_toList_iff.symm
  simp only [nextGroup?, withGroup, hmem]
  rw [SourceFile.CommentsSorted] at sorted
  generalize o.file.comments.toList = groups at sorted ⊢
  -- The insertion goes past the groups before the new one, so the induction follows the list.
  induction groups with
  | nil => simp [List.find?_singleton]
  | cons a groups ih =>
      obtain ⟨hle, hgroups⟩ := List.pairwise_cons.mp sorted
      by_cases hga : g.pos ≤ a.pos
      · have hafter : ∀ h ∈ a :: groups, ¬h.pos < g.pos := by
          grind
        rw [List.orderedInsert_cons, if_pos hga]
        grind
      · rw [List.orderedInsert_cons, if_neg hga, List.find?_cons, ih hgroups]
        grind

/-- After the insertion of a directive, a position is silenced if it was before, or if the new group
comes next and is on its line. -/
theorem silencesLine_withGroup_iff (sorted : o.file.CommentsSorted) (hg : g.first.silences)
    (hpos : 0 ≤ pos) :
    (o.withGroup g).silencesLine pos ↔ o.silencesLine pos ∨
      pos ≤ g.pos ∧ o.extent.line pos = o.extent.line g.pos ∧
        ∀ h ∈ o.file.comments, h.pos < g.pos → h.pos < pos := by
  rw [silencesLine_iff (commentsSorted_withGroup sorted g), silencesLine_iff sorted,
    nextGroup?_withGroup sorted]
  have hextent : (o.withGroup g).extent = o.extent := rfl
  rw [hextent]
  split
  · rename_i hnext
    constructor
    · rintro ⟨_, ⟨⟩, hline, -⟩
      exact .inr ⟨hnext.1, hline.symm, hnext.2⟩
    · rintro (⟨h, hold, hline, -⟩ | ⟨-, hline, -⟩)
      · -- The group that came next before comes after the new one, and the line holds all three.
        have hgh : g.pos ≤ h.pos := by
          obtain ⟨hmem, hle⟩ := mem_of_nextGroup? hold
          have := hnext.2 h hmem
          grind
        exact ⟨g, rfl, Extent.line_eq_of_between hpos hnext.1 hgh hline, hg⟩
      · exact ⟨g, rfl, hline.symm, hg⟩
  · rename_i hnext
    constructor
    · exact .inl
    · rintro (hold | ⟨hle, -, hbefore⟩)
      · exact hold
      · exact absurd ⟨hle, hbefore⟩ hnext

end OpenFile

/-! ## Reports with more suppressed -/

namespace Backlog

variable {b : Backlog} {suppressed suppressed' : Pos → Bool} {d : Diagnostic}

/-- A flush that suppresses more reports less, in the same order. -/
theorem flush_sublist
    (h : ∀ f ∈ b.findings, suppressed f.span.start → suppressed' f.span.start) :
    (b.flush suppressed').1.Sublist (b.flush suppressed).1 := by
  have hfilter : b.findings.filter (fun f => !suppressed' f.span.start) =
      (b.findings.filter fun f => !suppressed f.span.start).filter
        fun f => !suppressed' f.span.start := by
    rw [List.filter_filter]
    apply List.filter_congr
    intro f hf
    have := h f hf
    grind
  rw [flush, flush, hfilter]
  exact List.filter_sublist.map _

/-- What is reported by one flush and not by another starts where only the other suppresses. -/
theorem exists_suppressed_of_not_mem_flush (h : d ∈ (b.flush suppressed).1)
    (h' : d ∉ (b.flush suppressed').1) :
    ∃ f ∈ b.findings, f.diagnostic = d ∧ ¬suppressed f.span.start ∧ suppressed' f.span.start := by
  obtain ⟨f, hf, rfl⟩ := List.mem_map.mp h
  obtain ⟨hf, hreported⟩ := List.mem_filter.mp hf
  refine ⟨f, hf, rfl, by simpa using hreported, ?_⟩
  by_contra hsuppressed
  exact h' (List.mem_map.mpr ⟨f, List.mem_filter.mpr ⟨hf, by simpa using hsuppressed⟩, rfl⟩)

end Backlog

namespace OpenFile

variable {o : OpenFile} {g : CommentGroup} {pos : Pos}

/-- **A new directive only silences, and only its own line.**  When a comment group that starts with a
directive is put in its place among sorted comments, what was silenced stays silenced, and nothing
changes but for positions on the line of the new group that it does not precede.  Flushing the same
findings reports no more than before, in the same order, and what is left out starts on that
line. -/
theorem silencesLine_withGroup (o : OpenFile) (sorted : o.file.CommentsSorted) (g : CommentGroup)
    (hg : g.first.silences) :
    (∀ pos, 0 ≤ pos →
      (o.silencesLine pos → (o.withGroup g).silencesLine pos) ∧
      ((o.withGroup g).silencesLine pos ≠ o.silencesLine pos →
        pos ≤ g.pos ∧ o.extent.line pos = o.extent.line g.pos)) ∧
    ∀ b : Backlog, (∀ f ∈ b.waiting, 0 ≤ f.span.start) →
      (b.flush (o.withGroup g).silencesLine).1.Sublist (b.flush o.silencesLine).1 ∧
      ∀ d ∈ (b.flush o.silencesLine).1, d ∉ (b.flush (o.withGroup g).silencesLine).1 →
        d.span.start ≤ g.pos ∧ o.extent.line d.span.start = o.extent.line g.pos := by
  have hkeeps : ∀ pos, 0 ≤ pos → o.silencesLine pos → (o.withGroup g).silencesLine pos := by
    intro pos hpos hsilenced
    exact (silencesLine_withGroup_iff sorted hg hpos).mpr (.inl hsilenced)
  have hlocal : ∀ pos, 0 ≤ pos → (o.withGroup g).silencesLine pos → ¬o.silencesLine pos →
      pos ≤ g.pos ∧ o.extent.line pos = o.extent.line g.pos := by
    intro pos hpos hsilenced hbefore
    rcases (silencesLine_withGroup_iff sorted hg hpos).mp hsilenced with h | ⟨hle, hline, -⟩
    · exact absurd h hbefore
    · exact ⟨hle, hline⟩
  constructor
  · intro pos hpos
    refine ⟨hkeeps pos hpos, ?_⟩
    intro hne
    by_cases hbefore : o.silencesLine pos
    · exact absurd ((hkeeps pos hpos hbefore).trans hbefore.symm) hne
    · exact hlocal pos hpos (by simpa [hbefore] using hne) hbefore
  · intro b hb
    have hfindings : ∀ f ∈ b.findings, 0 ≤ f.span.start :=
      fun f hf => hb f (Finding.mem_of_mem_canonical hf)
    constructor
    · exact Backlog.flush_sublist fun f hf => hkeeps _ (hfindings f hf)
    · intro d hd hd'
      obtain ⟨f, hf, rfl, hbefore, hafter⟩ := Backlog.exists_suppressed_of_not_mem_flush hd hd'
      exact hlocal _ (hfindings f hf) hafter hbefore

namespace Sample

def directiveAt (pos : Pos) : CommentGroup :=
  ⟨⟨pos, "//nolint:closescope"⟩, []⟩

/-- A directive before the other comments silences the line that the hidden one does not. -/
theorem silencesLine_withGroup_hidden :
    file.file.CommentsSorted ∧ (directiveAt 35).first.silences ∧
      (file.withGroup (directiveAt 35)).silencesLine 24 ∧ ¬file.silencesLine 24 ∧
      24 ≤ (directiveAt 35).pos ∧ file.extent.line 24 = file.extent.line (directiveAt 35).pos := by
  have sorted : file.file.CommentsSorted := .cons (by simp) .nil
  have hsilences : (directiveAt 35).first.silences := by decide +kernel
  have hafter : (file.withGroup (directiveAt 35)).silencesLine 24 := by decide +kernel
  have hbefore : ¬file.silencesLine 24 := by decide +kernel
  obtain ⟨hpositions, -⟩ := silencesLine_withGroup file sorted (directiveAt 35) hsilences
  refine ⟨sorted, hsilences, hafter, hbefore, ?_⟩
  exact (hpositions 24 (by decide)).2 fun h => hbefore (h ▸ hafter)

end Sample

end OpenFile

end Unclosed
