import Mathlib.Data.List.Basic
import Unclosed.Report
import Unclosed.SourceFile

/-!
# Silenced lines

A line is silenced from a position on by the comment group that comes next: it has to be on the line
and to start with a directive.  A directive on the line that does not come first is hidden, and the
line is not silenced by it.
-/

namespace Unclosed

/-! ## Halving -/

/-- The test holds on all that is before `lo`, and on nothing from `hi` on. -/
structure Brackets (below : Nat → Bool) (lo hi : Nat) : Prop where
  le : lo ≤ hi
  holds : ∀ i < lo, below i
  fails : ∀ i, hi ≤ i → ¬below i

/-- Halving a range ends at the place where the test stops to hold. -/
theorem Brackets.bisect {below : Nat → Bool} (closed : ∀ i k, i ≤ k → below k → below i)
    {lo hi : Nat} (h : Brackets below lo hi) :
    Brackets below (bisect below lo hi) (bisect below lo hi) := by
  fun_induction Unclosed.bisect below lo hi with
  | case1 lo hi hlt middle hmiddle ih =>
      refine ih ⟨by omega, ?_, h.fails⟩
      intro i hi
      exact closed i middle (by omega) hmiddle
  | case2 lo hi hlt middle hmiddle ih =>
      refine ih ⟨by omega, h.holds, ?_⟩
      intro i hi hbelow
      exact hmiddle (closed middle i hi hbelow)
  | case3 lo hi hge =>
      obtain rfl : lo = hi := by
        have := h.le
        omega
      exact h

/-! ## The comment group that comes next -/

def SourceFile.CommentsSorted (f : SourceFile) : Prop :=
  f.comments.toList.Pairwise fun g h => g.pos ≤ h.pos

namespace OpenFile

variable {o : OpenFile} {pos : Pos}

def nextGroup? (o : OpenFile) (pos : Pos) : Option CommentGroup :=
  o.file.comments.toList.find? fun g => pos ≤ g.pos

/-- In sorted comments the search for the next group ends where the groups before the position
end. -/
theorem brackets_firstGroupFrom (sorted : o.file.CommentsSorted) (pos : Pos) :
    Brackets (fun i => (o.file.comments[i]?).any fun g => g.pos < pos) (o.firstGroupFrom pos)
      (o.firstGroupFrom pos) := by
  apply Brackets.bisect
  · intro i k hik hk
    obtain ⟨h, hh, hpos⟩ := (Option.any_eq_true _ _).mp hk
    obtain ⟨hk, rfl⟩ := Array.getElem?_eq_some_iff.mp hh
    have hi : i < o.file.comments.size := Nat.lt_of_le_of_lt hik hk
    have hle : o.file.comments[i].pos ≤ o.file.comments[k].pos := by
      rcases Nat.lt_or_eq_of_le hik with hik | rfl
      · exact List.pairwise_iff_getElem.mp sorted i k (by simpa) (by simpa) hik
      · exact Int.le_refl _
    simpa [hi] using Int.lt_of_le_of_lt hle (of_decide_eq_true hpos)
  · refine ⟨Nat.zero_le _, ?_, ?_⟩
    · intro i hi
      exact absurd hi (Nat.not_lt_zero i)
    · intro i hi
      simp [Array.getElem?_eq_none hi]

/-- In sorted comments the search ends at the first group that starts at or after the position, and past
all groups if there is none. -/
theorem firstGroupFrom_eq_findIdx (sorted : o.file.CommentsSorted) (pos : Pos) :
    o.firstGroupFrom pos = o.file.comments.toList.findIdx fun g => pos ≤ g.pos := by
  have hbrackets := brackets_firstGroupFrom sorted pos
  rcases Nat.lt_trichotomy (o.firstGroupFrom pos)
    (o.file.comments.toList.findIdx fun g => pos ≤ g.pos) with hlt | heq | hgt
  · -- The search would have stopped at a group before the position.
    have hbefore := List.not_of_lt_findIdx hlt
    have hsize : o.firstGroupFrom pos < o.file.comments.size :=
      Nat.lt_of_lt_of_le hlt List.findIdx_le_length
    refine absurd ?_ (hbrackets.fails _ (Nat.le_refl _))
    simpa [hsize] using hbefore
  · exact heq
  · -- The search would have gone past a group that starts at or after the position.
    obtain ⟨g, hg, hbefore⟩ := (Option.any_eq_true _ _).mp (hbrackets.holds _ hgt)
    obtain ⟨hsize, rfl⟩ := Array.getElem?_eq_some_iff.mp hg
    have hstop : pos ≤ (o.file.comments[o.file.comments.toList.findIdx fun g => pos ≤ g.pos]).pos :=
      of_decide_eq_true (List.findIdx_getElem (w := hsize))
    exact absurd hstop (Int.not_le.mpr (of_decide_eq_true hbefore))

theorem getElem?_firstGroupFrom (sorted : o.file.CommentsSorted) (pos : Pos) :
    o.file.comments[o.firstGroupFrom pos]? = o.nextGroup? pos := by
  rw [nextGroup?, List.find?_eq_getElem?_findIdx, ← firstGroupFrom_eq_findIdx sorted,
    Array.getElem?_toList]

/-- In sorted comments, a line is silenced if the next comment group is on the line and starts with
a directive. -/
theorem silencesLine_iff (sorted : o.file.CommentsSorted) :
    o.silencesLine pos ↔
      ∃ g, o.nextGroup? pos = some g ∧ o.extent.line g.pos = o.extent.line pos ∧
        g.first.silences := by
  rw [silencesLine, getElem?_firstGroupFrom sorted]
  cases o.nextGroup? pos with
  | none => simp
  | some g => simp

/-! ## Directives on the line -/

/-- Some directive starts at or after the position and on its line. -/
def HasDirective (o : OpenFile) (pos : Pos) : Prop :=
  ∃ g ∈ o.file.comments, ∃ c ∈ g.comments,
    pos ≤ c.pos ∧ o.extent.line c.pos = o.extent.line pos ∧ c.silences

/-- There is such a directive, but the next comment group, if there is one, is on another line or
starts with another comment. -/
def HidesDirective (o : OpenFile) (pos : Pos) : Prop :=
  o.HasDirective pos ∧
    ∀ g, o.nextGroup? pos = some g → o.extent.line g.pos = o.extent.line pos → ¬g.first.silences

theorem mem_of_nextGroup? {g : CommentGroup} (h : o.nextGroup? pos = some g) :
    g ∈ o.file.comments ∧ pos ≤ g.pos := by
  rw [nextGroup?] at h
  refine ⟨Array.mem_toList_iff.mp (List.mem_of_find?_eq_some h), ?_⟩
  simpa using List.find?_some h

/-- In sorted comments, a line is silenced by the directives on it that are not hidden. -/
theorem silencesLine_iff_not_hidden (sorted : o.file.CommentsSorted) :
    o.silencesLine pos ↔ o.HasDirective pos ∧ ¬o.HidesDirective pos := by
  rw [silencesLine_iff sorted]
  constructor
  · rintro ⟨g, hnext, hline, hsilences⟩
    obtain ⟨hg, hpos⟩ := mem_of_nextGroup? hnext
    refine ⟨⟨g, hg, g.first, List.mem_cons_self, hpos, hline, hsilences⟩, ?_⟩
    intro hhides
    exact hhides.2 g hnext hline hsilences
  · rintro ⟨hhas, hhides⟩
    by_contra hnone
    refine hhides ⟨hhas, ?_⟩
    intro g hnext hline hsilences
    exact hnone ⟨g, hnext, hline, hsilences⟩

/-- **Directives can be hidden.**  In sorted comments, a line is silenced exactly by the directives
that follow on it and are not hidden; so a directive on the line silences it unless it is hidden, and
only then not.  Flushing reports the findings without a directive on their line, and those whose
directive is hidden. -/
theorem silencesLine_iff_hasDirective (o : OpenFile) (sorted : o.file.CommentsSorted) (pos : Pos) :
    (o.silencesLine pos ↔ o.HasDirective pos ∧ ¬o.HidesDirective pos) ∧
      ((o.silencesLine pos ↔ o.HasDirective pos) ↔ ¬o.HidesDirective pos) ∧
      ∀ (b : Backlog) (d : Diagnostic), d ∈ (b.flush o.silencesLine).1 ↔
        ∃ f ∈ b.findings, f.diagnostic = d ∧
          (o.HasDirective f.span.start → o.HidesDirective f.span.start) := by
  refine ⟨silencesLine_iff_not_hidden sorted, ?_, ?_⟩
  · rw [silencesLine_iff_not_hidden sorted]
    constructor
    · intro h hhides
      exact (h.mpr hhides.1).2 hhides
    · intro hhides
      exact and_iff_left hhides
  · intro b d
    simp only [Backlog.flush, List.mem_map, List.mem_filter, Bool.not_eq_true', ← Bool.not_eq_true,
      silencesLine_iff_not_hidden sorted, not_and, not_not, and_assoc]
    constructor
    · rintro ⟨f, hf, hhides, hd⟩
      exact ⟨f, hf, hd, hhides⟩
    · rintro ⟨f, hf, hd, hhides⟩
      exact ⟨f, hf, hhides, hd⟩

namespace Sample

/-! The directive of `x := open() /* closed by g */ //nolint:closescope` is hidden. -/

def group : CommentGroup :=
  ⟨⟨36, "/* closed by g */"⟩, [⟨54, "//nolint:closescope"⟩]⟩

/-- A file with these comments on its fourth line. -/
def file : OpenFile :=
  ⟨⟨1, 1, 9, "p", #[group], none, []⟩, ⟨1, 75, [0, 10, 11, 22, 73]⟩⟩

theorem hidesDirective : file.HidesDirective 24 := by
  refine ⟨⟨group, by simp [file], _, List.mem_cons_of_mem _ List.mem_cons_self, ?_⟩, ?_⟩
  · decide +kernel
  · rintro _ ⟨⟩
    decide +kernel

theorem not_silencesLine_iff_hasDirective :
    file.file.CommentsSorted ∧ file.HidesDirective 24 ∧
      ¬(file.silencesLine 24 ↔ file.HasDirective 24) := by
  have sorted : file.file.CommentsSorted := .cons (by simp) .nil
  have h := silencesLine_iff_hasDirective file sorted 24
  exact ⟨sorted, hidesDirective, fun hlaw => h.2.1.mp hlaw hidesDirective⟩

end Sample

end OpenFile

end Unclosed
