import Unclosed.Proofs.Suppression

/-!
# Searching the comments

The comment group that comes next is searched by halving.  In sorted comments the search ends at the
index where a scan from the first group on stops, so both give the same answer.  The search looks at no
index without a group, in whatever order the groups are.
-/

namespace Unclosed

/-! ## Searches that can fail -/

/-- Halves the range with a test that need not have a result.  The search fails as soon as it looks
where there is none. -/
def bisect? (below? : Nat → Option Bool) (lo hi : Nat) : Option Nat :=
  if lo < hi then
    (below? ((lo + hi) / 2)).bind fun below =>
      if below then bisect? below? ((lo + hi) / 2 + 1) hi else bisect? below? lo ((lo + hi) / 2)
  else some lo
termination_by hi - lo

/-- Halving a range only looks inside it. -/
theorem bisect?_eq_some {below? : Nat → Option Bool} {below : Nat → Bool} {lo hi : Nat}
    (h : ∀ i, lo ≤ i → i < hi → below? i = some (below i)) :
    bisect? below? lo hi = some (bisect below lo hi) := by
  fun_induction bisect below lo hi with
  | case1 lo hi hlt middle hmiddle ih =>
      rw [bisect?, if_pos hlt, h middle (by omega) (by omega), Option.bind_some, if_pos hmiddle]
      exact ih fun i hlo hhi => h i (by omega) hhi
  | case2 lo hi hlt middle hmiddle ih =>
      rw [bisect?, if_pos hlt, h middle (by omega) (by omega), Option.bind_some, if_neg hmiddle]
      exact ih fun i hlo hhi => h i hlo (by omega)
  | case3 lo hi hge => rw [bisect?, if_neg hge]

/-! ## Scans -/

namespace Extent

variable {e : Extent} {pos : Pos} {groups : List CommentGroup}

/-- Goes through the groups up to the first that starts at or after the position, and tells whether it
is on the position's line and starts with a directive. -/
def scan (e : Extent) (pos : Pos) : List CommentGroup → Bool
  | [] => false
  | g :: groups =>
    if pos ≤ g.pos then e.line g.pos == e.line pos && g.first.silences else e.scan pos groups

/-- A scan decides by the first group that starts at or after the position. -/
theorem scan_eq_any_find? :
    e.scan pos groups = (groups.find? fun g => pos ≤ g.pos).any fun g =>
      e.line g.pos == e.line pos && g.first.silences := by
  induction groups with
  | nil => rfl
  | cons g groups ih =>
      rw [scan, List.find?_cons]
      by_cases hpos : pos ≤ g.pos
      · simp [hpos]
      · simp [hpos, ih]

end Extent

namespace OpenFile

variable {o : OpenFile} {pos : Pos}

/-- Whether the line is silenced, found out with looks that fail where there is no comment group. -/
def silencesLine? (o : OpenFile) (pos : Pos) : Option Bool := do
  let i ← bisect? (fun i => o.file.comments[i]?.map fun g => g.pos < pos) 0 o.file.comments.size
  if i < o.file.comments.size then
    let g ← o.file.comments[i]?
    return o.extent.line g.pos == o.extent.line pos && g.first.silences
  else
    return false

/-- No look for the next group fails. -/
theorem silencesLine?_eq_some (o : OpenFile) (pos : Pos) :
    o.silencesLine? pos = some (o.silencesLine pos) := by
  have hsearch : bisect? (fun i => o.file.comments[i]?.map fun g => g.pos < pos) 0
      o.file.comments.size = some (o.firstGroupFrom pos) := by
    apply bisect?_eq_some
    intro i _ hi
    simp [hi]
  rw [silencesLine?, hsearch, silencesLine]
  by_cases hi : o.firstGroupFrom pos < o.file.comments.size
  · simp [hi]
  · simp [hi]

/-- **The search is a scan.**  In sorted comments, however many, a position is silenced if a scan of
the groups says so: by the first group that starts at or after the position, and not at all if there is
none.  The search ends at the index where the scan stops, and all its looks are at comment groups. -/
theorem silencesLine_eq_scan (o : OpenFile) (sorted : o.file.CommentsSorted) (pos : Pos) :
    o.silencesLine pos = o.extent.scan pos o.file.comments.toList ∧
      o.firstGroupFrom pos = o.file.comments.toList.findIdx (fun g => pos ≤ g.pos) ∧
      o.silencesLine? pos = some (o.silencesLine pos) := by
  refine ⟨?_, firstGroupFrom_eq_findIdx sorted pos, silencesLine?_eq_some o pos⟩
  rw [silencesLine, getElem?_firstGroupFrom sorted, Extent.scan_eq_any_find?, ← nextGroup?]
  cases o.nextGroup? pos with
  | none => rfl
  | some g => rfl

namespace Sample

/-- A file with three comment groups, the last of them on a second line. -/
def threeGroups : OpenFile :=
  ⟨⟨1, 1, 9, "p", #[⟨⟨30, "//nolint:closescope"⟩, []⟩, ⟨⟨40, "/* kept */"⟩, []⟩,
    ⟨⟨60, "//nolint:all"⟩, []⟩], none, []⟩, ⟨1, 90, [0, 50]⟩⟩

/-- The first directive silences the position at which it starts.  Later positions have another comment
next, a directive on another line, or nothing. -/
theorem silencesLine_eq_scan_threeGroups :
    threeGroups.file.CommentsSorted ∧ threeGroups.silencesLine 30 ∧
      ¬threeGroups.silencesLine 31 ∧ ¬threeGroups.silencesLine 45 ∧
      ¬threeGroups.silencesLine 61 := by
  have sorted : threeGroups.file.CommentsSorted := by
    rw [SourceFile.CommentsSorted]
    decide
  have hscan : ∀ pos, threeGroups.silencesLine pos =
      threeGroups.extent.scan pos threeGroups.file.comments.toList :=
    fun pos => (silencesLine_eq_scan threeGroups sorted pos).1
  rw [hscan, hscan, hscan, hscan]
  exact ⟨sorted, by decide +kernel⟩

end Sample

end OpenFile

end Unclosed
