import Unclosed.Analysis
import Unclosed.Proofs.Canonical
import Unclosed.Proofs.Verdict

/-!
# One file after the other

The backlog is shared by all files of a package, but it is empty whenever a file is taken up: a file
that is passed over adds nothing to it, and a file that is looked at is flushed.  So each file adds
the same to the report wherever it stands: one internal error if it cannot be opened, and otherwise
the spans of its findings in order.
-/

namespace Unclosed

def Diagnostic.unclosed (span : Span) : Diagnostic :=
  (Finding.unclosed span).diagnostic

/-- What a file can add to a report: one internal error if it cannot be opened, and otherwise
diagnostics of strictly increasing spans. -/
inductive SourceFile.Adds (f : SourceFile) (extents : List Extent) : List Diagnostic → Prop
  | unknown : f.open? extents = none → f.Adds extents [f.unknown]
  | findings {spans : List Span} : (f.open? extents).isSome → spans.Pairwise (· < ·) →
      f.Adds extents (spans.map Diagnostic.unclosed)

namespace Config

variable (c : Config) (j : Judge)

/-! ## What a file adds -/

def found (f : SourceFile) : List Finding :=
  f.sites.flatMap (j.verdict c.checks)

/-- The spans of a file's findings in order, each of them once. -/
def foundSpans (f : SourceFile) : List Span :=
  (Finding.canonical (c.found j f)).map Finding.span

/-- Whether the findings of a file that could be opened are reported. -/
def covers (o : OpenFile) : Bool :=
  !(o.isGenerated && !c.generated) && !o.isSilenced

def reportedSpans (f : SourceFile) : List Span :=
  match f.open? j.program.extents with
  | none => []
  | some o => if c.covers o then (c.foundSpans j f).filter fun s => !o.silencesLine s.start else []

def addition (f : SourceFile) : List Diagnostic :=
  match f.open? j.program.extents with
  | none => [f.unknown]
  | some _ => (c.reportedSpans j f).map Diagnostic.unclosed

variable {c j} {f : SourceFile}

theorem eq_unclosed_of_mem_found {x : Finding} (h : x ∈ c.found j f) : x = .unclosed x.span := by
  obtain ⟨s, -, hx⟩ := List.mem_flatMap.mp h
  exact Judge.eq_unclosed_of_mem_verdict hx

/-- The canonical form of a file's findings is determined by their spans. -/
theorem canonical_found (c : Config) (j : Judge) (f : SourceFile) :
    Finding.canonical (c.found j f) = (c.foundSpans j f).map Finding.unclosed := by
  rw [foundSpans, List.map_map]
  calc
    Finding.canonical (c.found j f) = (Finding.canonical (c.found j f)).map id := by
      rw [List.map_id]
    _ = (Finding.canonical (c.found j f)).map (Finding.unclosed ∘ Finding.span) := by
      apply List.map_congr_left
      intro x hx
      exact eq_unclosed_of_mem_found (Finding.mem_of_mem_canonical hx)

theorem pairwise_foundSpans (c : Config) (j : Judge) (f : SourceFile) :
    (c.foundSpans j f).Pairwise (· < ·) := by
  have h := Finding.pairwise_canonical (c.found j f)
  rw [canonical_found, List.pairwise_map] at h
  exact h.imp Finding.key_unclosed_lt_iff.mp

theorem pairwise_reportedSpans (c : Config) (j : Judge) (f : SourceFile) :
    (c.reportedSpans j f).Pairwise (· < ·) := by
  rw [reportedSpans]
  split
  · exact .nil
  · split
    · exact (pairwise_foundSpans c j f).filter _
    · exact .nil

/-! ## Taking up a file -/

/-- Collecting appends the findings of a file to what waits. -/
theorem waiting_collect (c : Config) (j : Judge) (f : SourceFile) (b : Backlog) :
    (c.collect j f b).waiting = b.waiting ++ c.found j f := by
  rw [collect, found]
  induction f.sites generalizing b with
  | nil => simp
  | cons s sites ih =>
      rw [List.foldl_cons, ih, List.flatMap_cons]
      simp [Backlog.add]

/-- When nothing else waits, flushing a file reports the spans of its findings on lines that are
not silenced. -/
theorem flush_collect_empty (c : Config) (j : Judge) (f : SourceFile) (silenced : Pos → Bool) :
    (c.collect j f .empty).flush silenced =
      (((c.foundSpans j f).filter fun s => !silenced s.start).map Diagnostic.unclosed, .empty) := by
  have hwaiting : (c.collect j f .empty).findings = (c.foundSpans j f).map Finding.unclosed := by
    rw [Backlog.findings, waiting_collect, ← canonical_found]
    rfl
  rw [Backlog.flush, hwaiting, List.filter_map, List.map_map]
  rfl

/-- A file that is covered is collected and flushed, and any other file that can be opened changes
nothing. -/
theorem takeUp_of_open? {o : OpenFile} (h : f.open? j.program.extents = some o) (st : Progress) :
    c.takeUp j st f =
      if c.covers o then
        ⟨((c.collect j f st.backlog).flush o.silencesLine).2,
          st.reported ++ ((c.collect j f st.backlog).flush o.silencesLine).1⟩
      else st := by
  rw [takeUp, h, covers]
  dsimp only
  cases o.isGenerated && !c.generated with
  | true => rfl
  | false =>
      cases o.isSilenced with
      | true => rfl
      | false => rfl

/-- A file that is taken up with an empty backlog leaves it empty, and adds to the report what it
always adds. -/
theorem takeUp_eq {st : Progress} (h : st.backlog = .empty) (f : SourceFile) :
    c.takeUp j st f = ⟨.empty, st.reported ++ c.addition j f⟩ := by
  obtain ⟨backlog, reported⟩ := st
  subst h
  rw [addition, reportedSpans]
  cases ho : f.open? j.program.extents with
  | none => rw [takeUp, ho]
  | some o =>
      rw [takeUp_of_open? ho]
      -- A file that is not covered skips the flush, which is safe as it has added nothing.
      by_cases hcovers : c.covers o
      · simp only [if_pos hcovers, flush_collect_empty]
      · simp only [if_neg hcovers, List.map_nil, List.append_nil]

/-- How far the analysis has come when the files have been taken up. -/
def progress (c : Config) (j : Judge) (files : List SourceFile) : Progress :=
  files.foldl (c.takeUp j) {}

/-- Files that are taken up with an empty backlog leave it empty, and the report grows by what each
of them adds. -/
theorem foldl_takeUp {st : Progress} (h : st.backlog = .empty) (files : List SourceFile) :
    files.foldl (c.takeUp j) st = ⟨.empty, st.reported ++ files.flatMap (c.addition j)⟩ := by
  induction files generalizing st with
  | nil =>
      cases st
      subst h
      simp
  | cons f files ih =>
      rw [List.foldl_cons, takeUp_eq h, ih rfl, List.flatMap_cons, List.append_assoc]

/-- Nothing waits between two files, and the report holds what each file adds. -/
theorem progress_eq (c : Config) (j : Judge) (files : List SourceFile) :
    c.progress j files = ⟨.empty, files.flatMap (c.addition j)⟩ :=
  foldl_takeUp rfl files

/-! ## The analysis of a package -/

/-- Whether files are looked at: some check is switched on, and some closer is known. -/
def isActive (c : Config) (p : Program) : Bool :=
  !c.checks.isEmpty && (p.judge c.closers).closers.isResolved

/-- A run reports what the loop over the files reports, if it gets there. -/
theorem analyze_eq_reported (c : Config) (p : Program) (files : List SourceFile) :
    c.analyze p files =
      if c.isActive p then (c.progress (p.judge c.closers) files).reported else [] := by
  rw [analyze, isActive]
  cases c.checks.isEmpty with
  | true => rfl
  | false => rfl

/-- A run that gets to the files reports what each of them adds. -/
theorem analyze_eq_flatMap (c : Config) (p : Program) (files : List SourceFile) :
    c.analyze p files =
      if c.isActive p then files.flatMap (c.addition (p.judge c.closers)) else [] := by
  rw [analyze_eq_reported, progress_eq]

theorem analyze_append (c : Config) (p : Program) (files more : List SourceFile) :
    c.analyze p (files ++ more) = c.analyze p files ++ c.analyze p more := by
  simp only [analyze_eq_flatMap, List.flatMap_append]
  split
  · rfl
  · rfl

/-- What a file adds is an internal error or the diagnostics of increasing spans. -/
theorem adds_addition (c : Config) (j : Judge) (f : SourceFile) :
    f.Adds j.program.extents (c.addition j f) := by
  rw [addition]
  split
  · rename_i h
    exact .unknown h
  · rename_i o h
    exact .findings (Option.isSome_of_eq_some h) (pairwise_reportedSpans c j f)

/-- **Files are analyzed independently.**  The report on two lists of files is the report on the
first followed by the report on the second.  Whatever files the loop has taken up, the backlog is
empty when it takes up the next, and that file adds what it adds to a report of its own. -/
theorem run_append (c : Config) (p : Program) (files more : List SourceFile) :
    (∃ ds ds', c.run p (some files) = .ok ds ∧ c.run p (some more) = .ok ds' ∧
        c.run p (some (files ++ more)) = .ok (ds ++ ds')) ∧
      c.run p (some files) =
        .ok (if c.isActive p then (c.progress (p.judge c.closers) files).reported else []) ∧
      (c.progress (p.judge c.closers) files).backlog = .empty ∧
      ∀ f : SourceFile, ∃ ds, f.Adds p.extents ds ∧
        c.takeUp (p.judge c.closers) (c.progress (p.judge c.closers) files) f =
          ⟨.empty, (c.progress (p.judge c.closers) files).reported ++ ds⟩ ∧
        c.run p (some [f]) = .ok (if c.isActive p then ds else []) := by
  refine ⟨⟨_, _, rfl, rfl, ?_⟩, ?_, ?_, ?_⟩
  · rw [run, analyze_append]
  · rw [run, analyze_eq_reported]
  · rw [progress_eq]
  · intro f
    refine ⟨c.addition (p.judge c.closers) f, adds_addition c (p.judge c.closers) f, ?_, ?_⟩
    · rw [progress_eq, takeUp_eq rfl]
    · rw [run, analyze_eq_flatMap, List.flatMap_singleton]

end Config

end Unclosed
