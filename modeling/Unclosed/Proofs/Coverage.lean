import Unclosed.Proofs.Descent
import Unclosed.Proofs.Files

/-!
# What a run reports

`f.Faults c p span` says, without a traversal and without a backlog, when a file should be reported
for a span: it can be opened and is not passed over, somewhere in it stands a statement that is found
fault with at the span, none of the functions around the statement is passed over, and the line is
not silenced.  A run reports exactly these spans, each of them once for each file.
-/

namespace Unclosed

/-- A function without a body, or with a comment that ends in a directive. -/
def Node.PassedOver (n : Node) : Prop :=
  ∃ doc, n.form = .funcDecl doc ∧ (n.child? .body = none ∨ ∃ g ∈ doc, g.last.silences)

/-- Whether the file is to be reported for the span. -/
def SourceFile.Faults (c : Config) (p : Program) (f : SourceFile) (span : Span) : Prop :=
  ∃ o, f.open? p.extents = some o ∧ (o.isGenerated → c.generated) ∧ ¬o.isSilenced ∧
    ¬o.silencesLine span.start ∧
    ∃ decl ∈ f.decls, ∃ ancestors n, decl.Reaches ancestors n ∧
      (n.form = .declStmt ∨ ∃ op, n.form = .assign op) ∧
      (∀ a ∈ ancestors, ¬a.PassedOver) ∧
      ∃ found ∈ (p.judge c.closers).verdict c.checks ⟨ancestors.getLast?, n⟩, found.span = span

/-- Whether the diagnostic reports a value left unclosed, and not an internal error. -/
def Diagnostic.isFinding (d : Diagnostic) : Bool :=
  d = .unclosed d.span

@[simp] theorem Diagnostic.isFinding_unclosed (span : Span) : (unclosed span).isFinding :=
  decide_eq_true rfl

/-- Internal errors refer to no documentation, and findings do. -/
@[simp] theorem SourceFile.not_isFinding_unknown (f : SourceFile) : ¬f.unknown.isFinding := by
  intro h
  have hurl : "" = linterUrl := congrArg Diagnostic.url (of_decide_eq_true h)
  revert hurl
  decide

/-! ## The sites that are looked at -/

theorem Node.isEntered_iff {n : Node} : n.isEntered ↔ ¬n.PassedOver := by
  rw [isEntered, PassedOver]
  split
  · rename_i doc hform
    rw [hform]
    cases n.child? .body <;> cases doc <;> simp
  · rename_i hform
    apply iff_of_true rfl
    rintro ⟨doc, h, -⟩
    exact hform doc h

/-- A file's sites are what its declarations reach without passing through what is passed over. -/
theorem SourceFile.mem_sites_iff {f : SourceFile} {s : Site} :
    s ∈ f.sites ↔
      ∃ decl ∈ f.decls, ∃ ancestors, decl.Reaches ancestors s.node ∧
        (∀ a ∈ ancestors, ¬a.PassedOver) ∧ s.parent = ancestors.getLast? := by
  simp only [sites, Node.sitesAll_eq_flatMap, List.mem_flatMap, Node.mem_sites_iff,
    Node.isEntered_iff, Option.or_none]

namespace Config

variable {c : Config} {j : Judge} {p : Program} {f : SourceFile} {span : Span}

/-- The spans of a file's findings are those of some finding, repeated or not. -/
theorem mem_foundSpans_iff : span ∈ c.foundSpans j f ↔ ∃ x ∈ c.found j f, x.span = span := by
  rw [foundSpans, List.mem_map]
  constructor
  · rintro ⟨x, hx, rfl⟩
    exact ⟨x, Finding.mem_of_mem_canonical hx, rfl⟩
  · rintro ⟨x, hx, rfl⟩
    obtain ⟨y, hy, hkey⟩ := Finding.exists_mem_canonical hx
    refine ⟨y, hy, ?_⟩
    have hstart : y.span.start = x.span.start := congrArg Finding.Key.start hkey
    have hstop : y.span.stop = x.span.stop := congrArg Finding.Key.stop hkey
    cases hy : y.span
    cases hx : x.span
    simp_all

/-- A file that is covered is reported for the spans of its findings on lines that are not
silenced. -/
theorem mem_reportedSpans_iff :
    span ∈ c.reportedSpans j f ↔
      ∃ o, f.open? j.program.extents = some o ∧ c.covers o ∧ ¬o.silencesLine span.start ∧
        span ∈ c.foundSpans j f := by
  rw [reportedSpans]
  cases f.open? j.program.extents with
  | none => simp
  | some o =>
      simp only [Option.some.injEq, exists_eq_left']
      by_cases hcovers : c.covers o
      · rw [if_pos hcovers, List.mem_filter]
        simp [hcovers, and_comm]
      · rw [if_neg hcovers]
        simp [hcovers]

theorem covers_iff {o : OpenFile} :
    c.covers o ↔ (o.isGenerated → c.generated) ∧ ¬o.isSilenced := by
  rw [covers]
  cases o.isGenerated <;> cases c.generated <;> simp

/-- The spans of a file's findings by the places of the statements. -/
theorem mem_foundSpans_iff_reaches :
    span ∈ c.foundSpans j f ↔
      ∃ decl ∈ f.decls, ∃ ancestors n, decl.Reaches ancestors n ∧
        (n.form = .declStmt ∨ ∃ op, n.form = .assign op) ∧
        (∀ a ∈ ancestors, ¬a.PassedOver) ∧
        ∃ found ∈ j.verdict c.checks ⟨ancestors.getLast?, n⟩, found.span = span := by
  simp only [mem_foundSpans_iff, found, List.mem_flatMap, SourceFile.mem_sites_iff]
  constructor
  · rintro ⟨x, ⟨⟨parent, n⟩, ⟨decl, hdecl, ancestors, hr, hentered, hparent⟩, hx⟩, hspan⟩
    subst hparent
    exact ⟨decl, hdecl, ancestors, n, hr, Judge.form_of_mem_verdict hx, hentered, x, hx, hspan⟩
  · rintro ⟨decl, hdecl, ancestors, n, hr, -, hentered, x, hx, hspan⟩
    exact ⟨x, ⟨⟨ancestors.getLast?, n⟩, ⟨decl, hdecl, ancestors, hr, hentered, rfl⟩, hx⟩, hspan⟩

theorem mem_reportedSpans_iff_faults :
    span ∈ c.reportedSpans (p.judge c.closers) f ↔ f.Faults c p span := by
  simp only [mem_reportedSpans_iff, covers_iff, mem_foundSpans_iff_reaches, SourceFile.Faults,
    and_assoc]
  rfl

/-! ## The report of a run -/

/-- Nothing is reported of a file when a run does not get to the files. -/
theorem reportedSpans_eq_nil (h : ¬c.isActive p) (f : SourceFile) :
    c.reportedSpans (p.judge c.closers) f = [] := by
  -- The early exits of a run skip the files, but there was nothing to be found in them.
  have hverdict : ∀ s, (p.judge c.closers).verdict c.checks s = [] := by
    intro s
    by_cases hchecks : c.checks.isEmpty
    · exact Judge.verdict_eq_nil_of_isEmpty hchecks s
    · apply Judge.verdict_eq_nil_of_not_isResolved
      simpa [isActive, hchecks] using h
  rw [List.eq_nil_iff_forall_not_mem]
  intro span hspan
  obtain ⟨o, -, -, -, hspan⟩ := mem_reportedSpans_iff.mp hspan
  obtain ⟨x, hx, -⟩ := mem_foundSpans_iff.mp hspan
  simp [found, hverdict] at hx

/-- The findings that a file adds to the report are those of its spans. -/
theorem filter_addition (c : Config) (j : Judge) (f : SourceFile) :
    (c.addition j f).filter Diagnostic.isFinding = (c.reportedSpans j f).map Diagnostic.unclosed := by
  rw [addition]
  split
  · rename_i h
    simp [reportedSpans, h]
  · rw [List.filter_eq_self]
    intro d hd
    obtain ⟨span, -, rfl⟩ := List.mem_map.mp hd
    exact Diagnostic.isFinding_unclosed span

/-- The findings in the report of a run are those of the spans of each file. -/
theorem filter_analyze (c : Config) (p : Program) (files : List SourceFile) :
    (c.analyze p files).filter Diagnostic.isFinding =
      (files.flatMap (c.reportedSpans (p.judge c.closers))).map Diagnostic.unclosed := by
  rw [analyze_eq_flatMap]
  split
  · rw [List.filter_flatMap, List.map_flatMap]
    exact List.flatMap_congr fun f _ => filter_addition c (p.judge c.closers) f
  · rename_i h
    simp [reportedSpans_eq_nil h]

/-- **A run reports what it should.**  Findings are reported at exactly the spans that some file is
to be reported for, and they are reported file by file, each span of a file once. -/
theorem run_reports_faults (c : Config) (p : Program) (files : List SourceFile) :
    ∃ ds, c.run p (some files) = .ok ds ∧
      (∀ span, (∃ d ∈ ds, d.isFinding ∧ d.span = span) ↔ ∃ f ∈ files, f.Faults c p span) ∧
      ∃ spans : SourceFile → List Span,
        ds.filter Diagnostic.isFinding = (files.flatMap spans).map Diagnostic.unclosed ∧
        ∀ f, (spans f).Nodup ∧ ∀ span, span ∈ spans f ↔ f.Faults c p span := by
  have hspans := filter_analyze c p files
  refine ⟨c.analyze p files, rfl, ?_, c.reportedSpans (p.judge c.closers), hspans, ?_⟩
  · intro span
    have hmem : (∃ d ∈ c.analyze p files, d.isFinding ∧ d.span = span) ↔
        ∃ d ∈ (c.analyze p files).filter Diagnostic.isFinding, d.span = span := by
      simp only [List.mem_filter, and_assoc]
    simp only [hmem, hspans, List.mem_map, List.mem_flatMap, mem_reportedSpans_iff_faults]
    constructor
    · rintro ⟨d, ⟨s, hs, rfl⟩, rfl⟩
      exact hs
    · intro hs
      exact ⟨.unclosed span, ⟨span, hs, rfl⟩, rfl⟩
  · intro f
    refine ⟨?_, fun span => mem_reportedSpans_iff_faults⟩
    exact (pairwise_reportedSpans c (p.judge c.closers) f).imp ne_of_lt

end Config

end Unclosed
