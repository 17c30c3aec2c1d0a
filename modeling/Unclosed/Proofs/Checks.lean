import Unclosed.Proofs.Comparison

/-!
# Checks and early exits

The checks act on each statement by itself, so the report under several checks is made up of the
reports under each of them: whatever one check finds is found with or without the others.  A run
that has nothing to check, or nothing to look for, does not get to the files; had it looked at them,
it would have found nothing.
-/

namespace Unclosed

namespace Judge

variable {j : Judge} {s : Site} {found : Finding}

theorem verdict_subset {checks checks' : Checks}
    (h : ∀ flag, checks.enabled flag → checks'.enabled flag) (s : Site) :
    j.verdict checks s ⊆ j.verdict checks' s := by
  intro x hx
  apply mem_verdict_iff.mpr
  rcases mem_verdict_iff.mp hx with ⟨hform, hon, hx⟩ | ⟨hform, hon, hx⟩ | ⟨hform, hon, hx⟩
  · exact .inl ⟨hform, h _ hon, hx⟩
  · exact .inr (.inl ⟨hform, h _ hon, hx⟩)
  · exact .inr (.inr ⟨hform, h _ hon, hx⟩)

/-- The check of declarations alone finds fault with declarations only. -/
theorem form_of_mem_verdict_declarations (h : found ∈ j.verdict (.ofFlags [Check.declarations]) s) :
    s.node.form ∈ [.declStmt, .assign .define] := by
  rcases mem_verdict_iff.mp h with ⟨hform, -⟩ | ⟨hform, -⟩ | ⟨-, hon, -⟩
  · simp [hform]
  · simp [hform]
  · exact absurd hon (by decide)

/-- The check of assignments alone finds fault with assignments only. -/
theorem form_of_mem_verdict_assignments (h : found ∈ j.verdict (.ofFlags [Check.assignments]) s) :
    s.node.form ∈ [.assign .plain] := by
  rcases mem_verdict_iff.mp h with ⟨-, hon, -⟩ | ⟨-, hon, -⟩ | ⟨hform, -⟩
  · exact absurd hon (by decide)
  · exact absurd hon (by decide)
  · simp [hform]

/-- A verdict under two lists of checks finds what it finds under one of them. -/
theorem mem_verdict_ofFlags_append_iff {flags more : List (BitVec 8)} :
    found ∈ j.verdict (.ofFlags (flags ++ more)) s ↔
      found ∈ j.verdict (.ofFlags flags) s ∨ found ∈ j.verdict (.ofFlags more) s := by
  constructor
  · intro h
    simp only [mem_verdict_iff, Mask.enabled_ofFlags_append, Bool.or_eq_true] at h ⊢
    -- The kind of statement decides on which of the two checks the verdict depends.
    rcases h with ⟨hform, hon | hon, hx⟩ | ⟨hform, hon | hon, hx⟩ | ⟨hform, hon | hon, hx⟩
    all_goals simp [hform, hon, hx]
  · rintro (h | h)
    · refine verdict_subset ?_ s h
      simp +contextual [Mask.enabled_ofFlags_append]
    · refine verdict_subset ?_ s h
      simp +contextual [Mask.enabled_ofFlags_append]

end Judge

/-- A statement of the file that is looked at has one of the forms, and the span is the place of one
of its targets. -/
def SourceFile.BindsAt (f : SourceFile) (forms : List Form) (span : Span) : Prop :=
  ∃ s ∈ f.sites, s.node.form ∈ forms ∧ ∃ t ∈ Target.ofStatement s.node, Judge.place s t = span

namespace Config

variable {c : Config} {j : Judge} {p : Program} {f : SourceFile} {files : List SourceFile}
  {d : Diagnostic} {span : Span}

/-! ## What a report holds -/

/-- What a file adds to the report: its internal error, or the spans it is reported for. -/
theorem mem_addition_iff :
    d ∈ c.addition j f ↔
      f.open? j.program.extents = none ∧ d = f.unknown ∨
        ∃ span ∈ c.reportedSpans j f, d = .unclosed span := by
  rw [addition]
  cases h : f.open? j.program.extents with
  | none => simp [reportedSpans, h]
  | some o => simp [eq_comm]

/-- What the report of a run holds.  Only the internal errors depend on whether the run gets to the
files. -/
theorem mem_analyze_iff :
    d ∈ c.analyze p files ↔
      (c.isActive p ∧ ∃ f ∈ files, f.open? p.extents = none ∧ d = f.unknown) ∨
        ∃ f ∈ files, ∃ span ∈ c.reportedSpans (p.judge c.closers) f, d = .unclosed span := by
  rw [analyze_eq_flatMap]
  by_cases hactive : c.isActive p
  · simp only [hactive, if_true, true_and, List.mem_flatMap, mem_addition_iff, and_or_left,
      exists_or]
    rfl
  · simp [hactive, reportedSpans_eq_nil]

/-! ## More and fewer checks -/

def withChecks (c : Config) (checks : Checks) : Config :=
  { c with checks := checks }

@[simp] theorem closers_withChecks (c : Config) (checks : Checks) :
    (c.withChecks checks).closers = c.closers :=
  rfl

/-- A run gets to the files if a check is switched on and a closer is known. -/
theorem isActive_withChecks_iff {checks : Checks} :
    (c.withChecks checks).isActive p ↔
      (∃ flag, checks.enabled flag) ∧ (p.judge c.closers).closers.isResolved := by
  have hempty : checks.isEmpty = false ↔ ∃ flag, checks.enabled flag := by
    rw [← Bool.not_eq_true, Mask.isEmpty_iff_not_enabled]
    simp
  simp [isActive, withChecks, hempty]

theorem foundSpans_withChecks_subset {checks checks' : Checks}
    (h : ∀ flag, checks.enabled flag → checks'.enabled flag) (f : SourceFile) :
    (c.withChecks checks).foundSpans j f ⊆ (c.withChecks checks').foundSpans j f := by
  intro span hspan
  simp only [mem_foundSpans_iff, found, List.mem_flatMap] at hspan ⊢
  obtain ⟨x, ⟨s, hs, hx⟩, hspan⟩ := hspan
  exact ⟨x, ⟨s, hs, Judge.verdict_subset h s hx⟩, hspan⟩

theorem mem_foundSpans_ofFlags_append_iff {flags more : List (BitVec 8)} :
    span ∈ (c.withChecks (.ofFlags (flags ++ more))).foundSpans j f ↔
      span ∈ (c.withChecks (.ofFlags flags)).foundSpans j f ∨
        span ∈ (c.withChecks (.ofFlags more)).foundSpans j f := by
  simp only [mem_foundSpans_iff, found, withChecks, List.mem_flatMap,
    Judge.mem_verdict_ofFlags_append_iff, and_or_left, or_and_right, exists_or]

theorem mem_reportedSpans_ofFlags_append_iff {flags more : List (BitVec 8)} :
    span ∈ (c.withChecks (.ofFlags (flags ++ more))).reportedSpans j f ↔
      span ∈ (c.withChecks (.ofFlags flags)).reportedSpans j f ∨
        span ∈ (c.withChecks (.ofFlags more)).reportedSpans j f := by
  simp only [mem_reportedSpans_iff, mem_foundSpans_ofFlags_append_iff, and_or_left, exists_or]
  rfl

/-- A run gets to the files under two lists of checks if it gets there under one of them. -/
theorem isActive_ofFlags_append_iff {flags more : List (BitVec 8)} :
    (c.withChecks (.ofFlags (flags ++ more))).isActive p ↔
      (c.withChecks (.ofFlags flags)).isActive p ∨ (c.withChecks (.ofFlags more)).isActive p := by
  simp only [isActive_withChecks_iff, Mask.enabled_ofFlags_append, Bool.or_eq_true, exists_or,
    or_and_right]

/-- The report under two lists of checks is made up of the reports under each of them. -/
theorem mem_analyze_ofFlags_append_iff (flags more : List (BitVec 8)) :
    d ∈ (c.withChecks (.ofFlags (flags ++ more))).analyze p files ↔
      d ∈ (c.withChecks (.ofFlags flags)).analyze p files ∨
        d ∈ (c.withChecks (.ofFlags more)).analyze p files := by
  simp only [mem_analyze_iff, closers_withChecks, isActive_ofFlags_append_iff,
    mem_reportedSpans_ofFlags_append_iff, or_and_right, and_or_left, exists_or]
  exact or_or_or_comm

/-- The report under fewer checks is part of the report under more checks, in the same order. -/
theorem analyze_withChecks_sublist {checks checks' : Checks}
    (h : ∀ flag, checks.enabled flag → checks'.enabled flag) (files : List SourceFile) :
    ((c.withChecks checks).analyze p files).Sublist ((c.withChecks checks').analyze p files) := by
  rw [analyze_eq_flatMap, analyze_eq_flatMap]
  by_cases hactive : (c.withChecks checks).isActive p
  · have hactive' : (c.withChecks checks').isActive p := by
      obtain ⟨⟨flag, hon⟩, hresolved⟩ := isActive_withChecks_iff.mp hactive
      exact isActive_withChecks_iff.mpr ⟨⟨flag, h flag hon⟩, hresolved⟩
    rw [if_pos hactive, if_pos hactive']
    apply List.Sublist.flatMap_right
    intro f _
    apply addition_sublist f f.decls f.decls rfl rfl
    exact reportedSpans_sublist f f.decls f.decls rfl rfl (foundSpans_withChecks_subset h f)
  · rw [if_neg hactive]
    exact List.nil_sublist _

/-! ## One check alone -/

/-- A finding in the report of a run comes from a verdict on a site of some file. -/
theorem bindsAt_of_mem_analyze {forms : List Form} {checks : Checks}
    (hforms : ∀ j : Judge, ∀ s, ∀ x ∈ j.verdict checks s, s.node.form ∈ forms)
    (h : .unclosed span ∈ (c.withChecks checks).analyze p files) :
    ∃ f ∈ files, f.BindsAt forms span := by
  rcases mem_analyze_iff.mp h with ⟨-, f, -, -, hunknown⟩ | ⟨f, hf, span', hspan, heq⟩
  · exact absurd (Diagnostic.isFinding_unclosed span) (hunknown ▸ f.not_isFinding_unknown)
  · obtain rfl : span = span' := congrArg Diagnostic.span heq
    obtain ⟨o, -, -, -, hspan⟩ := mem_reportedSpans_iff.mp hspan
    obtain ⟨x, hx, hspan⟩ := mem_foundSpans_iff.mp hspan
    obtain ⟨s, hs, hx⟩ := List.mem_flatMap.mp hx
    obtain ⟨t, ht, hplace⟩ := Judge.exists_mem_verdict_iff.mp ⟨x, hx, hspan⟩
    exact ⟨f, hf, s, hs, hforms _ s x hx, t, (Judge.mem_reportable_iff.mp ht).1, hplace⟩

/-- **Checks are independent of each other.**  The report under both checks is made up of the report
under the check of declarations, which is about declarations only, and the report under the check of
assignments, which is about assignments only.  Without checks nothing is reported.  Whatever checks
are switched on, switching one off adds nothing to the report and leaves what remains as it was. -/
theorem run_withChecks (c : Config) (p : Program) (files : List SourceFile) :
    ∃ report : Checks → List Diagnostic,
      (∀ checks, (c.withChecks checks).run p (some files) = .ok (report checks)) ∧
      (∀ d, d ∈ report (.ofFlags [Check.declarations, Check.assignments]) ↔
        d ∈ report (.ofFlags [Check.declarations]) ∨ d ∈ report (.ofFlags [Check.assignments])) ∧
      (∀ span, .unclosed span ∈ report (.ofFlags [Check.declarations]) →
        ∃ f ∈ files, f.BindsAt [.declStmt, .assign .define] span) ∧
      (∀ span, .unclosed span ∈ report (.ofFlags [Check.assignments]) →
        ∃ f ∈ files, f.BindsAt [.assign .plain] span) ∧
      report (.ofFlags []) = [] ∧
      ∀ checks flag, (report (checks.set flag false)).Sublist (report checks) := by
  refine ⟨fun checks => (c.withChecks checks).analyze p files, fun _ => rfl, ?_, ?_, ?_, rfl, ?_⟩
  · intro d
    exact mem_analyze_ofFlags_append_iff [Check.declarations] [Check.assignments]
  · intro span h
    exact bindsAt_of_mem_analyze (fun _ _ _ => Judge.form_of_mem_verdict_declarations) h
  · intro span h
    exact bindsAt_of_mem_analyze (fun _ _ _ => Judge.form_of_mem_verdict_assignments) h
  · intro checks flag
    exact analyze_withChecks_sublist (fun _ => Mask.enabled_of_enabled_set_false) files

open Sample in
/-- The variable is reported by the check of declarations alone. -/
theorem run_withChecks_binding :
    (default.withChecks (.ofFlags [Check.declarations])).run program (some [file [binding]]) =
        .ok [.unclosed ⟨24, 25⟩] ∧
      ∃ f ∈ [file [binding]], f.BindsAt [.declStmt, .assign .define] ⟨24, 25⟩ := by
  have hrun : (default.withChecks (.ofFlags [Check.declarations])).run program
      (some [file [binding]]) = .ok [.unclosed ⟨24, 25⟩] :=
    congrArg Except.ok (by decide +kernel)
  obtain ⟨report, hreport, -, hdeclared, -⟩ := run_withChecks default program [file [binding]]
  have hreported : report (.ofFlags [Check.declarations]) = [.unclosed ⟨24, 25⟩] :=
    Except.ok.inj ((hreport _).symm.trans hrun)
  exact ⟨hrun, hdeclared _ (by simp [hreported])⟩

/-! ## Without early exits -/

/-- The report of a run that looks at all files, even if no check is switched on or no closer is
known. -/
def runThrough (c : Config) (p : Program) (files : Option (List SourceFile)) :
    Except RunError (List Diagnostic) :=
  match files with
  | none => .error .treesMissing
  | some files => .ok (c.analyzeFiles (p.judge c.closers) files)

theorem analyzeFiles_eq_flatMap (c : Config) (j : Judge) (files : List SourceFile) :
    c.analyzeFiles j files = files.flatMap (c.addition j) :=
  congrArg Progress.reported (progress_eq c j files)

/-- A run that does not get to the files would only have reported the files that cannot be
opened. -/
theorem addition_of_not_isActive (h : ¬c.isActive p) (f : SourceFile) :
    c.addition (p.judge c.closers) f =
      if (f.open? p.extents).isSome then [] else [f.unknown] := by
  have hextents : (p.judge c.closers).program.extents = p.extents := rfl
  rw [addition, reportedSpans_eq_nil h, hextents]
  cases f.open? p.extents with
  | none => rfl
  | some o => rfl

/-- The findings of the loop over the files are those of a run, whether or not it gets there. -/
theorem filter_analyzeFiles (c : Config) (p : Program) (files : List SourceFile) :
    (c.analyzeFiles (p.judge c.closers) files).filter Diagnostic.isFinding =
      (c.analyze p files).filter Diagnostic.isFinding := by
  rw [analyzeFiles_eq_flatMap, filter_analyze, List.filter_flatMap, List.map_flatMap]
  exact List.flatMap_congr fun f _ => filter_addition c (p.judge c.closers) f

/-- If all files can be opened, the loop over the files reports what a run reports, whether or not
it gets there. -/
theorem analyzeFiles_eq_analyze (h : ∀ f ∈ files, (f.open? p.extents).isSome) :
    c.analyzeFiles (p.judge c.closers) files = c.analyze p files := by
  by_cases hactive : c.isActive p
  · rw [analyze_eq_reported, if_pos hactive]
    rfl
  · rw [analyzeFiles_eq_flatMap, analyze_eq_flatMap, if_neg hactive, List.flatMap_eq_nil_iff]
    intro f hf
    rw [addition_of_not_isActive hactive, if_pos (h f hf)]

theorem analyze_subset_analyzeFiles (c : Config) (p : Program) (files : List SourceFile) :
    c.analyze p files ⊆ c.analyzeFiles (p.judge c.closers) files := by
  rw [analyze_eq_reported]
  split
  · exact List.Subset.refl _
  · exact List.nil_subset _

/-- What the loop over the files reports is a finding, unless it is the internal error of a file that
cannot be opened. -/
theorem not_isFinding_iff (h : d ∈ c.analyzeFiles j files) :
    ¬d.isFinding ↔ ∃ f ∈ files, f.open? j.program.extents = none ∧ d = f.unknown := by
  rw [analyzeFiles_eq_flatMap] at h
  obtain ⟨f, hf, hd⟩ := List.mem_flatMap.mp h
  constructor
  · intro hnot
    rcases mem_addition_iff.mp hd with ⟨hopen, hd⟩ | ⟨span, -, rfl⟩
    · exact ⟨f, hf, hopen, hd⟩
    · exact absurd (Diagnostic.isFinding_unclosed span) hnot
  · rintro ⟨f, -, -, rfl⟩
    exact f.not_isFinding_unknown

/-- **Early exits change no finding.**  A run that looks at the files although no check is switched on
or no closer is known reports the same findings, in the same order, and the same in all if every file
can be opened.  What is not a finding, in either report, is the internal error of a file that cannot
be opened. -/
theorem run_runThrough (c : Config) (p : Program) (files : List SourceFile) :
    ∃ ds ds', c.run p (some files) = .ok ds ∧ c.runThrough p (some files) = .ok ds' ∧
      ds.filter Diagnostic.isFinding = ds'.filter Diagnostic.isFinding ∧
      ((∀ f ∈ files, (f.open? p.extents).isSome) → ds = ds') ∧
      ∀ d, d ∈ ds ∨ d ∈ ds' →
        (¬d.isFinding ↔ ∃ f ∈ files, f.open? p.extents = none ∧ d = f.unknown) := by
  refine ⟨_, _, rfl, rfl, (filter_analyzeFiles c p files).symm, ?_, ?_⟩
  · intro h
    exact (analyzeFiles_eq_analyze h).symm
  · intro d hd
    rcases hd with hd | hd
    · exact not_isFinding_iff (analyze_subset_analyzeFiles c p files hd)
    · exact not_isFinding_iff hd

open Sample in
/-- Without checks, nothing is reported of a file that holds a fault, looked at or not. -/
theorem run_runThrough_binding :
    (∀ f ∈ [file [binding]], (f.open? program.extents).isSome) ∧
      (default.withChecks (.ofFlags [])).runThrough program (some [file [binding]]) = .ok [] := by
  have hopen : ∀ f ∈ [file [binding]], (f.open? program.extents).isSome := by
    decide +kernel
  refine ⟨hopen, ?_⟩
  obtain ⟨ds, ds', hds, hds', -, hsame, -⟩ :=
    run_runThrough (default.withChecks (.ofFlags [])) program [file [binding]]
  rw [hds', ← hsame hopen, ← hds]
  rfl

end Config

end Unclosed
