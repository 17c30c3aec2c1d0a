import Unclosed.Proofs.Variation.Report

/-!
# Renaming

Variables are matched by their objects and not by their names.  So identifiers can be renamed, each
occurrence on its own, and the report stays the same.  Two kinds of names have a meaning to the
linter and are kept: selected names, which tell the methods that release, and the blank name.  A
third is shown: a file that cannot be opened is reported by the name in its package clause.
-/

namespace Unclosed

/-! ## Renamed trees -/

def Form.renamed (ρ : String → String) : Form → Form
  | .ident name declares refersTo => .ident (ρ name) declares refersTo
  | form => form

namespace Node

mutual

/-- The tree with its identifiers renamed, except what is selected; `keep` tells whether the node
itself keeps its name.  The new name of an identifier may depend on where it stands. -/
def renamed (ρ : Span → String → String) (keep : Bool) : Node → Node
  | ⟨edge, form, span, type, children⟩ =>
    ⟨edge, if keep then form else form.renamed (ρ span), span, type,
      renamedAll ρ form.isSelector children⟩
termination_by structural n => n

def renamedAll (ρ : Span → String → String) (inSelector : Bool) : List Node → List Node
  | [] => []
  | n :: ns => n.renamed ρ (inSelector && n.edge = .selected) :: renamedAll ρ inSelector ns
termination_by structural ns => ns

end

variable (ρ : Span → String → String)

theorem renamedAll_eq_map (inSelector : Bool) (ns : List Node) :
    renamedAll ρ inSelector ns =
      ns.map fun n => n.renamed ρ (inSelector && n.edge = .selected) := by
  induction ns with
  | nil => rw [renamedAll, List.map_nil]
  | cons n ns ih => rw [renamedAll, ih, List.map_cons]

theorem renamed_eq (keep : Bool) (n : Node) :
    n.renamed ρ keep =
      ⟨n.edge, if keep then n.form else n.form.renamed (ρ n.span), n.span, n.type,
        n.children.map fun m => m.renamed ρ (n.form.isSelector && m.edge = .selected)⟩ := by
  cases n
  rw [renamed, renamedAll_eq_map]

/-- A node that keeps its name keeps its form. -/
theorem identName?_renamed_true (n : Node) : (n.renamed ρ true).identName? = n.identName? := by
  rw [renamed_eq, identName?, identName?]
  rfl

theorem selected_renamed (keep : Bool) {n : Node} (h : n.form.isSelector) :
    ((n.renamed ρ keep).child? .selected).bind identName? =
      (n.child? .selected).bind identName? := by
  have hedge (m : Node) :
      (m.renamed ρ (n.form.isSelector && m.edge = .selected)).edge = m.edge := by
    rw [renamed_eq]
  rw [renamed_eq, child?, child?, List.find?_map]
  simp only [Function.comp_def, hedge]
  cases hselected : n.children.find? (·.edge = .selected) with
  | none => rfl
  | some m =>
      have hm : m.edge = .selected := by simpa using List.find?_some hselected
      simp only [Option.map_some, Option.bind_some, h, hm, decide_true, Bool.and_self,
        identName?_renamed_true]

end Node

/-- The file with its identifiers renamed, except the name in its package clause. -/
def SourceFile.renamed (ρ : Span → String → String) (f : SourceFile) : SourceFile :=
  f.withDecls (f.decls.map (Node.renamed ρ false))

def SourceFile.withName (f : SourceFile) (name : String) : SourceFile :=
  { f with name := name }

/-- The file with its identifiers renamed, the name in its package clause among them. -/
def SourceFile.renamedThroughout (ρ : Span → String → String) (f : SourceFile) : SourceFile :=
  (f.renamed ρ).withName (ρ f.nameSpan f.name)

/-! ## Runs on renamed files -/

section

variable {ρ : Span → String → String} (hρ : ∀ span name, ρ span name = "_" ↔ name = "_")

include hρ

/-- Renaming keeps everything about a form but the name. -/
theorem Form.alike_renamed (span : Span) (form : Form) : form.Alike (form.renamed (ρ span)) := by
  cases form with
  | ident name declares refersTo => exact .ident (hρ span name)
  | _ => exact .refl _

/-- Nodes and their renamed forms are a variation without new statements. -/
theorem variation_renamed :
    Variation (fun n m => ∃ keep, m = n.renamed ρ keep) (fun _ => False) where
  edge := by
    rintro n _ ⟨keep, rfl⟩
    rw [Node.renamed_eq]
  span := by
    rintro n _ ⟨keep, rfl⟩
    rw [Node.renamed_eq]
  type := by
    rintro n _ ⟨keep, rfl⟩
    rw [Node.renamed_eq]
  form := by
    rintro n _ ⟨keep, rfl⟩
    rw [Node.renamed_eq]
    cases keep with
    | false => exact Form.alike_renamed hρ n.span n.form
    | true => exact .refl _
  children := by
    rintro n _ ⟨keep, rfl⟩
    rw [Node.renamed_eq]
    apply Grown.of_forall₂
    exact List.forall₂_map_right_iff.mpr (List.forall₂_same.mpr fun m _ => ⟨_, rfl⟩)
  selected := by
    rintro n _ ⟨keep, rfl⟩ hselector
    exact Node.selected_renamed ρ keep hselector

theorem SourceFile.addition_renamed (c : Config) (p : Program) (names : List String)
    (f : SourceFile) :
    c.addition (p.judge names) (f.renamed ρ) = c.addition (p.judge names) f := by
  refine (variation_renamed hρ).addition_eq (fun _ => False.elim) (fun _ => False.elim) ?_ f
  exact List.forall₂_map_right_iff.mpr (List.forall₂_same.mpr fun n _ => ⟨false, rfl⟩)

end

/-- Renaming does not move the start of a file, which decides whether it can be opened. -/
theorem SourceFile.isSome_open?_renamed (ρ : Span → String → String) (f : SourceFile)
    (extents : List Extent) : ((f.renamed ρ).open? extents).isSome = (f.open? extents).isSome := by
  rw [open?, open?, Option.isSome_map, Option.isSome_map]
  rfl

namespace Config

/-- No finding depends on the name in a package clause. -/
theorem reportedSpans_withName (c : Config) (j : Judge) (f : SourceFile) (name : String) :
    c.reportedSpans j (f.withName name) = c.reportedSpans j f := by
  simp only [reportedSpans, SourceFile.open?, SourceFile.withName]
  cases j.program.extents.find? (·.spans f.start) with
  | none => rfl
  | some e => rfl

/-- A file that can be opened adds the same to the report whatever its package clause names. -/
theorem addition_withName {c : Config} {j : Judge} {f : SourceFile}
    (hopen : (f.open? j.program.extents).isSome) (name : String) :
    c.addition j (f.withName name) = c.addition j f := by
  have hfind : (j.program.extents.find? (·.spans f.start)).isSome := by
    simpa [SourceFile.open?] using hopen
  obtain ⟨e, he⟩ := Option.isSome_iff_exists.mp hfind
  have hname : (f.withName name).open? j.program.extents = some ⟨f.withName name, e⟩ :=
    congrArg (Option.map _) he
  have hsame : f.open? j.program.extents = some ⟨f, e⟩ := congrArg (Option.map _) he
  simp only [addition, hname, hsame, reportedSpans_withName]

theorem addition_renamedThroughout {c : Config} {p : Program} {names : List String}
    {f : SourceFile} {ρ : Span → String → String}
    (hρ : ∀ span name, ρ span name = "_" ↔ name = "_") (hopen : (f.open? p.extents).isSome) :
    c.addition (p.judge names) (f.renamedThroughout ρ) = c.addition (p.judge names) f := by
  have hrenamed : ((f.renamed ρ).open? (p.judge names).program.extents).isSome :=
    (SourceFile.isSome_open?_renamed ρ f p.extents).trans hopen
  exact (addition_withName hrenamed _).trans (SourceFile.addition_renamed hρ c p names f)

/-- **Names do not matter.**  Identifiers are renamed, each occurrence in any way that keeps blank
names blank and others not blank.  If the names in the package clauses are kept, a run leads to the
same result.  If they are renamed as well, it leads to the same findings, and to the same result if
every file can be opened. -/
theorem run_renamed (c : Config) (p : Program) (files : List SourceFile)
    (ρ : Span → String → String) (hρ : ∀ span name, ρ span name = "_" ↔ name = "_") :
    c.run p (some (files.map (SourceFile.renamed ρ))) = c.run p (some files) ∧
    (∃ ds ds', c.run p (some files) = .ok ds ∧
      c.run p (some (files.map (SourceFile.renamedThroughout ρ))) = .ok ds' ∧
      ds'.filter Diagnostic.isFinding = ds.filter Diagnostic.isFinding) ∧
    ((∀ f ∈ files, (f.open? p.extents).isSome) →
      c.run p (some (files.map (SourceFile.renamedThroughout ρ))) = c.run p (some files)) := by
  have hsame : c.analyze p (files.map (SourceFile.renamed ρ)) = c.analyze p files := by
    rw [analyze_eq_flatMap, analyze_eq_flatMap, List.flatMap_map]
    simp only [SourceFile.addition_renamed hρ]
  refine ⟨congrArg Except.ok hsame, ⟨_, _, rfl, rfl, ?_⟩, fun hopen => congrArg Except.ok ?_⟩
  · rw [← hsame, filter_analyze, filter_analyze, List.flatMap_map, List.flatMap_map]
    simp only [SourceFile.renamedThroughout, reportedSpans_withName]
  · rw [analyze_eq_flatMap, analyze_eq_flatMap, List.flatMap_map,
      List.flatMap_congr fun f hf => addition_renamedThroughout hρ (hopen f hf)]

end Config

namespace Sample

/-- A renaming under which the two occurrences of a variable get different names. -/
def apart (span : Span) (name : String) : String :=
  if name = "_" then name else if span = ⟨24, 25⟩ then "bound" else "used"

theorem apart_eq_blank_iff (span : Span) (name : String) : apart span name = "_" ↔ name = "_" := by
  rw [apart]
  split
  · rfl
  · split <;> simp_all

/-- The variable that is bound as `bound` is released as `used`, in a package of another name. -/
theorem run_renamed_apart :
    (∀ span name, apart span name = "_" ↔ name = "_") ∧
      ((file [binding, releasing]).open? program.extents).isSome ∧
      Config.default.run program (some [(file [binding, releasing]).renamed apart]) = .ok [] ∧
      Config.default.run program (some [(file [binding, releasing]).renamedThroughout apart]) =
        .ok [] := by
  have hopen : ((file [binding, releasing]).open? program.extents).isSome := by decide
  have hnone : Config.default.run program (some [file [binding, releasing]]) = .ok [] :=
    congrArg Except.ok analyze_releasing
  obtain ⟨hkept, -, hthroughout⟩ := Config.run_renamed Config.default program
    [file [binding, releasing]] apart apart_eq_blank_iff
  refine ⟨apart_eq_blank_iff, hopen, hkept.trans hnone, (hthroughout ?_).trans hnone⟩
  simpa using hopen

/-- A file without declarations that no extent of the program holds. -/
def stray : SourceFile :=
  ⟨101, 101, 109, "p", #[], none, []⟩

def toQ (_ : Span) (name : String) : String :=
  if name = "p" then "q" else name

/-- The file cannot be opened, and the diagnostic of that shows the name in the package clause. -/
theorem not_run_renamed :
    (∀ span name, toQ span name = "_" ↔ name = "_") ∧
      Config.default.run program (some [stray]) =
        .ok [.internalError ⟨101, 110⟩ "File %s without valid info" [.text "p"]] ∧
      Config.default.run program (some [stray.renamedThroughout toQ]) =
        .ok [.internalError ⟨101, 110⟩ "File %s without valid info" [.text "q"]] ∧
      Config.default.run program (some [stray.renamedThroughout toQ]) ≠
        Config.default.run program (some [stray]) := by
  have hkept : Config.default.analyze program [stray] =
      [.internalError ⟨101, 110⟩ "File %s without valid info" [.text "p"]] := by decide +kernel
  have hrenamed : Config.default.analyze program [stray.renamedThroughout toQ] =
      [.internalError ⟨101, 110⟩ "File %s without valid info" [.text "q"]] := by decide +kernel
  refine ⟨?_, congrArg Except.ok hkept, congrArg Except.ok hrenamed, ?_⟩
  · intro span name
    rw [toQ]
    split <;> simp_all
  · intro h
    have hanalyze := Except.ok.inj h
    rw [hkept, hrenamed] at hanalyze
    revert hanalyze
    decide +kernel

end Sample

end Unclosed
