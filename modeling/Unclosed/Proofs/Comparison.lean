import Mathlib.Data.List.Flatten
import Mathlib.Data.List.Sort
import Unclosed.Proofs.Coverage

/-!
# Two runs side by side

When two runs look at the same files, or at files that only differ in their declarations, then the
same files are covered and the same lines are silenced.  What one run reports beyond the other is
decided by what is found: the spans that are reported of a file are sorted, so whatever is found by
both runs stands in both reports in the same order.
-/

namespace Unclosed

def SourceFile.withDecls (f : SourceFile) (decls : List Node) : SourceFile :=
  { f with decls := decls }

namespace Config

variable {c c' : Config} {j j' : Judge} {p : Program} {f : SourceFile} {span : Span}

/-- Which files are covered and which lines are silenced does not depend on the declarations. -/
theorem mem_reportedSpans_withDecls_iff {decls : List Node} :
    span ∈ c.reportedSpans j (f.withDecls decls) ↔
      ∃ o, f.open? j.program.extents = some o ∧ c.covers o ∧ ¬o.silencesLine span.start ∧
        span ∈ c.foundSpans j (f.withDecls decls) := by
  rw [mem_reportedSpans_iff]
  simp only [SourceFile.open?, Option.map_eq_some_iff]
  constructor
  · rintro ⟨_, ⟨e, he, rfl⟩, h⟩
    exact ⟨_, ⟨e, he, rfl⟩, h⟩
  · rintro ⟨_, ⟨e, he, rfl⟩, h⟩
    exact ⟨_, ⟨e, he, rfl⟩, h⟩

/-- If all that is found in a file by one run is found by another, then the other reports all that
the one does, in the same order. -/
theorem reportedSpans_sublist (f : SourceFile) (decls decls' : List Node)
    (hgenerated : c.generated = c'.generated)
    (hextents : j.program.extents = j'.program.extents)
    (hfound : c.foundSpans j (f.withDecls decls) ⊆ c'.foundSpans j' (f.withDecls decls')) :
    (c.reportedSpans j (f.withDecls decls)).Sublist
      (c'.reportedSpans j' (f.withDecls decls')) := by
  have hsubset : c.reportedSpans j (f.withDecls decls) ⊆
      c'.reportedSpans j' (f.withDecls decls') := by
    intro span hspan
    obtain ⟨o, ho, hcovers, hline, hspan⟩ := mem_reportedSpans_withDecls_iff.mp hspan
    refine mem_reportedSpans_withDecls_iff.mpr ⟨o, hextents ▸ ho, ?_, hline, hfound hspan⟩
    rwa [covers, ← hgenerated]
  have hsorted := pairwise_reportedSpans c j (f.withDecls decls)
  have hsorted' := pairwise_reportedSpans c' j' (f.withDecls decls')
  exact List.sublist_of_subperm_of_pairwise (List.subperm_of_subset hsorted.nodup hsubset)
    hsorted hsorted'

/-- If one run reports no more spans of a file than another and takes it for the same unknown file,
then it adds no more to the report. -/
theorem addition_sublist (f : SourceFile) (decls decls' : List Node)
    (hunknown : (f.withDecls decls).unknown = (f.withDecls decls').unknown)
    (hextents : j.program.extents = j'.program.extents)
    (hspans : (c.reportedSpans j (f.withDecls decls)).Sublist
      (c'.reportedSpans j' (f.withDecls decls'))) :
    (c.addition j (f.withDecls decls)).Sublist (c'.addition j' (f.withDecls decls')) := by
  rw [addition, addition, hunknown, hextents]
  simp only [SourceFile.open?, SourceFile.withDecls]
  cases j'.program.extents.find? (·.spans f.start) with
  | none => exact .refl _
  | some e => exact hspans.map _

/-- If each file is reported for no more spans by one run than by another, then the findings of the
one are among those of the other. -/
theorem filter_analyze_sublist {files : List SourceFile}
    (h : ∀ f ∈ files, (c.reportedSpans (p.judge c.closers) f).Sublist
      (c'.reportedSpans (p.judge c'.closers) f)) :
    ((c.analyze p files).filter Diagnostic.isFinding).Sublist
      ((c'.analyze p files).filter Diagnostic.isFinding) := by
  rw [filter_analyze, filter_analyze]
  exact (List.Sublist.flatMap_right files h).map _

end Config

namespace Sample

/-! Files `package p; func f() { ... }` with the statement `x := open()` and others like it, where
`open` yields a value of the closer interface of the standard library. -/

/-- The package of the file, and the package of the closer interface. -/
def program : Program where
  types := ⟨#[
    .literal (.interface { methods := [⟨⟨"Close", none⟩, ⟨[], [.error], false⟩, false⟩] }),
    .declared (.entry 0) []]⟩
  objects := #[⟨.var .inBlock, "x", some (.entry 1)⟩, ⟨.type, "Closer", some (.entry 1)⟩,
    ⟨.var .inBlock, "z", some (.entry 1)⟩]
  packages := #[⟨"p", [1], []⟩, ⟨"io", [], [1]⟩]
  main := 0
  extents := [⟨1, 63, [0, 10, 11, 22, 62]⟩]

/-- `open()`. -/
def opening : Node :=
  ⟨.rhs, .call, ⟨29, 35⟩, some (.entry 1), [⟨.callee, .ident "open" none none, ⟨29, 33⟩, none, []⟩]⟩

/-- `x := open()`. -/
def binding : Node :=
  ⟨.list, .assign .define, ⟨24, 35⟩, none,
    [⟨.lhs, .ident "x" (some 0) none, ⟨24, 25⟩, none, []⟩, opening]⟩

/-- `defer x.Close()`. -/
def releasing : Node :=
  ⟨.list, .deferStmt, ⟨37, 52⟩, none,
    [⟨.call, .call, ⟨43, 52⟩, none,
      [⟨.callee, .selector (some .method), ⟨43, 50⟩, none,
        [⟨.operand, .ident "x" none (some 0), ⟨43, 44⟩, none, []⟩,
          ⟨.selected, .ident "Close" none none, ⟨45, 50⟩, none, []⟩]⟩]⟩]⟩

/-- `func f()` with the given statements. -/
def function (statements : List Node) : Node :=
  ⟨.decl, .funcDecl none, ⟨12, 63⟩, none,
    [⟨.name, .ident "f" none none, ⟨17, 18⟩, none, []⟩,
      ⟨.type, .funcType, ⟨12, 20⟩, none, []⟩,
      ⟨.body, .block, ⟨21, 63⟩, none, statements⟩]⟩

def file (statements : List Node) : SourceFile :=
  ⟨1, 1, 9, "p", #[], none, [function statements]⟩

theorem analyze_binding :
    Config.default.analyze program [file [binding]] = [.unclosed ⟨24, 25⟩] := by
  decide +kernel

theorem analyze_releasing :
    Config.default.analyze program [file [binding, releasing]] = [] := by
  decide +kernel

end Sample

end Unclosed
