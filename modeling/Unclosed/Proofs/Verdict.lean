import Unclosed.Analysis
import Unclosed.Proofs.Mask

/-!
# Facts about verdicts

Whatever a verdict finds is the same violation, at a statement that binds something.  A verdict is
the list of the targets that are reported, each at its place.  Nothing is found without a check that
is switched on, and nothing without a closer.
-/

namespace Unclosed

theorem Closers.closable?_eq_false_of_not_isResolved {c : Closers} (h : ¬c.isResolved)
    (t : Option Ty) : c.closable? t = false := by
  have hnone : c.interfaces = [] := by simpa [isResolved] using h
  cases t with
  | none => rfl
  | some t => simp [closable?, closable, hnone]

namespace Judge

variable {j : Judge} {checks : Checks} {s : Site} {found : Finding}

/-- Targets are reported as unclosed, wherever they are reported. -/
theorem eq_unclosed_of_mem_map {ts : List Target} {anchor : Target → Span}
    (h : found ∈ ts.map fun t => Finding.unclosed (anchor t)) : found = .unclosed found.span := by
  obtain ⟨t, -, rfl⟩ := List.mem_map.mp h
  rfl

/-- What a verdict can consist of, with the check that each kind of statement depends on. -/
theorem mem_verdict_iff :
    found ∈ j.verdict checks s ↔
      s.node.form = .declStmt ∧ checks.enabled Check.declarations ∧ found ∈ j.declaration s ∨
      s.node.form = .assign .define ∧ checks.enabled Check.declarations ∧
        found ∈ j.shortDeclaration s ∨
      s.node.form = .assign .plain ∧ checks.enabled Check.assignments ∧
        found ∈ j.assignment s := by
  rw [verdict]
  split <;> simp_all

theorem eq_unclosed_of_mem_verdict (h : found ∈ j.verdict checks s) :
    found = .unclosed found.span := by
  rcases mem_verdict_iff.mp h with ⟨-, -, h⟩ | ⟨-, -, h⟩ | ⟨-, -, h⟩
  all_goals exact eq_unclosed_of_mem_map h

theorem form_of_mem_verdict (h : found ∈ j.verdict checks s) :
    s.node.form = .declStmt ∨ ∃ op, s.node.form = .assign op := by
  rcases mem_verdict_iff.mp h with ⟨hform, -⟩ | ⟨hform, -⟩ | ⟨hform, -⟩
  · exact .inl hform
  · exact .inr ⟨_, hform⟩
  · exact .inr ⟨_, hform⟩

theorem verdict_eq_nil_of_isEmpty (h : checks.isEmpty) (s : Site) : j.verdict checks s = [] := by
  have hoff := Mask.isEmpty_iff_not_enabled.mp h
  rw [verdict]
  split <;> simp [hoff]

theorem receivesClosable_eq_false_of_not_isResolved (h : ¬j.closers.isResolved) (t : Target) :
    j.receivesClosable t = false :=
  Closers.closable?_eq_false_of_not_isResolved h _

theorem verdict_eq_nil_of_not_isResolved (h : ¬j.closers.isResolved) (checks : Checks) (s : Site) :
    j.verdict checks s = [] := by
  have hnone := receivesClosable_eq_false_of_not_isResolved h
  have hdeclared : ∀ t, j.leavesDeclared s t = false := by simp [leavesDeclared, hnone]
  have hassigned : ∀ t, j.leavesAssigned s t = false := by simp [leavesAssigned, hnone]
  rw [verdict]
  split <;> simp [declaration, shortDeclaration, assignment, hdeclared, hassigned]

/-! ## Targets that are reported -/

/-- Whether the target acquires a value that has to be closed, as far as the enabled checks cover
it.  Only identifiers are declared, and fields are their owner's concern. -/
def acquires (j : Judge) (checks : Checks) (s : Site) (t : Target) : Bool :=
  match s.node.form with
  | .declStmt => checks.enabled Check.declarations && j.receivesClosable t
  | .assign .define =>
    checks.enabled Check.declarations && t.node.isIdent && j.receivesClosable t
  | .assign .plain =>
    checks.enabled Check.assignments && j.receivesClosable t &&
      j.meaning.targetKind t.node != .field
  | _ => false

/-- Whether the target is a variable that is released, in parentheses if it is assigned. -/
def settles (j : Judge) (s : Site) (t : Target) : Bool :=
  match s.node.form with
  | .assign .plain => t.node.unparen.isIdent && j.isReleased s t.node.unparen
  | _ => j.isReleased s t.node

def reportable (j : Judge) (checks : Checks) (s : Site) : List Target :=
  (Target.ofStatement s.node).filter fun t => j.acquires checks s t && !j.settles s t

/-- Where a target is reported: an assigned one at its anchor, a declared one at itself. -/
def place (s : Site) (t : Target) : Span :=
  match s.node.form with
  | .assign .plain => anchor s t
  | _ => t.node.span

/-- A verdict reports the reportable targets in order, each at its place. -/
theorem verdict_eq_map (j : Judge) (checks : Checks) (s : Site) :
    j.verdict checks s = (j.reportable checks s).map fun t => .unclosed (place s t) := by
  unfold verdict reportable acquires settles place Target.ofStatement
  split <;> rename_i hform <;> simp only [hform]
  · cases checks.enabled Check.declarations with
    | false => simp
    | true => rfl
  · cases checks.enabled Check.declarations with
    | false => simp
    | true => simp [shortDeclaration, leavesDeclared, Bool.and_assoc]
  · cases checks.enabled Check.assignments with
    | false => simp
    | true => rfl
  · simp

/-- Targets are reported that acquire a value and are not released. -/
theorem mem_reportable_iff {t : Target} :
    t ∈ j.reportable checks s ↔
      t ∈ Target.ofStatement s.node ∧ j.acquires checks s t ∧ ¬j.settles s t := by
  simp [reportable]

/-- A span is found by a verdict when it is the place of a reportable target. -/
theorem exists_mem_verdict_iff {span : Span} :
    (∃ x ∈ j.verdict checks s, x.span = span) ↔
      ∃ t ∈ j.reportable checks s, place s t = span := by
  simp only [verdict_eq_map, List.mem_map]
  constructor
  · rintro ⟨_, ⟨t, ht, rfl⟩, hspan⟩
    exact ⟨t, ht, hspan⟩
  · rintro ⟨t, ht, hspan⟩
    exact ⟨_, ⟨t, ht, rfl⟩, hspan⟩

end Judge

end Unclosed
