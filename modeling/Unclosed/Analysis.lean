import Unclosed.Closers
import Unclosed.Config

/-!
# The analysis of a package

The variables that a statement binds, the share of the right-hand side that each of them receives,
which of them are left unclosed, and the report on all files of a package.
-/

namespace Unclosed

/-! ## Targets -/

/-- What one of `count` targets receives of the values on the right-hand side. -/
structure Share (α : Type) where
  values : List α
  index : Nat
  count : Nat
  deriving DecidableEq, Repr

namespace Share

variable {α : Type}

/-- Whether the targets share the components of a single value. -/
def isComponent (s : Share α) : Bool :=
  s.values.length == 1 && s.count > 1

/-- The value that the target receives as a whole.  There is none if the sides do not match. -/
def value? (s : Share α) : Option α :=
  if s.values.length = s.count then s.values[s.index]? else none

end Share

structure Target where
  node : Node
  share : Share Node

namespace Target

/-- Targets and values side by side; blank targets receive nothing but are counted. -/
def pair (targets values : List Node) : List Target :=
  (targets.zipIdx.filter fun t => !t.1.isBlank).map fun t => ⟨t.1, ⟨values, t.2, targets.length⟩⟩

def assigned (stmt : Node) : List Target :=
  pair (stmt.under .lhs) (stmt.under .rhs)

def ofSpec (spec : Node) : List Target :=
  if spec.form = .valueSpec && !(spec.under .values).isEmpty then
    pair (spec.under .names) (spec.under .values)
  else []

/-- The variables that a declaration statement gives values to. -/
def declared (stmt : Node) : List Target :=
  match stmt.child? .decl with
  | none => []
  | some d => if d.form = .genDecl .var then (d.under .specs).flatMap ofSpec else []

def ofStatement (stmt : Node) : List Target :=
  match stmt.form with
  | .declStmt => declared stmt
  | .assign _ => assigned stmt
  | _ => []

end Target

/-! ## Verdicts -/

structure Judge where
  program : Program
  meaning : Meaning
  closers : Closers

def Program.judge (p : Program) (names : List String) : Judge :=
  ⟨p, p.meaning, Closers.resolve p.types p.meaning names⟩

namespace Judge

variable (j : Judge)

def receivedType? (s : Share Node) : Option Ty :=
  if s.isComponent then
    ((s.values.head?.bind j.meaning.staticType?).bind j.program.types.components?).bind
      (·[s.index]?)
  else s.value?.bind j.meaning.staticType?

def receivesClosable (t : Target) : Bool :=
  j.closers.closable? (j.receivedType? t.share)

def isReleased (s : Site) (id : Node) : Bool :=
  j.closers.isReleased j.program s id

/-- Declared variables are left unclosed unless they are released. -/
def leavesDeclared (s : Site) (t : Target) : Bool :=
  j.receivesClosable t && !j.isReleased s t.node

/-- Assigned targets are left unclosed unless they are fields, which are their owner's concern, or
variables that are released. -/
def leavesAssigned (s : Site) (t : Target) : Bool :=
  j.receivesClosable t && j.meaning.targetKind t.node != .field &&
    !(t.node.unparen.isIdent && j.isReleased s t.node.unparen)

/-- Where an assigned target is reported: one of several at itself, a single one at its
statement. -/
def anchor (s : Site) (t : Target) : Span :=
  if t.share.count > 1 then t.node.span else s.node.span

def declaration (s : Site) : List Finding :=
  ((Target.declared s.node).filter (j.leavesDeclared s)).map fun t => .unclosed t.node.span

def shortDeclaration (s : Site) : List Finding :=
  ((Target.assigned s.node).filter fun t => t.node.isIdent && j.leavesDeclared s t).map
    fun t => .unclosed t.node.span

def assignment (s : Site) : List Finding :=
  ((Target.assigned s.node).filter (j.leavesAssigned s)).map fun t => .unclosed (anchor s t)

def verdict (checks : Checks) (s : Site) : List Finding :=
  match s.node.form with
  | .declStmt => if checks.enabled Check.declarations then j.declaration s else []
  | .assign .define => if checks.enabled Check.declarations then j.shortDeclaration s else []
  | .assign .plain => if checks.enabled Check.assignments then j.assignment s else []
  | _ => []

end Judge

/-!
## Files

Files are taken up one after the other.  Generated files and files or functions that silence the
linter are passed over.  The findings of a file are reported when all of it has been looked at.
-/

/-- Whether the nodes below are looked at.  Functions without a body, and functions whose comment
ends in a directive that silences the linter, are passed over. -/
def Node.isEntered (n : Node) : Bool :=
  match n.form with
  | .funcDecl doc => (n.child? .body).isSome && !doc.any fun g => g.last.silences
  | _ => true

def SourceFile.sites (f : SourceFile) : List Site :=
  Node.sitesAll Node.isEntered none f.decls

/-- How far the analysis has come: the findings that wait, and what has been reported. -/
structure Progress where
  backlog : Backlog := .empty
  reported : List Diagnostic := []

/-- The diagnostic of a file that none of the extents holds. -/
def SourceFile.unknown (f : SourceFile) : Diagnostic :=
  .internalError f.span "File %s without valid info" [.text f.name]

namespace Config

variable (c : Config) (j : Judge)

def collect (f : SourceFile) (b : Backlog) : Backlog :=
  f.sites.foldl (fun b s => b.add (j.verdict c.checks s)) b

def takeUp (st : Progress) (f : SourceFile) : Progress :=
  match f.open? j.program.extents with
  | none => { st with reported := st.reported ++ [f.unknown] }
  | some o =>
    if o.isGenerated && !c.generated then st
    else if o.isSilenced then st
    else
      let (diagnostics, backlog) := (c.collect j f st.backlog).flush o.silencesLine
      ⟨backlog, st.reported ++ diagnostics⟩

def analyzeFiles (files : List SourceFile) : List Diagnostic :=
  (files.foldl (c.takeUp j) {}).reported

/-- The diagnostics of a package.  Nothing is looked at if no check is switched on or no closer is
known to the package. -/
def analyze (p : Program) (files : List SourceFile) : List Diagnostic :=
  if c.checks.isEmpty then []
  else
    let j := p.judge c.closers
    if j.closers.isResolved then c.analyzeFiles j files else []

end Config

inductive RunError where
  /-- The trees of the files were not provided. -/
  | treesMissing
  deriving DecidableEq, Repr

def RunError.message : RunError → String
  | .treesMissing => linterName ++ ": inspect analyzer result missing"

def Config.run (c : Config) (p : Program) (files : Option (List SourceFile)) :
    Except RunError (List Diagnostic) :=
  match files with
  | none => .error .treesMissing
  | some files => .ok (c.analyze p files)

end Unclosed
