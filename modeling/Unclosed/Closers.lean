import Unclosed.Program
import Unclosed.Types.Implements

/-!
# Closers

The interfaces that make a type closable, and the methods that release a value.
-/

namespace Unclosed

structure Closers where
  types : TypeTable
  interfaces : List Interface

namespace Closers

/-- The interface that a closer name stands for.  An interface without methods is no closer. -/
def interface? (types : TypeTable) (m : Meaning) (name : String) : Option Interface :=
  match (m.wellKnownType? name).map types.underlying with
  | some (.interface i) => if (types.typeSet i).methods.isEmpty then none else some i
  | _ => none

/-- Looks the names up; those that stand for no closer are passed over. -/
def resolve (types : TypeTable) (m : Meaning) (names : List String) : Closers :=
  ⟨types, names.filterMap (interface? types m)⟩

variable (c : Closers)

def isResolved : Bool :=
  !c.interfaces.isEmpty

/-- Whether values of the type have to be closed. -/
def closable (t : Ty) : Bool :=
  c.types.isReference t && c.interfaces.any (c.types.implements t)

def closable? (t : Option Ty) : Bool :=
  t.any c.closable

def isRelease (name : String) : Bool :=
  c.interfaces.any fun i => (c.types.typeSet i).methods.any (·.name.text == name)

/-!
## Deferred releases

A variable is released in the scope that a statement binds it in when the list of statements of
that scope defers a release of it: a release call after the statement, or a function literal that
holds a release call, anywhere in the list.
-/

/-- Whether the call is a release method on the variable, parentheses aside. -/
def releases (call : Node) (v : ObjectId) : Bool :=
  match (call.child? .callee).map Node.unparen with
  | none => false
  | some callee =>
    callee.form.isSelector &&
      ((callee.child? .selected).bind Node.identName?).any c.isRelease &&
      ((callee.child? .operand).bind fun x => x.unparen.reference?) == some v

def isReleaseOf (v : ObjectId) (n : Node) : Bool :=
  n.form = .call && c.releases n v

def releasesInLiteral (call : Node) (v : ObjectId) : Bool :=
  match (call.child? .callee).map Node.unparen with
  | none => false
  | some callee =>
    callee.form = .funcLit &&
      (callee.child? .body).any fun body => body.preorder.any (c.isReleaseOf v)

/-- Whether a statement of the list defers a release of a variable bound at `stmt`. -/
def defersRelease (stmt : Node) (v : ObjectId) (d : Node) : Bool :=
  d.form = .deferStmt &&
    (d.child? .call).any fun call =>
      (d.span.start > stmt.span.stop && c.releases call v) || c.releasesInLiteral call v

/-- Whether the variable of the identifier is released in the scope that the site's statement binds
it in. -/
def isReleased (p : Program) (s : Site) (id : Node) : Bool :=
  match id.object? with
  | none => false
  | some v => p.isVariable v && s.statements.any (c.defersRelease s.node v)

end Closers

end Unclosed
