import Unclosed.SourceFile

/-!
# Programs

What is known about the checked package besides its trees: types, objects, packages, and the
extents of its files.
-/

namespace Unclosed

/-!
## Packages and their imports

The packages that a package depends on are finished in an order: after all that they import
themselves.  Circles are cut where a package is met a second time.
-/

abbrev PackageId := Nat

structure Package where
  path : String
  imports : List PackageId
  scope : List ObjectId
  deriving DecidableEq, Repr

/-- How far the walk over the import graph has come: the packages met, and those that are finished
in the order in which they were. -/
structure ImportWalk where
  met : List PackageId := []
  finished : List PackageId := []
  deriving DecidableEq, Repr

namespace ImportWalk

/-- Walks through the packages in order, each with its imports unless it was met before, no deeper
than `fuel`. -/
def walk (imports : PackageId → List PackageId) :
    (fuel : Nat) → ImportWalk → List PackageId → ImportWalk
  | 0, w, _ => w
  | fuel + 1, w, ids =>
    ids.foldl (fun w id =>
      if id ∈ w.met then w
      else
        let below := walk imports fuel { w with met := id :: w.met } (imports id)
        { below with finished := below.finished ++ [id] }) w

end ImportWalk

def importsOf (packages : Array Package) (id : PackageId) : List PackageId :=
  (packages[id]?).elim [] (·.imports)

/-- The package and all it depends on, imported packages before those that import them. -/
def dependencies (packages : Array Package) (id : PackageId) : List PackageId :=
  (ImportWalk.walk (importsOf packages) (packages.size + 1) {} [id]).finished

/-! ## Objects -/

inductive VariableKind where
  | inBlock
  | parameter
  | receiver
  | result
  | field
  | inPackage
  deriving DecidableEq, Repr

inductive ObjectKind where
  | var (kind : VariableKind)
  | type
  | function
  | constant
  | label
  | packageName
  | null
  | builtin
  deriving DecidableEq, Repr

structure Object where
  kind : ObjectKind
  name : String
  type : Option Ty
  deriving DecidableEq, Repr

/-- The type that an identifier gets from the object it stands for.  The null value has a type of
its own; labels, package names and builtins have none. -/
def Object.valueType? (o : Object) : Option Ty :=
  match o.kind with
  | .label | .packageName | .builtin => none
  | .null => some (.basic "untyped nil")
  | _ => o.type

structure Program where
  types : TypeTable
  objects : Array Object
  packages : Array Package
  main : PackageId
  extents : List Extent

namespace Program

variable (p : Program)

def variableKind? (id : ObjectId) : Option VariableKind :=
  match p.objects[id]? with
  | some ⟨.var kind, _, _⟩ => some kind
  | _ => none

def isVariable (id : ObjectId) : Bool :=
  (p.variableKind? id).isSome

def inScope? (pkg : Package) (name : String) : Option Object :=
  (pkg.scope.filterMap (p.objects[·]?)).find? (·.name = name)

def namedType? : Object → Option Ty
  | ⟨.type, _, type⟩ => type
  | _ => none

/-- The first package with the path among those that the checked package depends on. -/
def packageAt? (path : String) : Option Package :=
  ((dependencies p.packages p.main).filterMap (p.packages[·]?)).find? (·.path = path)

/-- The type of a qualified name.  Only the first package with the path is looked into. -/
def wellKnownType? (name : String) : Option Ty :=
  match QualifiedName.parse? name with
  | none => none
  | some q => ((p.packageAt? q.path).bind fun pkg => p.inScope? pkg q.name).bind namedType?

/-- The type of an expression: the one the type checker gave it or, for an identifier, that of its
object.  There is none if the expression could not be typed. -/
def staticType? (n : Node) : Option Ty :=
  let type :=
    match n.type with
    | some t => some t
    | none => (n.object?.bind (p.objects[·]?)).bind Object.valueType?
  type.filter (· ≠ .invalid)

end Program

/-!
## Meanings

What the linter asks about expressions and names.  The answers usually come from a program; each of
them can also be withheld.
-/

inductive TargetKind where
  /-- No variable, a variable of the package, or nothing known. -/
  | other
  | field
  | inBlock
  /-- A parameter, a result or a receiver. -/
  | parameter
  deriving DecidableEq, Repr

namespace TargetKind

def text : TargetKind → String
  | .other => "other"
  | .field => "field"
  | .inBlock => "local"
  | .parameter => "parameter"

def all : List TargetKind := [.other, .field, .inBlock, .parameter]

/-- The text for a code; codes without a kind are shown as numbers. -/
def textOfCode (code : Nat) : String :=
  match all[code]? with
  | some kind => kind.text
  | none => Text.fill "SymbolKind(%d)" [.number code]

def ofVariable : VariableKind → TargetKind
  | .field => .field
  | .inBlock => .inBlock
  | .parameter | .receiver | .result => .parameter
  | .inPackage => .other

end TargetKind

/-- The answers to what is asked about expressions, assignment targets and type names. -/
structure Meaning where
  staticType? : Node → Option Ty
  targetKind : Node → TargetKind
  wellKnownType? : String → Option Ty

namespace Program

variable (p : Program)

def objectKind (id : Option ObjectId) : TargetKind :=
  ((id.bind p.variableKind?).map TargetKind.ofVariable).getD .other

/-- What a target stands for, parentheses aside: the object of an identifier, the field of a
selector, or the object of a qualified identifier. -/
def targetKind (n : Node) : TargetKind :=
  match n.unparen.form with
  | .ident .. => p.objectKind n.unparen.object?
  | .selector (some .field) => .field
  | .selector (some _) => .other
  | .selector none => p.objectKind ((n.unparen.child? .selected).bind (·.reference?))
  | _ => .other

def meaning : Meaning where
  staticType? := p.staticType?
  targetKind := p.targetKind
  wellKnownType? := p.wellKnownType?

end Program

namespace Meaning

def withoutNames (m : Meaning) : Meaning :=
  { m with wellKnownType? := fun _ => none }

def withoutTargets (m : Meaning) : Meaning :=
  { m with targetKind := fun _ => .other }

def withoutExpressions (m : Meaning) : Meaning :=
  { m with staticType? := fun _ => none, targetKind := fun _ => .other }

end Meaning

end Unclosed
