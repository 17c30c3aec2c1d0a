import Unclosed.Text.Characters

/-!
# Types

Types are kept in a table, since declared types may refer to themselves.  A reference to a type is
either one of the types that every program knows, taken by value, or an entry of the table.  Two
references are the same type exactly when they are equal.
-/

namespace Unclosed

inductive Ty where
  /-- A basic type, known by its name. -/
  | basic (name : String)
  /-- The predeclared interface `error`, a declared type. -/
  | error
  /-- The predeclared synonym of the empty interface. -/
  | any
  /-- The predeclared constraint `comparable`, a declared type. -/
  | comparable
  | entry (index : Nat)
  deriving DecidableEq, Repr, Inhabited

/-- The type of whatever could not be typed. -/
def Ty.invalid : Ty := .basic "invalid type"

/-- The name of a field or method, and the path of the package that declares it. -/
structure MemberName where
  text : String
  path : Option String
  deriving DecidableEq, Repr

/-- Capitalized names are visible everywhere and are the same whatever package declares them; other
names are the same only within one package. -/
def MemberName.same (a b : MemberName) : Bool :=
  a.text == b.text && (Text.isCapitalized a.text || a.path == b.path)

/-- Whether members can be selected by the name; the blank name selects none. -/
def MemberName.selects (wanted name : MemberName) : Bool :=
  wanted.text != "_" && wanted.same name

def MemberName.home (n : MemberName) : String := n.path.getD ""

/-- The text that tells the methods of an interface apart: a capitalized name itself, any other
name together with its path, for which a blank stands where it is empty. -/
def MemberName.key (n : MemberName) : String :=
  if Text.isCapitalized n.text then n.text
  else (if n.home = "" then "_" else n.home) ++ "." ++ n.text

/-- The order of the methods of an interface: capitalized names first, then by the name, and other
than capitalized ones at last by the path. -/
def MemberName.precedes (a b : MemberName) : Bool :=
  if Text.isCapitalized a.text != Text.isCapitalized b.text then Text.isCapitalized a.text
  else a.text < b.text ||
    (a.text == b.text && !Text.isCapitalized a.text && decide (a.home < b.home))

/-- Parameters and results of a function; the last parameter of a variadic one is a slice. -/
structure Signature where
  params : List Ty
  results : List Ty
  variadic : Bool
  deriving DecidableEq, Repr

/-- A method; `onPointer` marks a method of a declared type that only pointers to it have. -/
structure Method where
  name : MemberName
  signature : Signature
  onPointer : Bool := false
  deriving DecidableEq, Repr

/-- A field of a struct; the members of an embedded field are promoted. -/
structure Field where
  name : MemberName
  type : Ty
  embedded : Bool
  deriving DecidableEq, Repr

/-- A term of a union: the type alone, or with the tilde all types with that underlying type. -/
structure Term where
  type : Ty
  tilde : Bool
  deriving DecidableEq, Repr

/-- The explicit methods and the embedded elements of an interface, and whether it asks for
comparable types by itself. -/
structure Interface where
  methods : List Method := []
  embedded : List Ty := []
  comparable : Bool := false
  deriving DecidableEq, Repr

inductive Direction where
  | both
  | send
  | receive
  deriving DecidableEq, Repr

/-- What a type is made of, its name aside. -/
inductive Shape where
  | basic (name : String)
  | pointer (element : Ty)
  | slice (element : Ty)
  /-- A negative length is an unknown one. -/
  | array (length : Int) (element : Ty)
  | channel (direction : Direction) (element : Ty)
  | map (key element : Ty)
  | tuple (components : List Ty)
  | function (signature : Signature)
  | struct (fields : List Field)
  | interface (interface : Interface)
  | union (terms : List Term)
  deriving DecidableEq, Repr

def Shape.invalid : Shape := .basic "invalid type"

inductive TypeEntry where
  /-- A declared type with the type it is declared by, and its methods. -/
  | declared (base : Ty) (methods : List Method)
  /-- Another name for a type. -/
  | synonym (target : Ty)
  /-- A type parameter with its constraint. -/
  | parameter (constraint : Ty)
  /-- A type without a name. -/
  | literal (shape : Shape)
  deriving DecidableEq, Repr

structure TypeTable where
  entries : Array TypeEntry
  deriving Repr

/-- A type once synonyms are looked through: declared types and type parameters stand for
themselves, all other types for their shape. -/
inductive TypeView where
  | nominal (type : Ty)
  | structural (shape : Shape)
  deriving DecidableEq, Repr

def Interface.error : Interface where
  methods := [⟨⟨"Error", none⟩, ⟨[], [.basic "string"], false⟩, false⟩]

namespace TypeTable

variable (types : TypeTable)

/-- The entry with the given index; what is not in the table is invalid. -/
def entry (index : Nat) : TypeEntry :=
  types.entries[index]?.getD (.literal .invalid)

/-- No chain of names is longer than this without running in a circle. -/
def depth : Nat := types.entries.size + 1

def viewWithin : (fuel : Nat) → Ty → TypeView
  | _, .basic name => .structural (.basic name)
  | _, .error => .nominal .error
  | _, .any => .structural (.interface {})
  | _, .comparable => .nominal .comparable
  | fuel, .entry index =>
    match types.entry index with
    | .declared .. => .nominal (.entry index)
    | .parameter _ => .nominal (.entry index)
    | .literal shape => .structural shape
    | .synonym target =>
      match fuel with
      | 0 => .structural .invalid
      | fuel + 1 => viewWithin fuel target

def view (t : Ty) : TypeView :=
  types.viewWithin types.depth t

def isParameter (t : Ty) : Bool :=
  match types.view t with
  | .nominal (.entry index) =>
    match types.entry index with
    | .parameter _ => true
    | _ => false
  | _ => false

def underlyingWithin : (fuel : Nat) → Ty → Shape
  | _, .basic name => .basic name
  | _, .error => .interface .error
  | _, .any => .interface {}
  | _, .comparable => .interface { comparable := true }
  | fuel, .entry index =>
    match types.entry index, fuel with
    | .literal shape, _ => shape
    | .declared base _, fuel + 1 => underlyingWithin fuel base
    | .synonym target, fuel + 1 => underlyingWithin fuel target
    | .parameter constraint, fuel + 1 =>
      match underlyingWithin fuel constraint with
      | .interface i => .interface (if types.isParameter constraint then {} else i)
      | shape => .interface (if shape = .invalid then {} else { embedded := [constraint] })
    | _, 0 => .invalid

/-- The shape under all names.  That of a type parameter is its constraint, always an interface: a
constraint that is no interface stands for the interface that embeds it alone, and one that is a
type parameter itself does not constrain at all. -/
def underlying (t : Ty) : Shape :=
  types.underlyingWithin types.depth t

/-- The components, if the type is a tuple without a name. -/
def components? : Ty → Option (List Ty)
  | .entry index =>
    match types.entry index with
    | .literal (.tuple components) => some components
    | _ => none
  | _ => none

end TypeTable

end Unclosed
