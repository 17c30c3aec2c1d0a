import Unclosed.Report
import Unclosed.Types.Basic

/-!
# Syntax trees

The files of a Go program as trees of nodes.  All nodes have one type: a node has a form, the span
it covers, the type the type checker gave it, and its children in source order.  Each node knows
the edge by which it hangs on its parent.  A site is a node together with its parent, which tells
the list of statements that a statement belongs to.  Comments stand beside the trees.
-/

namespace Unclosed

/-!
## Comments

Comments come in groups of neighbours.  A line comment can carry a directive that silences linters:
`//`, blanks, `nolint:` and a list of linter names.
-/

structure Comment where
  pos : Pos
  text : String
  deriving DecidableEq, Repr

/-- Comments with nothing between them; a group is never empty. -/
structure CommentGroup where
  first : Comment
  rest : List Comment
  deriving DecidableEq, Repr

namespace CommentGroup

def comments (g : CommentGroup) : List Comment :=
  g.first :: g.rest

def last (g : CommentGroup) : Comment :=
  g.rest.getLastD g.first

def pos (g : CommentGroup) : Pos :=
  g.first.pos

end CommentGroup

namespace Directive

/-- The blanks allowed between the comment marker and the directive. -/
def isGap (c : Char) : Bool :=
  c = ' ' || c = '\t' || c = '\n' || c = '\x0c' || c = '\r'

def isListChar (c : Char) : Bool :=
  c.isAlphanum || c = ',' || c = '_' || c = '-'

/-- What follows the given start of the text, if the text has that start. -/
def after? (start cs : List Char) : Option (List Char) :=
  if start.isPrefixOf cs then some (cs.drop start.length) else none

/-- The list of linter names of a directive: the longest run of list characters after the colon.
There is no directive without at least one such character. -/
def list? (cs : List Char) : Option (List Char) :=
  match after? ['/', '/'] cs with
  | none => none
  | some body =>
    match after? "nolint:".toList (body.dropWhile isGap) with
    | none => none
    | some tail =>
      match tail.takeWhile isListChar with
      | [] => none
      | run => some run

/-- Whether the entry of the list silences this linter: its name or `all`, in any letter case. -/
def names (entry : List Char) : Bool :=
  let lower := entry.map Char.toLower
  lower == linterName.toList || lower == "all".toList

end Directive

def Comment.silences (c : Comment) : Bool :=
  match Directive.list? c.text.toList with
  | none => false
  | some run => (Text.pieces ',' run).any Directive.names

/-! ## Nodes -/

/-- A declared entity, by its place in the program's list of objects. -/
abbrev ObjectId := Nat

inductive Edge where
  | receiver | name | names | typeParams | params | results | label | stmt | decl | lhs | rhs
  | call | callee | args | channel | key | value | init | operand | selected | index | indices
  | low | high | max | right | length | element | type | elements | fields | methods | tag
  | assign | cond | post | list | comm | body | elseBranch | specs | values | path
  deriving DecidableEq, Repr

/-- What a selector that is not a qualified identifier selects. -/
inductive Selection where
  | field
  | method
  | methodExpr
  deriving DecidableEq, Repr

/-- The operator of an assignment: `:=`, `=`, or one that also computes. -/
inductive AssignOp where
  | define
  | plain
  | compound
  deriving DecidableEq, Repr

inductive DeclKeyword where
  | var
  | const
  | type
  | imports
  deriving DecidableEq, Repr

inductive Form where
  /-- An identifier with the object it declares and the object it refers to. -/
  | ident (name : String) (declares refersTo : Option ObjectId)
  | basicLit | badExpr | ellipsis | funcLit | compositeLit | paren
  | selector (selection : Option Selection)
  | index | indexList | slice | typeAssert | call | star | unary | binary | keyValue
  | arrayType | structType | funcType | interfaceType | mapType | chanType
  | fieldList | field
  | declStmt
  | assign (op : AssignOp)
  | exprStmt | emptyStmt | badStmt | labeled | send | incDec | goStmt | deferStmt | returnStmt
  | branch | block | ifStmt | caseClause | switchStmt | typeSwitch | commClause | selectStmt
  | forStmt | rangeStmt
  | genDecl (keyword : DeclKeyword)
  /-- A function with the comments right before it. -/
  | funcDecl (doc : Option CommentGroup)
  | badDecl | importSpec | valueSpec | typeSpec
  deriving DecidableEq, Repr

def Form.isSelector : Form → Bool
  | .selector _ => true
  | _ => false

structure Node where
  edge : Edge
  form : Form
  span : Span
  type : Option Ty
  children : List Node

namespace Node

def under (n : Node) (e : Edge) : List Node :=
  n.children.filter (·.edge = e)

def child? (n : Node) (e : Edge) : Option Node :=
  n.children.find? (·.edge = e)

/-- The expression inside any number of parentheses. -/
def unparen : Node → Node
  | ⟨_, .paren, _, _, [inner]⟩ => inner.unparen
  | n => n
termination_by structural n => n

def identName? (n : Node) : Option String :=
  match n.form with
  | .ident name _ _ => some name
  | _ => none

def isIdent (n : Node) : Bool :=
  n.identName?.isSome

def isBlank (n : Node) : Bool :=
  n.identName? == some "_"

/-- The object that an identifier refers to without declaring it. -/
def reference? (n : Node) : Option ObjectId :=
  match n.form with
  | .ident _ _ refersTo => refersTo
  | _ => none

/-- The object of an identifier: the one it declares, or else the one it refers to. -/
def object? (n : Node) : Option ObjectId :=
  match n.form with
  | .ident _ (some declared) _ => some declared
  | .ident _ none refersTo => refersTo
  | _ => none

mutual

/-- The node and all nodes below it, parents before their children. -/
def preorder : Node → List Node
  | ⟨edge, form, span, type, children⟩ =>
    ⟨edge, form, span, type, children⟩ :: preorderAll children
termination_by structural n => n

def preorderAll : List Node → List Node
  | [] => []
  | n :: ns => n.preorder ++ preorderAll ns
termination_by structural ns => ns

end

end Node

/-! ## Sites -/

/-- A node and what it hangs on; the declarations of a file hang on no node. -/
structure Site where
  parent : Option Node
  node : Node

mutual

/-- The sites of a tree, parents before their children.  What is below a node that is not to be
entered is left out. -/
def Node.sites (enter : Node → Bool) (parent : Option Node) : Node → List Site
  | ⟨edge, form, span, type, children⟩ =>
    let n : Node := ⟨edge, form, span, type, children⟩
    ⟨parent, n⟩ :: if enter n then Node.sitesAll enter (some n) children else []
termination_by structural n => n

def Node.sitesAll (enter : Node → Bool) (parent : Option Node) : List Node → List Site
  | [] => []
  | n :: ns => n.sites enter parent ++ Node.sitesAll enter parent ns
termination_by structural ns => ns

end

/-- The list of statements in whose scope the site's statement binds variables: the list that holds
it, or the body that follows the communication of a select clause or the init of an if. -/
def Site.statements (s : Site) : List Node :=
  match s.parent with
  | none => []
  | some p =>
    match p.form, s.node.edge with
    | .block, .list => p.under .list
    | .caseClause, .body => p.under .body
    | .commClause, .body => p.under .body
    | .commClause, .comm => p.under .body
    | .ifStmt, .init => ((p.child? .body).map (·.under .list)).getD []
    | _, _ => []

end Unclosed
