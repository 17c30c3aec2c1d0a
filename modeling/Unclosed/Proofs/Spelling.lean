import Unclosed.Proofs.Parentheses

/-!
# Spellings of a declaration

Variables are declared by `var x, y = a, b` or by `x, y := a, b`, and several parts of a `var`
statement can be written as statements of their own.  What is found depends on the names and on what
they receive, not on the spelling.
-/

namespace Unclosed

/-! ## Declarations by their names and values -/

structure Identifier where
  name : String
  declares : Option ObjectId
  refersTo : Option ObjectId
  span : Span
  type : Option Ty

def Identifier.node (x : Identifier) : Node :=
  ⟨.name, .ident x.name x.declares x.refersTo, x.span, x.type, []⟩

def Node.hang (e : Edge) (ns : List Node) : List Node :=
  ns.map (·.onEdge e)

/-- The part `names type = values` of a declaration. -/
def Node.valueSpec (span : Span) (names : List Identifier) (type : Option Node)
    (values : List Node) : Node :=
  ⟨.specs, .valueSpec, span, none,
    hang .names (names.map Identifier.node) ++ hang .type type.toList ++ hang .values values⟩

/-- A place for a statement: what the statement hangs on, and the stretch of source it takes up. -/
structure Spot where
  parent : Option Gap
  edge : Edge
  span : Span

namespace Spot

def site (p : Spot) (form : Form) (children : List Node) : Site :=
  .inGap p.parent ⟨p.edge, form, p.span, none, children⟩

def varStmt (p : Spot) (span : Span) (specs : List Node) : Site :=
  p.site .declStmt [⟨.decl, .genDecl .var, span, none, Node.hang .specs specs⟩]

/-- `names := values`. -/
def define (p : Spot) (names : List Identifier) (values : List Node) : Site :=
  p.site (.assign .define) (Node.hang .lhs (names.map Identifier.node) ++ Node.hang .rhs values)

/-- The place with nothing in it. -/
def bare (p : Spot) : Site :=
  p.site .emptyStmt []

end Spot

/-- Expressions have their types wherever they stand. -/
def Meaning.IgnoresEdges (m : Meaning) : Prop :=
  ∀ n e, m.staticType? (n.onEdge e) = m.staticType? n

/-- The types that a program gives to expressions do not depend on the place. -/
theorem Program.ignoresEdges_meaning (p : Program) : p.meaning.IgnoresEdges :=
  fun _ _ => rfl

/-- Nodes on an edge are found there and nowhere else. -/
theorem Node.filter_hang (e e' : Edge) (ns : List Node) :
    (hang e ns).filter (·.edge = e') = if e = e' then hang e ns else [] := by
  by_cases h : e = e'
  · simp [h, hang, onEdge, List.filter_eq_self]
  · simp [h, hang, onEdge, List.filter_eq_nil_iff]

namespace Target

theorem ofSpec_valueSpec (span : Span) (names : List Identifier) (type : Option Node)
    (values : List Node) :
    ofSpec (.valueSpec span names type values) =
      if values = [] then []
      else pair (Node.hang .names (names.map Identifier.node)) (Node.hang .values values) := by
  have hnames : (Node.valueSpec span names type values).under .names =
      Node.hang .names (names.map Identifier.node) := by
    simp [Node.under, Node.valueSpec, Node.filter_hang]
  have hvalues : (Node.valueSpec span names type values).under .values =
      Node.hang .values values := by
    simp [Node.under, Node.valueSpec, Node.filter_hang]
  rw [ofSpec, hnames, hvalues]
  cases values with
  | nil => simp [Node.hang]
  | cons v values => simp [Node.hang, Node.valueSpec]

theorem declared_varStmt (p : Spot) (span : Span) (specs : List Node) :
    declared (p.varStmt span specs).node = specs.flatMap ofSpec := by
  have hspecs : (⟨.decl, .genDecl .var, span, none, Node.hang .specs specs⟩ : Node).under .specs =
      Node.hang .specs specs := by
    simp [Node.under, Node.filter_hang]
  have hdecl : (p.varStmt span specs).node.child? .decl =
      some ⟨.decl, .genDecl .var, span, none, Node.hang .specs specs⟩ := rfl
  rw [declared, hdecl]
  simp only [if_true, hspecs]
  rw [Node.hang, List.flatMap_map]
  -- A part is read by its form and its children, not by its edge.
  rfl

theorem assigned_define (p : Spot) (names : List Identifier) (values : List Node) :
    assigned (p.define names values).node =
      pair (Node.hang .lhs (names.map Identifier.node)) (Node.hang .rhs values) := by
  simp [assigned, Node.under, Spot.define, Spot.site, Site.inGap, Node.filter_hang]

end Target

namespace Judge

variable {j : Judge} {names : List Identifier} {values : List Node}

/-- What is found of names that are declared with values in the scope of a site. -/
def reports (j : Judge) (s : Site) (names : List Identifier) (values : List Node) : List Finding :=
  (names.zipIdx.filter fun x =>
    x.1.name != "_" && j.leavesDeclared s ⟨x.1.node, ⟨values, x.2, names.length⟩⟩).map
      fun x => .unclosed x.1.span

/-- What a target receives does not depend on the edge of the values. -/
theorem receivedType?_hang (h : j.meaning.IgnoresEdges) (e : Edge) (values : List Node)
    (i count : Nat) :
    j.receivedType? ⟨Node.hang e values, i, count⟩ = j.receivedType? ⟨values, i, count⟩ := by
  have hbind : ∀ v : Option Node, (v.map (·.onEdge e)).bind j.meaning.staticType? =
      v.bind j.meaning.staticType? := by
    intro v
    cases v with
    | none => rfl
    | some v => exact h v e
  have hvalue : (Share.mk (Node.hang e values) i count).value? =
      (Share.mk values i count).value?.map (·.onEdge e) := by
    simp only [Share.value?, Node.hang, List.length_map, List.getElem?_map]
    split <;> rfl
  rw [receivedType?, receivedType?, hvalue, hbind]
  simp only [Share.isComponent, Node.hang, List.length_map, List.head?_map, hbind]

/-- What is found of names and values does not depend on the edges that they hang on. -/
theorem map_filter_pair_hang (h : j.meaning.IgnoresEdges) (s : Site) (e e' : Edge)
    (names : List Identifier) (values : List Node) :
    ((Target.pair (Node.hang e (names.map Identifier.node)) (Node.hang e' values)).filter
      (j.leavesDeclared s)).map (fun t => .unclosed t.node.span) = j.reports s names values := by
  have hleaves : ∀ x : Identifier × Nat,
      (j.leavesDeclared s ⟨x.1.node.onEdge e, ⟨Node.hang e' values, x.2, names.length⟩⟩ &&
        !(x.1.node.onEdge e).isBlank) =
      (x.1.name != "_" && j.leavesDeclared s ⟨x.1.node, ⟨values, x.2, names.length⟩⟩) := by
    intro x
    rw [leavesDeclared, leavesDeclared, receivesClosable, receivesClosable,
      receivedType?_hang h, Bool.and_comm]
    rfl
  rw [Target.pair, reports]
  simp only [Node.hang, List.map_map, List.zipIdx_map, List.filter_map, List.filter_filter,
    List.length_map, Function.comp_def]
  simp only [Node.hang] at hleaves
  simp only [Prod.map, id, hleaves]
  rfl

/-- Of a declaration only the place matters for whether its variables are released. -/
theorem leavesDeclared_site (p : Spot) {form : Form} (hform : form ≠ .deferStmt)
    (children : List Node) (t : Target) :
    j.leavesDeclared (p.site form children) t = j.leavesDeclared p.bare t := by
  have hreleased : j.isReleased (p.site form children) t.node = j.isReleased p.bare t.node := by
    apply isReleased_inGap
    · rfl
    · rfl
    · exact hform
    · simp
  rw [leavesDeclared, leavesDeclared, hreleased]

/-- What is found of a `var` statement is what is found of its parts. -/
theorem declaration_varStmt (p : Spot) (span : Span) (specs : List Node) :
    j.declaration (p.varStmt span specs) = specs.flatMap fun spec =>
      ((Target.ofSpec spec).filter (j.leavesDeclared p.bare)).map
        fun t => .unclosed t.node.span := by
  have hleaves : j.leavesDeclared (p.varStmt span specs) = j.leavesDeclared p.bare :=
    funext (leavesDeclared_site p (by simp) _)
  rw [declaration, Target.declared_varStmt, hleaves, List.filter_flatMap, List.map_flatMap]

/-- Nothing is received where there are no values. -/
theorem reports_nil (s : Site) (names : List Identifier) : j.reports s names [] = [] := by
  have hnone : ∀ i count, j.receivedType? ⟨[], i, count⟩ = none := by
    intro i count
    simp [receivedType?, Share.isComponent, Share.value?]
  simp [reports, leavesDeclared, receivesClosable, hnone, Closers.closable?]

/-- What is found of a part of a declaration is what is found of its names and values. -/
theorem declaration_valueSpec (h : j.meaning.IgnoresEdges) (p : Spot) (span specSpan : Span)
    (names : List Identifier) (type : Option Node) (values : List Node) :
    j.declaration (p.varStmt span [.valueSpec specSpan names type values]) =
      j.reports p.bare names values := by
  rw [declaration_varStmt, List.flatMap_singleton, Target.ofSpec_valueSpec]
  by_cases hvalues : values = []
  · rw [if_pos hvalues, hvalues, reports_nil]
    rfl
  · rw [if_neg hvalues, map_filter_pair_hang h]

/-- What is found of a short declaration is what is found of its names and values. -/
theorem shortDeclaration_define (h : j.meaning.IgnoresEdges) (p : Spot) (names : List Identifier)
    (values : List Node) :
    j.shortDeclaration (p.define names values) = j.reports p.bare names values := by
  have hleaves : j.leavesDeclared (p.define names values) = j.leavesDeclared p.bare :=
    funext (leavesDeclared_site p (by simp) _)
  rw [← map_filter_pair_hang h p.bare .lhs .rhs, shortDeclaration, Target.assigned_define, hleaves]
  congr 1
  apply List.filter_congr
  intro t ht
  have hident : t.node.isIdent := by
    obtain ⟨x, hx, rfl⟩ := List.mem_map.mp ht
    have hnode := List.fst_mem_of_mem_zipIdx (List.mem_filter.mp hx).1
    simp only [Node.hang, List.mem_map] at hnode
    obtain ⟨_, ⟨name, -, rfl⟩, hname⟩ := hnode
    rw [← hname]
    rfl
  rw [hident, Bool.true_and]

/-! ## Names and values one by one -/

/-- With a value for each target, a target receives the value at its place. -/
theorem receivedType?_of_length_eq {count : Nat} (h : values.length = count) (i : Nat) :
    j.receivedType? ⟨values, i, count⟩ = values[i]?.bind j.meaning.staticType? := by
  have hcomponent : (Share.mk values i count).isComponent = false := by
    simp only [Share.isComponent, Bool.and_eq_false_iff, beq_eq_false_iff_ne, decide_eq_false_iff_not]
    omega
  simp [receivedType?, hcomponent, Share.value?, h]

/-- With a value for each name, what is found of a name is told by its own value. -/
theorem reports_eq_map_filter_zip (s : Site) (h : names.length = values.length) :
    j.reports s names values =
      ((names.zip values).filter fun x =>
        x.1.name != "_" && (j.closers.closable? (j.meaning.staticType? x.2) &&
          !j.isReleased s x.1.node)).map fun x => .unclosed x.1.span := by
  have hzip : names.zipIdx.map (fun x => (x.1, values[x.2]?)) =
      (names.zip values).map fun x => (x.1, some x.2) := by
    apply List.ext_getElem
    · simp [h]
    · intro i hi hi'
      simp
  have hreports : j.reports s names values =
      ((names.zipIdx.map fun x => (x.1, values[x.2]?)).filter fun x =>
        x.1.name != "_" && (j.closers.closable? (x.2.bind j.meaning.staticType?) &&
          !j.isReleased s x.1.node)).map fun x => .unclosed x.1.span := by
    simp only [reports, leavesDeclared, receivesClosable, receivedType?_of_length_eq h.symm,
      List.filter_map, List.map_map, Function.comp_def]
  rw [hreports, hzip, List.filter_map, List.map_map]
  rfl

/-- With a value for each name, each name can be declared on its own. -/
theorem reports_eq_flatMap (s : Site) (h : names.length = values.length) :
    j.reports s names values = (names.zip values).flatMap fun x => j.reports s [x.1] [x.2] := by
  have hsingle : ∀ x : Identifier × Node, [x.1].length = [x.2].length := fun _ => rfl
  simp only [reports_eq_map_filter_zip s h, reports_eq_map_filter_zip s (hsingle _)]
  rw [← List.flatMap_singleton' (names.zip values), List.filter_flatMap, List.map_flatMap,
    List.flatMap_singleton']
  rfl

/-- **The spelling of a declaration does not matter.**  In any place, `var names = values` and
`names := values` lead to the same findings, whatever the numbers of names and values are.  A `var`
statement with several parts leads to the findings of its parts, each taken as a statement in the same
place, one after the other.  With as many names as values, either declaration leads to the findings of
the declarations of each name with its value. -/
theorem declaration_spellings (j : Judge) (h : j.meaning.IgnoresEdges) (p : Spot) :
    (∀ span specSpan names type values,
      j.declaration (p.varStmt span [.valueSpec specSpan names type values]) =
        j.shortDeclaration (p.define names values)) ∧
    (∀ span span' specs, j.declaration (p.varStmt span specs) =
      specs.flatMap fun spec => j.declaration (p.varStmt span' [spec])) ∧
    ∀ names values, names.length = values.length →
      (∀ span specSpan type,
        j.declaration (p.varStmt span [.valueSpec specSpan names type values]) =
          (names.zip values).flatMap fun x =>
            j.declaration (p.varStmt span [.valueSpec specSpan [x.1] type [x.2]])) ∧
      j.shortDeclaration (p.define names values) =
        (names.zip values).flatMap fun x => j.shortDeclaration (p.define [x.1] [x.2]) := by
  refine ⟨?_, ?_, ?_⟩
  · intro span specSpan names type values
    rw [declaration_valueSpec h, shortDeclaration_define h]
  · intro span span' specs
    simp only [declaration_varStmt, List.flatMap_singleton]
  · intro names values hlength
    constructor
    · intro span specSpan type
      simp only [declaration_valueSpec h, reports_eq_flatMap p.bare hlength]
    · simp only [shortDeclaration_define h, reports_eq_flatMap p.bare hlength]

end Judge

namespace Sample

/-- A place before `defer x.Close()`. -/
def spot : Spot where
  parent := some ⟨.body, .block, ⟨21, 63⟩, none, [], [releasing]⟩
  edge := .list
  span := ⟨24, 35⟩

/-- `x, _, z`. -/
def threeNames : List Identifier :=
  [⟨"x", some 0, none, ⟨24, 25⟩, none⟩, ⟨"_", none, none, ⟨26, 27⟩, none⟩,
    ⟨"z", some 2, none, ⟨28, 29⟩, none⟩]

/-- `open(), open(), open()`. -/
def threeValues : List Node :=
  [opening, opening, opening]

/-- In either spelling `x, _, z` are declared with values that have to be closed, and only `z` is
reported: `x` is released, and the blank name is passed over. -/
theorem declaration_spellings_released :
    (program.judge ["io.Closer"]).meaning.IgnoresEdges ∧
      threeNames.length = threeValues.length ∧
      (program.judge ["io.Closer"]).shortDeclaration (spot.define threeNames threeValues) =
        [.unclosed ⟨28, 29⟩] ∧
      (program.judge ["io.Closer"]).declaration
        (spot.varStmt ⟨24, 35⟩ [.valueSpec ⟨24, 35⟩ threeNames none threeValues]) =
          [.unclosed ⟨28, 29⟩] := by
  have hmeaning := program.ignoresEdges_meaning
  obtain ⟨hspelling, -, hsingle⟩ :=
    Judge.declaration_spellings (program.judge ["io.Closer"]) hmeaning spot
  have hshort : (program.judge ["io.Closer"]).shortDeclaration
      (spot.define threeNames threeValues) = [.unclosed ⟨28, 29⟩] :=
    (hsingle threeNames threeValues rfl).2.trans (by decide +kernel)
  exact ⟨hmeaning, rfl, hshort, (hspelling _ _ _ _ _).trans hshort⟩

end Sample

end Unclosed
