import Unclosed.Proofs.Bindings
import Unclosed.Proofs.Scope

/-!
# Parentheses around assigned targets

What a target stands for and whether it is released is asked of what is inside its parentheses, so
parentheses around a target do not matter for this.  The blank name is only recognised without
parentheses: in parentheses it is a target like any other.
-/

namespace Unclosed

/-! ## Nodes in parentheses -/

/-- A pair of parentheses: the span from the one to the other, and the type of what is inside. -/
structure Parens where
  span : Span
  type : Option Ty

namespace Node

def onEdge (n : Node) (e : Edge) : Node :=
  { n with edge := e }

/-- The node in pairs of parentheses, the outermost first. -/
def inParens (n : Node) : List Parens → Node
  | [] => n
  | p :: ps => ⟨n.edge, .paren, p.span, p.type, [(n.inParens ps).onEdge .operand]⟩

variable {n : Node} {e : Edge} {ps : List Parens}

@[simp] theorem edge_inParens : (n.inParens ps).edge = n.edge := by
  cases ps <;> rfl

theorem onEdge_self (n : Node) : n.onEdge n.edge = n := by
  cases n
  rfl

/-- Taking parentheses away leads to the same wherever the node hangs, up to the edge. -/
theorem unparen_onEdge (n : Node) (e : Edge) :
    ∃ e', (n.onEdge e).unparen = n.unparen.onEdge e' := by
  fun_cases unparen n with
  | case1 _ _ _ inner => exact ⟨inner.unparen.edge, by rw [onEdge_self, onEdge, unparen]⟩
  | case2 n h =>
      refine ⟨e, ?_⟩
      obtain ⟨edge, form, span, type, children⟩ := n
      unfold unparen
      split
      · rename_i heq
        cases heq
        exact absurd rfl (h _ _ _ _)
      · rfl

/-- Parentheses are taken away again, and only the edge can differ. -/
theorem unparen_inParens (n : Node) (ps : List Parens) :
    ∃ e, (n.inParens ps).unparen = n.unparen.onEdge e := by
  induction ps with
  | nil => exact ⟨n.unparen.edge, (onEdge_self _).symm⟩
  | cons p ps ih =>
      obtain ⟨e, he⟩ := ih
      obtain ⟨e', he'⟩ := unparen_onEdge (n.inParens ps) .operand
      refine ⟨e', ?_⟩
      rw [inParens, unparen, he', he]
      rfl

/-- Nothing in parentheses is taken for blank. -/
theorem isBlank_inParens : (n.inParens ps).isBlank ↔ n.isBlank ∧ ps = [] := by
  cases ps with
  | nil => simp [inParens]
  | cons p ps => simp [inParens, isBlank, identName?]

end Node

/-! ## Statements with a gap -/

/-- A node with a gap for one of its children. -/
structure Gap where
  edge : Edge
  form : Form
  span : Span
  type : Option Ty
  before : List Node
  after : List Node

namespace Gap

variable {g : Gap} {n m : Node} {e : Edge}

def fill (g : Gap) (n : Node) : Node :=
  ⟨g.edge, g.form, g.span, g.type, g.before ++ n :: g.after⟩

/-- The place of the gap among the children on the edge. -/
def index (g : Gap) (e : Edge) : Nat :=
  (g.before.filter (·.edge = e)).length

theorem under_fill (h : n.edge = e) :
    (g.fill n).under e = g.before.filter (·.edge = e) ++ n :: g.after.filter (·.edge = e) := by
  simp [fill, Node.under, h]

theorem under_fill_of_ne (h : n.edge ≠ e) :
    (g.fill n).under e = (g.before ++ g.after).filter (·.edge = e) := by
  simp [fill, Node.under, h]

theorem child?_fill_of_ne (h : n.edge ≠ e) :
    (g.fill n).child? e = (g.before ++ g.after).find? (·.edge = e) := by
  simp [fill, Node.child?, h]

/-- What is in the gap is passed over by a test that it does not pass. -/
theorem any_under_fill {test : Node → Bool} (h : test n = false) :
    ((g.fill n).under e).any test = ((g.before ++ g.after).filter (·.edge = e)).any test := by
  by_cases he : n.edge = e
  · simp [under_fill he, h]
  · rw [under_fill_of_ne he]

end Gap

/-- The site of a node in the gap of its parent, if it has one. -/
def Site.inGap (parent : Option Gap) (n : Node) : Site :=
  ⟨parent.map (·.fill n), n⟩

/-- What the statements of a scope are searched for does not depend on the statement itself, if it is
not found. -/
theorem Site.any_statements_inGap {parent : Option Gap} {n m : Node} {test : Node → Bool}
    (hedge : n.edge = m.edge) (hn : test n = false) (hm : test m = false) :
    (Site.inGap parent n).statements.any test = (Site.inGap parent m).statements.any test := by
  cases parent with
  | none => rfl
  | some g =>
      simp only [inGap, Option.map_some, statements, hedge]
      have hform : ∀ k : Node, (g.fill k).form = g.form := fun k => rfl
      rw [hform, hform]
      split
      · rw [Gap.any_under_fill hn, Gap.any_under_fill hm]
      · rw [Gap.any_under_fill hn, Gap.any_under_fill hm]
      · rw [Gap.any_under_fill hn, Gap.any_under_fill hm]
      · rw [Gap.any_under_fill hn, Gap.any_under_fill hm]
      · rename_i hinit
        rw [Gap.child?_fill_of_ne (by simp [hedge, hinit]), Gap.child?_fill_of_ne (by simp [hinit])]
      · rfl

/-! ## Open targets -/

/-- What a target stands for is asked inside its parentheses. -/
theorem Program.targetKind_inParens (p : Program) (n : Node) (ps : List Parens) :
    p.targetKind (n.inParens ps) = p.targetKind n := by
  obtain ⟨e, he⟩ := n.unparen_inParens ps
  rw [targetKind, he]
  rfl

namespace Judge

variable {j : Judge} {s : Site} {k : Nat}

/-- The places of the targets that an assignment leaves open. -/
def openIndices (j : Judge) (s : Site) : List Nat :=
  ((Target.assigned s.node).filter (j.leavesAssigned s)).map (·.share.index)

/-- What is reported of the target at a place, if it is left open. -/
def findingAt? (s : Site) (k : Nat) : Option Finding :=
  s.node.sides.targets[k]?.map fun n => .unclosed (s.node.sides.place s n)

/-- Every target that is left open leads to one finding, in the order of the places. -/
theorem map_findingAt?_openIndices (hform : s.node.form = .assign .plain) :
    (j.openIndices s).map (findingAt? s) = (j.assignment s).map some := by
  rw [openIndices, assignment, List.map_map, List.map_map]
  apply List.map_congr_left
  intro t ht
  obtain ⟨⟨n, k⟩, hn, rfl⟩ := List.mem_map.mp (List.mem_filter.mp ht).1
  have hk : s.node.sides.targets[k]? = some n :=
    List.mk_mem_zipIdx_iff_getElem?.mp (List.mem_filter.mp hn).1
  have hplace := place_target (s := s) (n := n) (List.getElem?_eq_some_iff.mp hk).1
  rw [place, hform] at hplace
  simp only [Function.comp_apply, findingAt?, hk, Option.map_some, ← hplace]
  rfl

theorem mem_openIndices_iff :
    k ∈ j.openIndices s ↔
      ∃ n, s.node.sides.targets[k]? = some n ∧ ¬n.isBlank ∧
        j.leavesAssigned s (s.node.sides.target n k) := by
  simp only [openIndices, Target.assigned, Target.pair, List.mem_map, List.mem_filter]
  constructor
  · rintro ⟨_, ⟨⟨⟨n, k⟩, ⟨hn, hblank⟩, rfl⟩, hopen⟩, rfl⟩
    exact ⟨n, List.mk_mem_zipIdx_iff_getElem?.mp hn, by simpa using hblank, hopen⟩
  · rintro ⟨n, hn, hblank, hopen⟩
    exact ⟨_, ⟨⟨(n, k), ⟨List.mk_mem_zipIdx_iff_getElem?.mpr hn, by simpa using hblank⟩, rfl⟩, hopen⟩,
      rfl⟩

/-- Of a statement that binds a variable only the edge and the span matter for whether the variable is
released, as long as the statement defers nothing itself. -/
theorem isReleased_inGap (j : Judge) (parent : Option Gap) {a b : Node} (hedge : a.edge = b.edge)
    (hspan : a.span = b.span) (ha : a.form ≠ .deferStmt) (hb : b.form ≠ .deferStmt) (id : Node) :
    j.isReleased (.inGap parent a) id = j.isReleased (.inGap parent b) id := by
  have hskip : ∀ v n, n.form ≠ .deferStmt → j.closers.defersRelease b v n = false := by
    intro v n hn
    simp [Closers.defersRelease, hn]
  have hdefers : j.closers.defersRelease a = j.closers.defersRelease b := by
    funext v d
    rw [Closers.defersRelease, Closers.defersRelease, hspan]
  rw [isReleased, isReleased, Closers.isReleased, Closers.isReleased]
  cases id.object? with
  | none => rfl
  | some v =>
      have hany : (Site.inGap parent a).statements.any (j.closers.defersRelease a v) =
          (Site.inGap parent b).statements.any (j.closers.defersRelease b v) := by
        rw [hdefers]
        exact Site.any_statements_inGap hedge (hskip v a ha) (hskip v b hb)
      exact congrArg (j.program.isVariable v && ·) hany

/-- Neither what is in the gap of an assignment nor parentheses around a target matter for whether
the target is left open. -/
theorem leavesAssigned_inParens (p : Program) (names : List String) (parent : Option Gap) {g : Gap}
    (hg : g.form ≠ .deferStmt) (a b n : Node) (ps : List Parens) (share : Share Node) :
    (p.judge names).leavesAssigned (.inGap parent (g.fill a)) ⟨n.inParens ps, share⟩ =
      (p.judge names).leavesAssigned (.inGap parent (g.fill b)) ⟨n, share⟩ := by
  obtain ⟨e, he⟩ := n.unparen_inParens ps
  have hkind : (p.judge names).meaning.targetKind (n.inParens ps) =
      (p.judge names).meaning.targetKind n := p.targetKind_inParens n ps
  have hreleased := fun id => (p.judge names).isReleased_inGap parent (a := g.fill a)
    (b := g.fill b) rfl rfl hg hg id
  rw [leavesAssigned, leavesAssigned, hkind]
  simp only [he, hreleased]
  rfl

end Judge

/-- A target of an assignment, with the assignment and what it hangs on around it. -/
structure AssignedTarget where
  parent : Option Gap
  stmt : Gap
  node : Node
  form_stmt : stmt.form = .assign .plain
  edge_node : node.edge = .lhs

namespace AssignedTarget

variable (t : AssignedTarget)

/-- The place of the target among all targets of the assignment. -/
def index : Nat :=
  t.stmt.index .lhs

/-- The site of the assignment, with the target in parentheses. -/
def site (ps : List Parens) : Site :=
  .inGap t.parent (t.stmt.fill (t.node.inParens ps))

/-- Whether the target is left open, unless it is passed over as blank. -/
def isLeft (j : Judge) : Bool :=
  j.leavesAssigned (t.site []) ((t.site []).node.sides.target t.node t.index)

variable {t} {p : Program} {names : List String} {ps ps' : List Parens} {k : Nat}

theorem targets_site :
    (t.site ps).node.sides.targets =
      t.stmt.before.filter (·.edge = .lhs) ++
        t.node.inParens ps :: t.stmt.after.filter (·.edge = .lhs) :=
  Gap.under_fill (by rw [Node.edge_inParens, t.edge_node])

theorem values_site :
    (t.site ps).node.sides.values = (t.stmt.before ++ t.stmt.after).filter (·.edge = .rhs) :=
  Gap.under_fill_of_ne (by simp [t.edge_node])

/-- Parentheses around one target change no other. -/
theorem getElem?_targets_site (hk : k ≠ t.index) (ps ps' : List Parens) :
    (t.site ps).node.sides.targets[k]? = (t.site ps').node.sides.targets[k]? := by
  rw [targets_site, targets_site]
  rw [index, Gap.index] at hk
  grind

theorem getElem?_index : (t.site ps).node.sides.targets[t.index]? = some (t.node.inParens ps) := by
  rw [targets_site, index, Gap.index]
  simp

/-- What the targets of the assignment receive does not depend on parentheses. -/
theorem target_site (ps ps' : List Parens) (n : Node) (k : Nat) :
    (t.site ps).node.sides.target n k = (t.site ps').node.sides.target n k := by
  simp only [Binding.target, values_site, targets_site, List.length_append, List.length_cons]

/-- Whether a target is left open depends neither on parentheses around it nor on those around
another. -/
theorem leavesAssigned_site (ps ps' qs : List Parens) (n : Node) (k : Nat) :
    (p.judge names).leavesAssigned (t.site ps) ((t.site ps).node.sides.target (n.inParens qs) k) =
      (p.judge names).leavesAssigned (t.site ps') ((t.site ps').node.sides.target n k) := by
  have hform : t.stmt.form ≠ .deferStmt := by simp [t.form_stmt]
  rw [target_site ps ps']
  exact Judge.leavesAssigned_inParens p names t.parent hform _ _ n qs _

/-- Parentheses around one target do not matter for the others. -/
theorem mem_openIndices_site_of_ne (hk : k ≠ t.index) (ps ps' : List Parens) :
    k ∈ (p.judge names).openIndices (t.site ps) ↔
      k ∈ (p.judge names).openIndices (t.site ps') := by
  rw [Judge.mem_openIndices_iff, Judge.mem_openIndices_iff, getElem?_targets_site hk ps ps']
  refine exists_congr fun n => and_congr_right fun _ => and_congr_right fun _ => ?_
  exact Bool.eq_iff_iff.mp (leavesAssigned_site ps ps' [] n k)

/-- The target itself is left open unless it is a blank name without parentheses. -/
theorem index_mem_openIndices_iff :
    t.index ∈ (p.judge names).openIndices (t.site ps) ↔
      t.isLeft (p.judge names) ∧ ¬(t.node.isBlank ∧ ps = []) := by
  rw [Judge.mem_openIndices_iff, getElem?_index, isLeft, ← leavesAssigned_site ps [] ps,
    ← Node.isBlank_inParens]
  constructor
  · rintro ⟨_, ⟨⟩, hblank, hopen⟩
    exact ⟨hopen, hblank⟩
  · rintro ⟨hopen, hblank⟩
    exact ⟨_, rfl, hblank, hopen⟩

/-- **Parentheses matter around blank names only.**  An assignment has one finding for each target
that is left open, and for nothing else.  Whether the other targets are left open does not depend on
parentheses around a target, and whether the target itself is does not either, unless it is a blank
name.  A blank name is passed over without parentheses, and reported in parentheses if it receives a
value that has to be closed.  So the same targets are reported with other parentheses, unless these
make the difference between a blank name that is bare and one that is not. -/
theorem openIndices_parens (t : AssignedTarget) (p : Program) (names : List String)
    (ps ps' : List Parens) :
    (∀ qs, ((p.judge names).openIndices (t.site qs)).map (Judge.findingAt? (t.site qs)) =
      ((p.judge names).assignment (t.site qs)).map some) ∧
    (∀ k, k ≠ t.index → (k ∈ (p.judge names).openIndices (t.site ps) ↔
      k ∈ (p.judge names).openIndices (t.site ps'))) ∧
    (¬t.node.isBlank → (t.index ∈ (p.judge names).openIndices (t.site ps) ↔
      t.index ∈ (p.judge names).openIndices (t.site ps'))) ∧
    (t.node.isBlank → (t.index ∈ (p.judge names).openIndices (t.site ps) ↔
      ps ≠ [] ∧ t.isLeft (p.judge names))) ∧
    ((∀ k, k ∈ (p.judge names).openIndices (t.site ps) ↔
      k ∈ (p.judge names).openIndices (t.site ps')) ↔
        ¬(t.node.isBlank ∧ t.isLeft (p.judge names) ∧ (ps = [] ↔ ps' ≠ []))) := by
  have hothers : ∀ k, k ≠ t.index → (k ∈ (p.judge names).openIndices (t.site ps) ↔
      k ∈ (p.judge names).openIndices (t.site ps')) :=
    fun k hk => mem_openIndices_site_of_ne hk ps ps'
  have hsame : (∀ k, k ∈ (p.judge names).openIndices (t.site ps) ↔
      k ∈ (p.judge names).openIndices (t.site ps')) ↔
        (t.index ∈ (p.judge names).openIndices (t.site ps) ↔
          t.index ∈ (p.judge names).openIndices (t.site ps')) := by
    constructor
    · intro h
      exact h t.index
    · intro h k
      by_cases hk : k = t.index
      · exact hk ▸ h
      · exact hothers k hk
  refine ⟨fun qs => Judge.map_findingAt?_openIndices t.form_stmt, hothers, ?_, ?_, ?_⟩
  · intro hblank
    simp [index_mem_openIndices_iff, hblank]
  · intro hblank
    simp [index_mem_openIndices_iff, hblank, and_comm]
  · rw [hsame, index_mem_openIndices_iff, index_mem_openIndices_iff]
    by_cases hps : ps = [] <;> by_cases hps' : ps' = [] <;> simp [hps, hps']

end AssignedTarget

namespace Sample

/-- The target of `_ = open()`. -/
def blankTarget : AssignedTarget where
  parent := some ⟨.body, .block, ⟨21, 63⟩, none, [], []⟩
  stmt := ⟨.list, .assign .plain, ⟨24, 35⟩, none, [], [opening]⟩
  node := ⟨.lhs, .ident "_" none none, ⟨25, 26⟩, none, []⟩
  form_stmt := rfl
  edge_node := rfl

/-- Nothing is reported of `_ = open()`, but `(_) = open()` is reported. -/
theorem openIndices_parens_blank :
    (program.judge ["io.Closer"]).assignment (blankTarget.site []) = [] ∧
      (program.judge ["io.Closer"]).assignment (blankTarget.site [⟨⟨24, 27⟩, none⟩]) =
        [.unclosed ⟨24, 35⟩] ∧
      ¬∀ k, k ∈ (program.judge ["io.Closer"]).openIndices (blankTarget.site []) ↔
        k ∈ (program.judge ["io.Closer"]).openIndices (blankTarget.site [⟨⟨24, 27⟩, none⟩]) := by
  have hparens := blankTarget.openIndices_parens program ["io.Closer"] [] [⟨⟨24, 27⟩, none⟩]
  have hleft : blankTarget.isLeft (program.judge ["io.Closer"]) := by decide +kernel
  refine ⟨by decide +kernel, by decide +kernel, fun hlaw => ?_⟩
  exact hparens.2.2.2.2.mp hlaw ⟨by decide, hleft, by simp⟩

end Sample

end Unclosed
