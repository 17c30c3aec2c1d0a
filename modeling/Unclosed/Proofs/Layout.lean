import Mathlib.Data.Int.Order.Basic
import Mathlib.Data.List.Pairwise
import Unclosed.Proofs.Descent

/-!
# The layout of trees

In a tree that was parsed from a text, the spans of nodes lie inside those of their parents and
apart from those of their siblings, and what a block holds lies between its braces.  A place in such
a tree is the span of a statement that binds variables, or of one of its targets.

Statements stand in targets and values through function literals, so there are places inside places.
What keeps them different is the brace before the body of a literal: any place in an expression
starts after the expression does.
-/

namespace Unclosed

/-! ## Spans -/

namespace Span

variable {a b x y z : Span}

/-- The span lies in another. -/
def Within (a b : Span) : Prop :=
  b.start ≤ a.start ∧ a.stop ≤ b.stop

/-- No position lies in both spans. -/
def Apart (a b : Span) : Prop :=
  min a.stop b.stop ≤ max a.start b.start

instance : Decidable (a.Within b) :=
  inferInstanceAs (Decidable (_ ∧ _))

instance : Decidable (a.Apart b) :=
  inferInstanceAs (Decidable (_ ≤ _))

theorem Within.refl (a : Span) : a.Within a :=
  ⟨le_refl _, le_refl _⟩

theorem Within.trans (h : x.Within y) (h' : y.Within z) : x.Within z :=
  ⟨le_trans h'.1 h.1, le_trans h.2 h'.2⟩

theorem Apart.symm (h : a.Apart b) : b.Apart a := by
  rwa [Apart, min_comm, max_comm]

/-- Spans in spans that lie apart are different, unless they are empty. -/
theorem Apart.ne (h : a.Apart b) (hx : x.Within a) (hy : y.Within b) (hsolid : x.start < x.stop) :
    x ≠ y := by
  rintro rfl
  have hle : x.stop ≤ x.start :=
    calc
      x.stop ≤ min a.stop b.stop := le_min hx.2 hy.2
      _ ≤ max a.start b.start := h
      _ ≤ x.start := max_le hx.1 hy.1
  exact absurd hsolid (not_lt.mpr hle)

end Span

/-! ## Trees -/

namespace Form

def isStatement : Form → Bool
  | .declStmt | .assign _ | .exprStmt | .emptyStmt | .badStmt | .labeled | .send | .incDec | .goStmt
  | .deferStmt | .returnStmt | .branch | .block | .ifStmt | .caseClause | .switchStmt | .typeSwitch
  | .commClause | .selectStmt | .forStmt | .rangeStmt => true
  | _ => false

def binds : Form → Bool
  | .declStmt | .assign _ => true
  | _ => false

theorem isStatement_of_binds {form : Form} (h : form.binds) : form.isStatement := by
  cases form with
  | declStmt => rfl
  | assign op => rfl
  | _ => cases h

theorem ne_block_of_binds {form : Form} (h : form.binds) : form ≠ .block := by
  rintro rfl
  cases h

def isFunction : Form → Bool
  | .funcDecl _ => true
  | _ => false

/-- The edge on which nodes of the form have targets. -/
def targets? : Form → Option Edge
  | .assign _ => some .lhs
  | .valueSpec => some .names
  | _ => none

end Form

namespace Node

/-- Whether the node is part of what stands before the body of a function. -/
def isHeader (n : Node) : Bool :=
  n.edge = .receiver || n.edge = .name || n.edge = .type

/-- `n.Arranged`: the children of the node are arranged as they are in a text. -/
@[mk_iff]
structure Arranged (n : Node) : Prop where
  within : ∀ m ∈ n.children, m.span.Within n.span
  /-- Siblings lie apart, except that the type of a function surrounds its name and its receiver. -/
  apart : n.children.Pairwise fun a b =>
    a.span.Apart b.span ∨ n.form.isFunction ∧ a.isHeader ∧ b.isHeader
  header : n.form.isFunction → ∀ m ∈ n.children, m.isHeader →
    ∀ k ∈ m.preorder, ¬k.form.isStatement
  /-- A block has an opening and a closing brace. -/
  braces : n.form = .block → ∀ m ∈ n.children,
    n.span.start < m.span.start ∧ m.span.stop < n.span.stop
  /-- Expressions and declarations, and the statements that bind, hold statements in blocks only,
  which are the bodies of functions. -/
  bodies : (n.form.isStatement → n.form.binds) →
    ∀ m ∈ n.children, m.form.isStatement → m.form = .block
  /-- Targets are not empty. -/
  solid : ∀ m ∈ n.children, n.form.targets? = some m.edge → m.span.start < m.span.stop

instance (n : Node) : Decidable n.Arranged :=
  decidable_of_iff' _ (arranged_iff n)

/-- The whole tree is arranged as it is in a text. -/
def LaidOut (n : Node) : Prop :=
  ∀ k ∈ n.preorder, k.Arranged

instance (n : Node) : Decidable n.LaidOut :=
  inferInstanceAs (Decidable (∀ k ∈ n.preorder, k.Arranged))

variable {n m k t : Node} {path : List Node} {x : Span}

theorem LaidOut.arranged (h : n.LaidOut) : n.Arranged :=
  h n (mem_preorder_iff.mpr ⟨[], .refl n⟩)

theorem LaidOut.child (h : n.LaidOut) (hm : m ∈ n.children) : m.LaidOut := by
  intro k hk
  obtain ⟨path, hk⟩ := mem_preorder_iff.mp hk
  exact h k (mem_preorder_iff.mpr ⟨n :: path, .child hm hk⟩)

theorem LaidOut.of_reaches (h : n.LaidOut) (hk : n.Reaches path k) : k.LaidOut := by
  induction hk with
  | refl => exact h
  | child hm _ ih => exact ih (h.child hm)

/-- What stands in a tree lies in its span. -/
theorem LaidOut.within (h : n.LaidOut) (hk : n.Reaches path k) : k.span.Within n.span := by
  induction hk with
  | refl => exact .refl _
  | child hm _ ih => exact (ih (h.child hm)).trans (h.arranged.within _ hm)

/-- The children of a node other than a function lie apart. -/
theorem LaidOut.pairwise_apart (h : n.LaidOut) (hn : n.form.isFunction = false) :
    n.children.Pairwise fun a b => a.span.Apart b.span := by
  refine h.arranged.apart.imp ?_
  rintro a b (hab | ⟨hfunction, -⟩)
  · exact hab
  · rw [hn] at hfunction
    cases hfunction

theorem LaidOut.apart_of_ne (h : n.LaidOut) (hn : n.form.isFunction = false) (hm : m ∈ n.children)
    (hk : k ∈ n.children) (hne : m ≠ k) : m.span.Apart k.span := by
  have : Std.Symm fun a b : Node => a.span.Apart b.span := ⟨fun _ _ hab => hab.symm⟩
  exact (h.pairwise_apart hn).forall hm hk hne

/-- `n.Binds t`: the node `t` is a target of the statement `n`. -/
inductive Binds (n : Node) : Node → Prop
  | assigned {op : AssignOp} {t : Node} :
      n.form = .assign op → t ∈ n.children → t.edge = .lhs → Binds n t
  | declared {d v t : Node} :
      n.form = .declStmt → d ∈ n.children → d.form = .genDecl .var → v ∈ d.children →
      v.form = .valueSpec → t ∈ v.children → t.edge = .names → Binds n t

theorem Binds.form_binds (h : n.Binds t) : n.form.binds := by
  cases h with
  | assigned hform => exact hform ▸ rfl
  | declared hform => exact hform ▸ rfl

/-- Targets are not empty and lie in their statement. -/
theorem Binds.solid (h : n.Binds t) (hn : n.LaidOut) :
    t.span.Within n.span ∧ t.span.start < t.span.stop := by
  cases h with
  | assigned hform ht hedge =>
      refine ⟨hn.arranged.within t ht, hn.arranged.solid t ht ?_⟩
      rw [hform, hedge]
      rfl
  | declared hform hd hgen hv hspec ht hedge =>
      have hvn := (hn.child hd).child hv
      refine ⟨hn.within (.child hd (.child hv (.child ht (.refl t)))), hvn.arranged.solid t ht ?_⟩
      rw [hspec, hedge]
      rfl

/-! ## Places

A place is where a target of a statement may be reported. -/

/-- `n.OwnPlace x`: `x` is the span of a target of the statement, or of the statement itself. -/
def OwnPlace (n : Node) (x : Span) : Prop :=
  ∃ t, n.Binds t ∧ (x = t.span ∨ x = n.span)

/-- `n.Place x`: `x` is a place of a statement in the tree. -/
def Place (n : Node) (x : Span) : Prop :=
  ∃ path k, n.Reaches path k ∧ k.OwnPlace x

/-- The places in a tree are those of its root and those in the children. -/
theorem place_iff : n.Place x ↔ n.OwnPlace x ∨ ∃ m ∈ n.children, m.Place x := by
  constructor
  · rintro ⟨path, k, hk, hx⟩
    rcases reaches_iff.mp hk with ⟨-, rfl⟩ | ⟨m, hm, rest, -, hk⟩
    · exact .inl hx
    · exact .inr ⟨m, hm, rest, k, hk, hx⟩
  · rintro (hx | ⟨m, hm, path, k, hk, hx⟩)
    · exact ⟨[], n, .refl n, hx⟩
    · exact ⟨n :: path, k, .child hm hk, hx⟩

theorem OwnPlace.form_binds (h : n.OwnPlace x) : n.form.binds := by
  obtain ⟨t, ht, -⟩ := h
  exact ht.form_binds

theorem OwnPlace.solid (h : n.OwnPlace x) (hn : n.LaidOut) :
    x.Within n.span ∧ x.start < x.stop := by
  obtain ⟨t, ht, rfl | rfl⟩ := h
  · exact ht.solid hn
  · obtain ⟨⟨hstart, hstop⟩, hsolid⟩ := ht.solid hn
    exact ⟨.refl _, lt_of_le_of_lt hstart (lt_of_lt_of_le hsolid hstop)⟩

/-- Places are not empty and lie in their tree. -/
theorem Place.solid (h : n.Place x) (hn : n.LaidOut) : x.Within n.span ∧ x.start < x.stop := by
  obtain ⟨path, k, hk, hx⟩ := h
  obtain ⟨hwithin, hsolid⟩ := hx.solid (hn.of_reaches hk)
  exact ⟨hwithin.trans (hn.within hk), hsolid⟩

/-- Without statements there are no places. -/
theorem not_place_of_not_isStatement (h : ∀ k ∈ n.preorder, ¬k.form.isStatement) : ¬n.Place x := by
  rintro ⟨path, k, hk, hx⟩
  exact h k (mem_preorder_iff.mpr ⟨path, hk⟩) (Form.isStatement_of_binds hx.form_binds)

/-- The places in an expression or a block start after it: they lie behind a brace. -/
theorem Place.start_lt (h : n.Place x) (hn : n.LaidOut)
    (hplain : n.form.isStatement → n.form = .block) : n.span.start < x.start := by
  induction n using childrenInduction with
  | step n ih =>
      rcases place_iff.mp h with hx | ⟨m, hm, hx⟩
      · have hblock := hplain (Form.isStatement_of_binds hx.form_binds)
        exact absurd hblock (Form.ne_block_of_binds hx.form_binds)
      · by_cases hblock : n.form = .block
        · have hbrace := (hn.arranged.braces hblock m hm).1
          exact lt_of_lt_of_le hbrace (hx.solid (hn.child hm)).1.1
        · have hbody := hn.arranged.bodies (fun hs => absurd (hplain hs) hblock) m hm
          exact lt_of_le_of_lt (hn.arranged.within m hm).1 (ih m hm hx (hn.child hm) hbody)

/-- The span of an expression or a block is no place in it. -/
theorem not_place_span (hn : n.LaidOut) (hplain : n.form.isStatement → n.form = .block) :
    ¬n.Place n.span :=
  fun h => lt_irrefl _ (h.start_lt hn hplain)

/-- A span in one child of a node that is no place in that child is no place in any. -/
theorem LaidOut.not_place_child (hn : n.LaidOut) (hf : n.form.isFunction = false)
    (hm : m ∈ n.children) (hx : x.Within m.span) (hsolid : x.start < x.stop) (hnot : ¬m.Place x) :
    ∀ k ∈ n.children, ¬k.Place x := by
  intro k hk hplace
  by_cases hkm : m = k
  · exact hnot (hkm ▸ hplace)
  · have hapart := hn.apart_of_ne hf hm hk hkm
    exact hapart.ne hx (hplace.solid (hn.child hk)).1 hsolid rfl

theorem LaidOut.not_place (hn : n.LaidOut) (hf : n.form.isFunction = false)
    (hbinds : n.form.binds = false) (hm : m ∈ n.children) (hx : x.Within m.span)
    (hsolid : x.start < x.stop) (hnot : ¬m.Place x) : ¬n.Place x := by
  intro h
  rcases place_iff.mp h with hown | ⟨k, hk, hplace⟩
  · rw [hown.form_binds] at hbinds
    cases hbinds
  · exact hn.not_place_child hf hm hx hsolid hnot k hk hplace

/-- The span of a target is no place below the statement. -/
theorem Binds.not_place (h : n.Binds t) (hn : n.LaidOut) (hm : m ∈ n.children) :
    ¬m.Place t.span := by
  have hsolid := (h.solid hn).2
  cases h with
  | assigned hform ht =>
      have hbody := hn.arranged.bodies (by simp [hform, Form.binds]) t ht
      exact hn.not_place_child (by simp [hform, Form.isFunction]) ht (.refl _) hsolid
        (not_place_span (hn.child ht) hbody) m hm
  | @declared d v _ hform hd hgen hv hspec ht =>
      -- The names stand two levels further down, and on neither of them anything is bound.
      have hdn := hn.child hd
      have hvn := hdn.child hv
      have hbody := hvn.arranged.bodies (by simp [hspec, Form.isStatement]) t ht
      have hvplace : ¬v.Place t.span :=
        hvn.not_place (by simp [hspec, Form.isFunction]) (by simp [hspec, Form.binds]) ht (.refl _)
          hsolid (not_place_span (hvn.child ht) hbody)
      have hdplace : ¬d.Place t.span :=
        hdn.not_place (by simp [hgen, Form.isFunction]) (by simp [hgen, Form.binds]) hv
          (hvn.arranged.within t ht) hsolid hvplace
      exact hn.not_place_child (by simp [hform, Form.isFunction]) hd
        (hdn.within (.child hv (.child ht (.refl t)))) hsolid hdplace m hm

/-- No place of a statement is a place below it. -/
theorem OwnPlace.not_place (h : n.OwnPlace x) (hn : n.LaidOut) (hm : m ∈ n.children) :
    ¬m.Place x := by
  have hbinds := h.form_binds
  obtain ⟨t, ht, rfl | rfl⟩ := h
  · exact ht.not_place hn hm
  · intro hplace
    have hlt := hplace.start_lt (hn.child hm) (hn.arranged.bodies (fun _ => hbinds) m hm)
    exact absurd (hn.arranged.within m hm).1 (not_le.mpr hlt)

end Node

end Unclosed
