import Mathlib.Data.List.Forall2
import Unclosed.Proofs.Scope

/-!
# Variations of a tree

A variation is a relation between nodes and variants of them that keeps all the linter looks at:
spans, types, the objects of identifiers, the names of selected methods, and the children in their
order.  It is free in two respects.  The names of identifiers may change, unless they are or become
blank, and there may be new statements in the lists of statements.  Like a bisimulation, it is given
by what it says about one node and its children; what it says about whole trees follows by
descending in them.
-/

namespace Unclosed

/-! ## Forms -/

/-- Forms that only differ in the name of an identifier, which is blank in both or in neither. -/
inductive Form.Alike : Form → Form → Prop
  | refl (form : Form) : Alike form form
  | ident {name name' : String} {declares refersTo : Option ObjectId} :
      (name' = "_" ↔ name = "_") →
      Alike (.ident name declares refersTo) (.ident name' declares refersTo)

/-- Forms that are alike are the same or both identifiers. -/
theorem Form.Alike.eq_or {a b : Form} (h : a.Alike b) :
    b = a ∨ ∃ name name' declares refersTo, a = .ident name declares refersTo ∧
      b = .ident name' declares refersTo ∧ (name' = "_" ↔ name = "_") := by
  cases h with
  | refl => exact .inl rfl
  | ident hblank => exact .inr ⟨_, _, _, _, rfl, rfl, hblank⟩

/-- `form.Lists e`: nodes of the form hold a list of statements on the edge. -/
inductive Form.Lists : Form → Edge → Prop
  | block : Lists .block .list
  | caseClause : Lists .caseClause .body
  | commClause : Lists .commClause .body

/-- Statements are listed on two edges only. -/
theorem Form.not_lists {form : Form} {e : Edge} (he : e ≠ .list ∧ e ≠ .body) : ¬form.Lists e := by
  rintro (_ | _ | _)
  · exact he.1 rfl
  · exact he.2 rfl
  · exact he.2 rfl

/-- Statements are listed by three forms only. -/
theorem Form.not_lists_of_eq {form form' : Form} (hform : form = form')
    (h : form' ≠ .block ∧ form' ≠ .caseClause ∧ form' ≠ .commClause) (e : Edge) :
    ¬form.Lists e := by
  subst hform
  rintro (_ | _ | _)
  · exact h.1 rfl
  · exact h.2.1 rfl
  · exact h.2.2 rfl

/-! ## Lists of children -/

/-- `Grown R new ns ms`: `ms` is made of variants of `ns` in the same order, and of new nodes. -/
inductive Grown (R : Node → Node → Prop) (new : Node → Prop) : List Node → List Node → Prop
  | nil : Grown R new [] []
  | keep {n m : Node} {ns ms : List Node} :
      R n m → Grown R new ns ms → Grown R new (n :: ns) (m :: ms)
  | add {m : Node} {ns ms : List Node} : new m → Grown R new ns ms → Grown R new ns (m :: ms)

namespace Grown

variable {R : Node → Node → Prop} {new : Node → Prop} {ns ms ns' ms' : List Node}

/-- Without new nodes, the lists agree place by place. -/
theorem of_forall₂ (h : List.Forall₂ R ns ms) : Grown R new ns ms := by
  induction h with
  | nil => exact .nil
  | cons hr _ ih => exact .keep hr ih

theorem append (h : Grown R new ns ms) (h' : Grown R new ns' ms') :
    Grown R new (ns ++ ns') (ms ++ ms') := by
  induction h with
  | nil => exact h'
  | keep hr _ ih => exact .keep hr ih
  | add hnew _ ih => exact .add hnew ih

theorem exists_right (h : Grown R new ns ms) {n : Node} (hn : n ∈ ns) : ∃ m ∈ ms, R n m := by
  induction h with
  | nil => cases hn
  | keep hr _ ih =>
      rcases List.mem_cons.mp hn with rfl | hn
      · exact ⟨_, List.mem_cons_self, hr⟩
      · obtain ⟨m, hm, hr⟩ := ih hn
        exact ⟨m, List.mem_cons_of_mem _ hm, hr⟩
  | add _ _ ih =>
      obtain ⟨m, hm, hr⟩ := ih hn
      exact ⟨m, List.mem_cons_of_mem _ hm, hr⟩

theorem exists_left (h : Grown R new ns ms) {m : Node} (hm : m ∈ ms) :
    (∃ n ∈ ns, R n m) ∨ new m := by
  induction h with
  | nil => cases hm
  | keep hr _ ih =>
      rcases List.mem_cons.mp hm with rfl | hm
      · exact .inl ⟨_, List.mem_cons_self, hr⟩
      · rcases ih hm with ⟨n, hn, hr⟩ | hnew
        · exact .inl ⟨n, List.mem_cons_of_mem _ hn, hr⟩
        · exact .inr hnew
  | add hnew _ ih =>
      rcases List.mem_cons.mp hm with rfl | hm
      · exact .inr hnew
      · exact ih hm

/-- What is selected by a test that no new node passes agrees place by place. -/
theorem filter (h : Grown R new ns ms) (test : Node → Bool)
    (hkeep : ∀ n m, R n m → test m = test n) (hnew : ∀ m, new m → ¬test m) :
    List.Forall₂ R (ns.filter test) (ms.filter test) := by
  induction h with
  | nil => exact .nil
  | @keep n m ns ms hr _ ih =>
      have htest := hkeep n m hr
      by_cases hn : test n
      · rw [List.filter_cons_of_pos hn, List.filter_cons_of_pos (htest.trans hn)]
        exact .cons hr ih
      · rw [List.filter_cons_of_neg hn, List.filter_cons_of_neg (htest ▸ hn)]
        exact ih
  | @add m _ _ hm _ ih =>
      rw [List.filter_cons_of_neg (hnew m hm)]
      exact ih

end Grown

/-! ## Variations -/

/-- `Variation R new`: nodes that are related by `R` are taken for the same, up to new statements
that satisfy `new`. -/
structure Variation (R : Node → Node → Prop) (new : Node → Prop) : Prop where
  edge {n m : Node} : R n m → m.edge = n.edge
  span {n m : Node} : R n m → m.span = n.span
  type {n m : Node} : R n m → m.type = n.type
  form {n m : Node} : R n m → n.form.Alike m.form
  /-- New nodes are only found in lists of statements. -/
  children {n m : Node} : R n m →
    Grown R (fun k => n.form.Lists k.edge ∧ new k) n.children m.children
  /-- What is selected keeps its name. -/
  selected {n m : Node} : R n m → n.form.isSelector →
    (m.child? .selected).bind Node.identName? = (n.child? .selected).bind Node.identName?

namespace Variation

variable {R : Node → Node → Prop} {new : Node → Prop} (V : Variation R new)
variable {n m : Node} {e : Edge}

include V

/-! ### A node and its children -/

/-- Forms other than identifiers are the same. -/
theorem form_eq_iff (h : R n m) {form : Form}
    (hform : ∀ name declares refersTo, form ≠ .ident name declares refersTo) :
    m.form = form ↔ n.form = form := by
  rcases (V.form h).eq_or with heq | ⟨name, name', declares, refersTo, hn, hm, -⟩
  · rw [heq]
  · rw [hn, hm]
    exact iff_of_false (hform _ _ _).symm (hform _ _ _).symm

theorem isBlank_eq (h : R n m) : m.isBlank = n.isBlank := by
  rw [Node.isBlank, Node.isBlank, Node.identName?, Node.identName?]
  rcases (V.form h).eq_or with heq | ⟨name, name', _, _, hn, hm, hblank⟩
  · rw [heq]
  · rw [hn, hm, Bool.eq_iff_iff]
    simp [hblank]

theorem isIdent_eq (h : R n m) : m.isIdent = n.isIdent := by
  rw [Node.isIdent, Node.isIdent, Node.identName?, Node.identName?]
  rcases (V.form h).eq_or with heq | ⟨_, _, _, _, hn, hm, -⟩
  · rw [heq]
  · rw [hn, hm]
    rfl

theorem object?_eq (h : R n m) : m.object? = n.object? := by
  rw [Node.object?, Node.object?]
  rcases (V.form h).eq_or with heq | ⟨_, _, declares, _, hn, hm, -⟩
  · rw [heq]
  · rw [hn, hm]
    cases declares <;> rfl

theorem reference?_eq (h : R n m) : m.reference? = n.reference? := by
  rw [Node.reference?, Node.reference?]
  rcases (V.form h).eq_or with heq | ⟨_, _, _, _, hn, hm, -⟩
  · rw [heq]
  · rw [hn, hm]

/-- Where no list of statements is, the children agree place by place. -/
theorem under_forall₂ (h : R n m) (he : ¬n.form.Lists e) :
    List.Forall₂ R (n.under e) (m.under e) := by
  apply (V.children h).filter
  · intro k k' hk
    rw [V.edge hk]
  · rintro k ⟨hlists, -⟩ hedge
    rw [of_decide_eq_true hedge] at hlists
    exact he hlists

/-- Where no list of statements is, the first children agree. -/
theorem child?_rel (h : R n m) (he : ¬n.form.Lists e) :
    Option.Rel R (n.child? e) (m.child? e) := by
  have hunder := V.under_forall₂ h he
  rw [Node.child?, Node.child?, ← List.head?_filter, ← List.head?_filter]
  change Option.Rel R (n.under e).head? (m.under e).head?
  generalize n.under e = ns at hunder ⊢
  generalize m.under e = ms at hunder ⊢
  cases hunder with
  | nil => exact .none
  | cons hr _ => exact .some hr

theorem exists_mem_under (h : R n m) {d : Node} (hd : d ∈ n.under e) :
    ∃ d' ∈ m.under e, R d d' := by
  obtain ⟨hd, hedge⟩ := List.mem_filter.mp hd
  obtain ⟨d', hd', hr⟩ := (V.children h).exists_right hd
  refine ⟨d', List.mem_filter.mpr ⟨hd', ?_⟩, hr⟩
  rw [V.edge hr]
  exact hedge

theorem exists_mem_under_or_new (h : R n m) {d' : Node} (hd : d' ∈ m.under e) :
    (∃ d ∈ n.under e, R d d') ∨ new d' := by
  obtain ⟨hd, hedge⟩ := List.mem_filter.mp hd
  rcases (V.children h).exists_left hd with ⟨d, hd, hr⟩ | ⟨-, hnew⟩
  · refine .inl ⟨d, List.mem_filter.mpr ⟨hd, ?_⟩, hr⟩
    rw [← V.edge hr]
    exact hedge
  · exact .inr hnew

/-- A node that holds no statements has as many children as its variants. -/
theorem children_forall₂ (h : R n m) (hlists : ∀ e, ¬n.form.Lists e) :
    List.Forall₂ R n.children m.children := by
  have hfilter := (V.children h).filter (fun _ => true) (fun _ _ _ => rfl)
    (fun k hk => absurd hk.1 (hlists k.edge))
  simpa only [List.filter_true] using hfilter

/-- Parentheses are kept. -/
theorem unparen_rel (h : R n m) : R n.unparen m.unparen := by
  fun_induction Node.unparen n generalizing m with
  | case1 edge span type inner ih =>
      have hform : m.form = .paren := (V.form_eq_iff h (by simp)).mpr rfl
      have hchildren := V.children_forall₂ h (Form.not_lists_of_eq rfl (by simp))
      obtain ⟨edge', form', span', type', children'⟩ := m
      subst hform
      cases hchildren with
      | cons hr hrest =>
          cases hrest
          rw [Node.unparen]
          exact ih hr
  | case2 n hbare =>
      have hm : m.unparen = m := by
        unfold Node.unparen
        split
        · rename_i inner
          have hform : n.form = .paren := (V.form_eq_iff h (by simp)).mp rfl
          have hchildren := V.children_forall₂ h (Form.not_lists_of_eq hform (by simp))
          obtain ⟨edge, form, span, type, children⟩ := n
          subst hform
          cases hchildren with
          | cons _ hrest =>
              cases hrest
              exact (hbare _ _ _ _ rfl).elim
        · rfl
      rwa [hm]

/-! ### Descending in trees -/

/-- What a node reaches has a variant that its variants reach through variants. -/
theorem reaches_right {path : List Node} {k : Node} (h : R n m) (hr : n.Reaches path k) :
    ∃ path' k', m.Reaches path' k' ∧ List.Forall₂ R path path' ∧ R k k' := by
  induction hr generalizing m with
  | refl n => exact ⟨[], m, .refl m, .nil, h⟩
  | child hchild _ ih =>
      obtain ⟨m', hm', hr⟩ := (V.children h).exists_right hchild
      obtain ⟨path', k', hreaches, hpath, hk⟩ := ih hr
      exact ⟨m :: path', k', .child hm' hreaches, .cons h hpath, hk⟩

/-- What a variant reaches is such a variant, or it stands in something new. -/
theorem reaches_left {path' : List Node} {k' : Node} (h : R n m) (hr : m.Reaches path' k') :
    (∃ path k, n.Reaches path k ∧ List.Forall₂ R path path' ∧ R k k') ∨
      ∃ x path, new x ∧ x.Reaches path k' := by
  induction hr generalizing n with
  | refl m => exact .inl ⟨[], n, .refl n, .nil, h⟩
  | @child m m' k' path' hchild hreaches ih =>
      rcases (V.children h).exists_left hchild with ⟨n', hn', hr⟩ | ⟨-, hnew⟩
      · rcases ih hr with ⟨path, k, hreaches, hpath, hk⟩ | hnew
        · exact .inl ⟨n :: path, k, .child hn' hreaches, .cons h hpath, hk⟩
        · exact .inr hnew
      · exact .inr ⟨m', path', hnew, hreaches⟩

end Variation

end Unclosed
