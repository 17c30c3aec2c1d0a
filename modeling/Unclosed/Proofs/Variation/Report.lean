import Unclosed.Proofs.Comparison
import Unclosed.Proofs.Variation

/-!
# Reports on variations

Variables that are released in a tree are released in its variants, and others are not, unless
something new calls something.  So the variant of a file is reported for nothing that the file is not
reported for, as long as nothing new binds a variable, and for the same if nothing new makes a call
either.
-/

namespace Unclosed

/-- No call stands in the tree, and it defers none. -/
def Node.CallsNothing (d : Node) : Prop :=
  (∀ path k, d.Reaches path k → k.form ≠ .call) ∧ ∀ call, ¬d.Defers call

/-- No declaration statement and no assignment stands in the tree. -/
def Node.BindsNothing (d : Node) : Prop :=
  ∀ path k, d.Reaches path k → ¬(k.form = .declStmt ∨ ∃ op, k.form = .assign op)

def Site.Varies (R : Node → Node → Prop) (s s' : Site) : Prop :=
  Option.Rel R s.parent s'.parent ∧ R s.node s'.node

structure Target.Varies (R : Node → Node → Prop) (t t' : Target) : Prop where
  node : R t.node t'.node
  values : List.Forall₂ R t.share.values t'.share.values
  index : t'.share.index = t.share.index
  count : t'.share.count = t.share.count

section Options

variable {R : Node → Node → Prop} {a b : Option Node}

/-- Related options yield the same by functions that do not tell related nodes apart. -/
private theorem bind_eq_of_rel {α : Type} (h : Option.Rel R a b) (f : Node → Option α)
    (hf : ∀ x y, R x y → f y = f x) : b.bind f = a.bind f := by
  cases h with
  | none => rfl
  | some hr => exact hf _ _ hr

private theorem exists_some_right (h : Option.Rel R a b) {x : Node} (hx : a = some x) :
    ∃ y, b = some y ∧ R x y := by
  subst hx
  cases h with
  | some hr => exact ⟨_, rfl, hr⟩

private theorem exists_some_left (h : Option.Rel R a b) {y : Node} (hy : b = some y) :
    ∃ x, a = some x ∧ R x y := by
  subst hy
  cases h with
  | some hr => exact ⟨_, rfl, hr⟩

end Options

section Lists

variable {α β : Type} {R : α → β → Prop} {as : List α} {bs : List β}

private theorem exists_mem_right (h : List.Forall₂ R as bs) {a : α} (ha : a ∈ as) :
    ∃ b ∈ bs, R a b := by
  induction h with
  | nil => cases ha
  | cons hr _ ih =>
      rcases List.mem_cons.mp ha with rfl | ha
      · exact ⟨_, List.mem_cons_self, hr⟩
      · obtain ⟨b, hb, hr⟩ := ih ha
        exact ⟨b, List.mem_cons_of_mem _ hb, hr⟩

private theorem exists_mem_left (h : List.Forall₂ R as bs) {b : β} (hb : b ∈ bs) :
    ∃ a ∈ as, R a b :=
  exists_mem_right (R := flip R) h.flip hb

private theorem getElem?_rel (h : List.Forall₂ R as bs) (i : Nat) :
    Option.Rel R as[i]? bs[i]? := by
  induction h generalizing i with
  | nil => exact .none
  | cons hr _ ih =>
      cases i with
      | zero => exact .some hr
      | succ i => exact ih i

private theorem getLast?_rel (h : List.Forall₂ R as bs) :
    Option.Rel R as.getLast? bs.getLast? := by
  rw [List.getLast?_eq_getElem?, List.getLast?_eq_getElem?, h.length_eq]
  exact getElem?_rel h _

private theorem zipIdx_forall₂ (h : List.Forall₂ R as bs) (i : Nat) :
    List.Forall₂ (fun a b => R a.1 b.1 ∧ b.2 = a.2) (as.zipIdx i) (bs.zipIdx i) := by
  induction h generalizing i with
  | nil => exact .nil
  | cons hr _ ih => exact .cons ⟨hr, rfl⟩ (ih (i + 1))

end Lists

namespace Variation

variable {R : Node → Node → Prop} {new : Node → Prop} (V : Variation R new)
variable {n m : Node} {e : Edge}

include V

/-! ## Releases -/

theorem isSelector_eq (h : R n m) : m.form.isSelector = n.form.isSelector := by
  rcases (V.form h).eq_or with heq | ⟨_, _, _, _, hn, hm, -⟩
  · rw [heq]
  · rw [hn, hm]
    rfl

theorem callee_rel (h : R n m) :
    Option.Rel R ((n.child? .callee).map Node.unparen) ((m.child? .callee).map Node.unparen) := by
  have hcallee := V.child?_rel (e := .callee) h (Form.not_lists (by decide))
  generalize n.child? .callee = a at hcallee ⊢
  generalize m.child? .callee = b at hcallee ⊢
  cases hcallee with
  | none => exact .none
  | some hr => exact .some (V.unparen_rel hr)

theorem releases_eq (h : R n m) (c : Closers) (v : ObjectId) :
    c.releases m v = c.releases n v := by
  have hcallee := V.callee_rel h
  rw [Closers.releases, Closers.releases]
  generalize (n.child? .callee).map Node.unparen = a at hcallee ⊢
  generalize (m.child? .callee).map Node.unparen = b at hcallee ⊢
  cases hcallee with
  | none => rfl
  | @some a b hr =>
      have hoperand := bind_eq_of_rel
        (V.child?_rel (e := .operand) hr (Form.not_lists (by decide)))
        (fun x => x.unparen.reference?) fun x y hxy => V.reference?_eq (V.unparen_rel hxy)
      simp only [V.isSelector_eq hr, hoperand]
      cases hform : a.form.isSelector with
      | false => rfl
      | true => rw [V.selected hr hform]

theorem releaseCall_iff (h : R n m) {c : Closers} {v : ObjectId} :
    c.ReleaseCall v m ↔ c.ReleaseCall v n := by
  rw [← Closers.releases_iff, ← Closers.releases_iff, V.releases_eq h]

/-- Function literals that release keep doing so in a variant. -/
theorem releaseLiteral_right (h : R n m) {c : Closers} {v : ObjectId}
    (hn : c.ReleaseLiteral v n) : c.ReleaseLiteral v m := by
  obtain ⟨literal, hcalls, hform, body, path, inner, hbody, hreaches, hinner, hcall⟩ := hn
  obtain ⟨hcalls, -⟩ := Node.calls_iff.mp hcalls
  obtain ⟨literal', hcalls', hliteral⟩ := exists_some_right (V.callee_rel h) hcalls
  have hform' : literal'.form = .funcLit := (V.form_eq_iff hliteral (by simp)).mpr hform
  have hlists := Form.not_lists_of_eq hform (by simp) .body
  obtain ⟨body', hbody', hr⟩ := exists_some_right (V.child?_rel hliteral hlists) hbody
  obtain ⟨path', inner', hreaches', -, hr⟩ := V.reaches_right hr hreaches
  refine ⟨literal', Node.calls_iff.mpr ⟨hcalls', by simp [hform']⟩, hform', body', path', inner',
    hbody', hreaches', ?_, ?_⟩
  · exact (V.form_eq_iff hr (by simp)).mpr hinner
  · exact (V.releaseCall_iff hr).mpr hcall

/-- Function literals do not release by anything new, if that calls nothing. -/
theorem releaseLiteral_left (hnew : ∀ x, new x → x.CallsNothing) (h : R n m) {c : Closers}
    {v : ObjectId} (hm : c.ReleaseLiteral v m) : c.ReleaseLiteral v n := by
  obtain ⟨literal', hcalls', hform', body', path', inner', hbody', hreaches', hinner', hcall'⟩ := hm
  obtain ⟨hcalls', -⟩ := Node.calls_iff.mp hcalls'
  obtain ⟨literal, hcalls, hliteral⟩ := exists_some_left (V.callee_rel h) hcalls'
  have hform : literal.form = .funcLit := (V.form_eq_iff hliteral (by simp)).mp hform'
  have hlists := Form.not_lists_of_eq hform (by simp) .body
  obtain ⟨body, hbody, hr⟩ := exists_some_left (V.child?_rel hliteral hlists) hbody'
  rcases V.reaches_left hr hreaches' with ⟨path, inner, hreaches, -, hr⟩ | ⟨x, path, hx, hreaches⟩
  · refine ⟨literal, Node.calls_iff.mpr ⟨hcalls, by simp [hform]⟩, hform, body, path, inner,
      hbody, hreaches, ?_, ?_⟩
    · exact (V.form_eq_iff hr (by simp)).mp hinner'
    · exact (V.releaseCall_iff hr).mp hcall'
  · exact absurd hinner' ((hnew x hx).1 path inner' hreaches)

theorem defersRelease_right {stmt stmt' : Node} (hstmt : R stmt stmt') (h : R n m) {c : Closers}
    {v : ObjectId} (hn : c.defersRelease stmt v n) : c.defersRelease stmt' v m := by
  obtain ⟨call, ⟨hform, hcall⟩, hrelease⟩ := Closers.defersRelease_iff.mp hn
  obtain ⟨call', hcall', hr⟩ :=
    exists_some_right (V.child?_rel h (Form.not_lists (by decide))) hcall
  refine Closers.defersRelease_iff.mpr
    ⟨call', ⟨(V.form_eq_iff h (by simp)).mpr hform, hcall'⟩, ?_⟩
  rw [V.span hstmt, V.span h, V.releaseCall_iff hr]
  exact hrelease.imp_right (V.releaseLiteral_right hr)

/-- Variants of statements defer no other releases, if nothing new calls anything. -/
theorem defersRelease_left (hnew : ∀ x, new x → x.CallsNothing) {stmt stmt' : Node}
    (hstmt : R stmt stmt') (h : R n m) {c : Closers} {v : ObjectId}
    (hm : c.defersRelease stmt' v m) : c.defersRelease stmt v n := by
  obtain ⟨call', ⟨hform, hcall'⟩, hrelease⟩ := Closers.defersRelease_iff.mp hm
  obtain ⟨call, hcall, hr⟩ :=
    exists_some_left (V.child?_rel h (Form.not_lists (by decide))) hcall'
  refine Closers.defersRelease_iff.mpr
    ⟨call, ⟨(V.form_eq_iff h (by simp)).mp hform, hcall⟩, ?_⟩
  rw [V.span hstmt, V.span h, V.releaseCall_iff hr] at hrelease
  exact hrelease.imp_right (V.releaseLiteral_left hnew hr)

/-! ## Sites -/

/-- The lists of statements that belong to a site and to its variant hang on a node and its variant
by the same edge, if there are any. -/
theorem statements_cases {s s' : Site} (h : s.Varies R s') :
    s.statements = [] ∧ s'.statements = [] ∨
      ∃ n m e, R n m ∧ s.statements = n.under e ∧ s'.statements = m.under e := by
  obtain ⟨parent, n⟩ := s
  obtain ⟨parent', m⟩ := s'
  obtain ⟨hparent, hnode⟩ := h
  cases hparent with
  | none => exact .inl ⟨rfl, rfl⟩
  | @some p p' hp =>
      have hedge : m.edge = n.edge := V.edge hnode
      simp only [Site.statements, hedge]
      rcases (V.form hp).eq_or with heq | ⟨_, _, _, _, hn, hm, -⟩
      · rw [heq]
        split
        · exact .inr ⟨p, p', .list, hp, rfl, rfl⟩
        · exact .inr ⟨p, p', .body, hp, rfl, rfl⟩
        · exact .inr ⟨p, p', .body, hp, rfl, rfl⟩
        · exact .inr ⟨p, p', .body, hp, rfl, rfl⟩
        · rename_i hform _
          have hbody := V.child?_rel hp (Form.not_lists_of_eq hform (by simp) .body)
          generalize p.child? .body = a at hbody ⊢
          generalize p'.child? .body = b at hbody ⊢
          cases hbody with
          | none => exact .inl ⟨rfl, rfl⟩
          | @some body body' hr => exact .inr ⟨body, body', .list, hr, rfl, rfl⟩
        · exact .inl ⟨rfl, rfl⟩
      · rw [hn, hm]
        exact .inl ⟨rfl, rfl⟩

theorem isReleased_right {s s' : Site} (h : s.Varies R s') (hid : R n m) {c : Closers}
    {p : Program} (hreleased : c.isReleased p s n) : c.isReleased p s' m := by
  rw [Closers.isReleased] at hreleased ⊢
  rw [V.object?_eq hid]
  split at hreleased
  · cases hreleased
  · rw [Bool.and_eq_true, List.any_eq_true] at hreleased ⊢
    obtain ⟨hvar, d, hd, hdefers⟩ := hreleased
    refine ⟨hvar, ?_⟩
    rcases V.statements_cases h with ⟨hnil, -⟩ | ⟨p, p', e, hr, hlist, hlist'⟩
    · rw [hnil] at hd
      cases hd
    · rw [hlist] at hd
      obtain ⟨d', hd', hd⟩ := V.exists_mem_under hr hd
      exact ⟨d', hlist' ▸ hd', V.defersRelease_right h.2 hd hdefers⟩

/-- No other variables are released in a variant, if nothing new calls anything. -/
theorem isReleased_left (hnew : ∀ x, new x → x.CallsNothing) {s s' : Site} (h : s.Varies R s')
    (hid : R n m) {c : Closers} {p : Program} (hreleased : c.isReleased p s' m) :
    c.isReleased p s n := by
  rw [Closers.isReleased] at hreleased ⊢
  rw [V.object?_eq hid] at hreleased
  split at hreleased
  · cases hreleased
  · rw [Bool.and_eq_true, List.any_eq_true] at hreleased ⊢
    obtain ⟨hvar, d', hd', hdefers⟩ := hreleased
    refine ⟨hvar, ?_⟩
    rcases V.statements_cases h with ⟨-, hnil⟩ | ⟨p, p', e, hr, hlist, hlist'⟩
    · rw [hnil] at hd'
      cases hd'
    · rw [hlist'] at hd'
      rcases V.exists_mem_under_or_new hr hd' with ⟨d, hd, hr⟩ | hx
      · exact ⟨d, hlist ▸ hd, V.defersRelease_left hnew h.2 hr hdefers⟩
      · obtain ⟨call, hcall, -⟩ := Closers.defersRelease_iff.mp hdefers
        exact absurd hcall ((hnew d' hx).2 call)

/-! ## Targets -/

theorem staticType?_eq (h : R n m) (p : Program) : p.staticType? m = p.staticType? n := by
  rw [Program.staticType?, Program.staticType?, V.type h, V.object?_eq h]

theorem targetKind_eq (h : R n m) (p : Program) : p.targetKind m = p.targetKind n := by
  have hr := V.unparen_rel h
  have hselected := bind_eq_of_rel (V.child?_rel (e := .selected) hr (Form.not_lists (by decide)))
    Node.reference? fun x y hxy => V.reference?_eq hxy
  rw [Program.targetKind, Program.targetKind, V.object?_eq hr, hselected]
  rcases (V.form hr).eq_or with heq | ⟨_, _, _, _, hn, hm, -⟩
  · rw [heq]
  · rw [hn, hm]

/-- Targets and values side by side have variants side by side. -/
theorem pair_forall₂ {ts ts' vs vs' : List Node} (hts : List.Forall₂ R ts ts')
    (hvs : List.Forall₂ R vs vs') :
    List.Forall₂ (Target.Varies R) (Target.pair ts vs) (Target.pair ts' vs') := by
  rw [Target.pair, Target.pair, List.forall₂_map_left_iff, List.forall₂_map_right_iff]
  have hkept : List.Forall₂ (fun a b => R a.1 b.1 ∧ b.2 = a.2)
      (ts.zipIdx.filter fun t => !t.1.isBlank) (ts'.zipIdx.filter fun t => !t.1.isBlank) := by
    refine List.rel_filter ?_ (zipIdx_forall₂ hts 0)
    intro a b hab
    show (!a.1.isBlank) = true ↔ (!b.1.isBlank) = true
    rw [V.isBlank_eq hab.1]
  refine hkept.imp ?_
  rintro ⟨t, i⟩ ⟨t', i'⟩ ⟨hr, hi⟩
  exact ⟨hr, hvs, hi, hts.length_eq.symm⟩

theorem assigned_forall₂ (h : R n m) :
    List.Forall₂ (Target.Varies R) (Target.assigned n) (Target.assigned m) :=
  V.pair_forall₂ (V.under_forall₂ h (Form.not_lists (by decide)))
    (V.under_forall₂ h (Form.not_lists (by decide)))

theorem ofSpec_forall₂ (h : R n m) :
    List.Forall₂ (Target.Varies R) (Target.ofSpec n) (Target.ofSpec m) := by
  have hnames := V.under_forall₂ (e := .names) h (Form.not_lists (by decide))
  have hvalues := V.under_forall₂ (e := .values) h (Form.not_lists (by decide))
  have hempty : (m.under .values).isEmpty = (n.under .values).isEmpty := by
    rw [Bool.eq_iff_iff, List.isEmpty_iff_length_eq_zero, List.isEmpty_iff_length_eq_zero,
      hvalues.length_eq]
  have hform : m.form = .valueSpec ↔ n.form = .valueSpec := V.form_eq_iff h (by simp)
  simp only [Target.ofSpec, hform, hempty]
  split
  · exact V.pair_forall₂ hnames hvalues
  · exact .nil

theorem declared_forall₂ (h : R n m) :
    List.Forall₂ (Target.Varies R) (Target.declared n) (Target.declared m) := by
  have hdecl := V.child?_rel (e := .decl) h (Form.not_lists (by decide))
  rw [Target.declared, Target.declared]
  generalize n.child? .decl = a at hdecl ⊢
  generalize m.child? .decl = b at hdecl ⊢
  cases hdecl with
  | none => exact .nil
  | @some d d' hr =>
      have hform : d'.form = .genDecl .var ↔ d.form = .genDecl .var := V.form_eq_iff hr (by simp)
      simp only [hform]
      split
      · exact List.rel_flatMap (V.under_forall₂ hr (Form.not_lists (by decide)))
          fun _ _ hspec => V.ofSpec_forall₂ hspec
      · exact .nil

/-- The targets of a statement agree with those of a variant place by place. -/
theorem ofStatement_forall₂ (h : R n m) :
    List.Forall₂ (Target.Varies R) (Target.ofStatement n) (Target.ofStatement m) := by
  rw [Target.ofStatement, Target.ofStatement]
  rcases (V.form h).eq_or with heq | ⟨_, _, _, _, hn, hm, -⟩
  · rw [heq]
    split
    · exact V.declared_forall₂ h
    · exact V.assigned_forall₂ h
    · exact .nil
  · rw [hn, hm]
    exact .nil

theorem receivedType?_eq {t t' : Target} (h : t.Varies R t') (p : Program) (names : List String) :
    (p.judge names).receivedType? t'.share = (p.judge names).receivedType? t.share := by
  have hlength := h.values.length_eq
  have htype : ∀ i : Nat, (t'.share.values[i]?).bind p.staticType? =
      (t.share.values[i]?).bind p.staticType? := by
    intro i
    exact bind_eq_of_rel (getElem?_rel h.values i) _ fun x y hxy => V.staticType?_eq hxy p
  have hhead : t'.share.values.head?.bind p.staticType? =
      t.share.values.head?.bind p.staticType? := by
    rw [List.head?_eq_getElem?, List.head?_eq_getElem?, htype]
  have hvalue : t'.share.value?.bind p.staticType? = t.share.value?.bind p.staticType? := by
    rw [Share.value?, Share.value?, h.index, h.count, hlength]
    split
    · exact htype _
    · rfl
  have hcomponent : t'.share.isComponent = t.share.isComponent := by
    rw [Share.isComponent, Share.isComponent, h.count, hlength]
  show (if t'.share.isComponent then
      ((t'.share.values.head?.bind p.staticType?).bind p.types.components?).bind
        (·[t'.share.index]?)
    else t'.share.value?.bind p.staticType?) = _
  rw [hhead, hvalue, hcomponent, h.index]
  rfl

theorem place_eq {s s' : Site} (h : s.Varies R s') {t t' : Target} (ht : t.Varies R t') :
    Judge.place s' t' = Judge.place s t := by
  rw [Judge.place, Judge.place, Judge.anchor, Judge.anchor, V.span h.2, V.span ht.node, ht.count]
  rcases (V.form h.2).eq_or with heq | ⟨_, _, _, _, hn, hm, -⟩
  · rw [heq]
  · rw [hn, hm]

/-! ## Verdicts -/

section Verdicts

variable {p : Program} {names : List String} {checks : Checks} {s s' : Site} {t t' : Target}

theorem acquires_eq (h : s.Varies R s') (ht : t.Varies R t') :
    (p.judge names).acquires checks s' t' = (p.judge names).acquires checks s t := by
  have hreceives : (p.judge names).receivesClosable t' = (p.judge names).receivesClosable t := by
    rw [Judge.receivesClosable, Judge.receivesClosable, V.receivedType?_eq ht]
  have hkind : (p.judge names).meaning.targetKind t'.node =
      (p.judge names).meaning.targetKind t.node := V.targetKind_eq ht.node p
  rw [Judge.acquires, Judge.acquires, hreceives, hkind, V.isIdent_eq ht.node]
  rcases (V.form h.2).eq_or with heq | ⟨_, _, _, _, hn, hm, -⟩
  · rw [heq]
  · rw [hn, hm]

/-- Whether a target is settled is decided by the release of a node, and for a variant in the same
way by the release of a variant of that node. -/
theorem settles_cases (h : s.Varies R s') (ht : t.Varies R t') :
    ∃ k k' isVariable, R k k' ∧
      (p.judge names).settles s t = (isVariable && (p.judge names).isReleased s k) ∧
      (p.judge names).settles s' t' = (isVariable && (p.judge names).isReleased s' k') := by
  rw [Judge.settles, Judge.settles, V.isIdent_eq (V.unparen_rel ht.node)]
  rcases (V.form h.2).eq_or with heq | ⟨_, _, _, _, hn, hm, -⟩
  · rw [heq]
    split
    · exact ⟨_, _, _, V.unparen_rel ht.node, rfl, rfl⟩
    · exact ⟨_, _, true, ht.node, rfl, rfl⟩
  · rw [hn, hm]
    exact ⟨_, _, true, ht.node, rfl, rfl⟩

theorem settles_right (h : s.Varies R s') (ht : t.Varies R t')
    (hsettles : (p.judge names).settles s t) : (p.judge names).settles s' t' := by
  obtain ⟨k, k', isVariable, hr, hk, hk'⟩ := V.settles_cases h ht
  rw [hk, Bool.and_eq_true] at hsettles
  rw [hk', Bool.and_eq_true]
  exact hsettles.imp_right (V.isReleased_right h hr)

theorem settles_left (hnew : ∀ x, new x → x.CallsNothing) (h : s.Varies R s')
    (ht : t.Varies R t') (hsettles : (p.judge names).settles s' t') :
    (p.judge names).settles s t := by
  obtain ⟨k, k', isVariable, hr, hk, hk'⟩ := V.settles_cases h ht
  rw [hk', Bool.and_eq_true] at hsettles
  rw [hk, Bool.and_eq_true]
  exact hsettles.imp_right (V.isReleased_left hnew h hr)

/-- What is found at a variant of a site is found at the site. -/
theorem verdict_left {span : Span} (h : s.Varies R s')
    (hs : ∃ x ∈ (p.judge names).verdict checks s', x.span = span) :
    ∃ x ∈ (p.judge names).verdict checks s, x.span = span := by
  obtain ⟨t', ht', hplace⟩ := Judge.exists_mem_verdict_iff.mp hs
  obtain ⟨ht', hacquires, hsettles⟩ := Judge.mem_reportable_iff.mp ht'
  obtain ⟨t, ht, hr⟩ := exists_mem_left (V.ofStatement_forall₂ h.2) ht'
  refine Judge.exists_mem_verdict_iff.mpr ⟨t, Judge.mem_reportable_iff.mpr ⟨ht, ?_, ?_⟩, ?_⟩
  · rwa [← V.acquires_eq h hr]
  · exact fun hsettled => hsettles (V.settles_right h hr hsettled)
  · rwa [← V.place_eq h hr]

/-- What is found at a site is found at a variant of it, if nothing new calls anything. -/
theorem verdict_right (hnew : ∀ x, new x → x.CallsNothing) {span : Span} (h : s.Varies R s')
    (hs : ∃ x ∈ (p.judge names).verdict checks s, x.span = span) :
    ∃ x ∈ (p.judge names).verdict checks s', x.span = span := by
  obtain ⟨t, ht, hplace⟩ := Judge.exists_mem_verdict_iff.mp hs
  obtain ⟨ht, hacquires, hsettles⟩ := Judge.mem_reportable_iff.mp ht
  obtain ⟨t', ht', hr⟩ := exists_mem_right (V.ofStatement_forall₂ h.2) ht
  refine Judge.exists_mem_verdict_iff.mpr ⟨t', Judge.mem_reportable_iff.mpr ⟨ht', ?_, ?_⟩, ?_⟩
  · rwa [V.acquires_eq h hr]
  · exact fun hsettled => hsettles (V.settles_left hnew h hr hsettled)
  · rwa [V.place_eq h hr]

end Verdicts

/-! ## Files -/

theorem passedOver_iff (h : R n m) : m.PassedOver ↔ n.PassedOver := by
  simp only [Node.PassedOver]
  refine exists_congr fun doc => ?_
  rw [V.form_eq_iff h (by simp)]
  refine and_congr_right fun hform => or_congr_left ?_
  have hbody := V.child?_rel h (Form.not_lists_of_eq hform (by simp) .body)
  generalize n.child? .body = a at hbody ⊢
  generalize m.child? .body = b at hbody ⊢
  cases hbody with
  | none => rfl
  | some _ => simp

/-- All of a way is entered if all of its variant is. -/
theorem forall_not_passedOver_iff {path path' : List Node} (h : List.Forall₂ R path path') :
    (∀ a ∈ path', ¬a.PassedOver) ↔ ∀ a ∈ path, ¬a.PassedOver := by
  induction h with
  | nil => simp
  | cons hr _ ih => simp only [List.forall_mem_cons, V.passedOver_iff hr, ih]

section Files

variable {c : Config} {p : Program} {names : List String} {decls decls' : List Node}

/-- What is found in the variant of a file is found in the file, if nothing new binds anything. -/
theorem foundSpans_left (hnew : ∀ x, new x → x.BindsNothing) (h : List.Forall₂ R decls decls')
    (f : SourceFile) :
    c.foundSpans (p.judge names) (f.withDecls decls') ⊆
      c.foundSpans (p.judge names) (f.withDecls decls) := by
  intro span hspan
  rw [Config.mem_foundSpans_iff_reaches] at hspan ⊢
  obtain ⟨decl', hdecl', ancestors', n', hreaches, hbinds, hentered, hfound⟩ := hspan
  obtain ⟨decl, hdecl, hr⟩ := exists_mem_left h hdecl'
  rcases V.reaches_left hr hreaches with
    ⟨ancestors, n, hreaches, hpath, hn⟩ | ⟨x, path, hx, hreaches⟩
  · have hsite : Site.Varies R ⟨ancestors.getLast?, n⟩ ⟨ancestors'.getLast?, n'⟩ :=
      ⟨getLast?_rel hpath, hn⟩
    obtain ⟨found, hmem, hspan⟩ := V.verdict_left hsite hfound
    exact ⟨decl, hdecl, ancestors, n, hreaches, Judge.form_of_mem_verdict hmem,
      (V.forall_not_passedOver_iff hpath).mp hentered, found, hmem, hspan⟩
  · exact absurd hbinds (hnew x hx path n' hreaches)

/-- What is found in a file is found in its variant, if nothing new calls anything. -/
theorem foundSpans_right (hnew : ∀ x, new x → x.CallsNothing) (h : List.Forall₂ R decls decls')
    (f : SourceFile) :
    c.foundSpans (p.judge names) (f.withDecls decls) ⊆
      c.foundSpans (p.judge names) (f.withDecls decls') := by
  intro span hspan
  rw [Config.mem_foundSpans_iff_reaches] at hspan ⊢
  obtain ⟨decl, hdecl, ancestors, n, hreaches, -, hentered, hfound⟩ := hspan
  obtain ⟨decl', hdecl', hr⟩ := exists_mem_right h hdecl
  obtain ⟨ancestors', n', hreaches', hpath, hn⟩ := V.reaches_right hr hreaches
  have hsite : Site.Varies R ⟨ancestors.getLast?, n⟩ ⟨ancestors'.getLast?, n'⟩ :=
    ⟨getLast?_rel hpath, hn⟩
  obtain ⟨found, hmem, hspan⟩ := V.verdict_right hnew hsite hfound
  exact ⟨decl', hdecl', ancestors', n', hreaches', Judge.form_of_mem_verdict hmem,
    (V.forall_not_passedOver_iff hpath).mpr hentered, found, hmem, hspan⟩

/-- Files that cannot be opened are reported like their variants. -/
theorem unknown_eq (h : List.Forall₂ R decls decls') (f : SourceFile) :
    (f.withDecls decls').unknown = (f.withDecls decls).unknown := by
  have hspan : (f.withDecls decls').span = (f.withDecls decls).span := by
    have hlast := getLast?_rel h
    simp only [SourceFile.span, SourceFile.withDecls, Span.mk.injEq, true_and]
    generalize decls.getLast? = a at hlast ⊢
    generalize decls'.getLast? = b at hlast ⊢
    cases hlast with
    | none => rfl
    | some hr => exact congrArg Span.stop (V.span hr)
  rw [SourceFile.unknown, SourceFile.unknown, hspan]
  rfl

/-- The variant of a file adds nothing to the report that the file does not add, if nothing new
binds anything. -/
theorem addition_sublist (hnew : ∀ x, new x → x.BindsNothing) (h : List.Forall₂ R decls decls')
    (f : SourceFile) :
    (c.addition (p.judge names) (f.withDecls decls')).Sublist
      (c.addition (p.judge names) (f.withDecls decls)) := by
  apply Config.addition_sublist f decls' decls (V.unknown_eq h f) rfl
  refine Config.reportedSpans_sublist f decls' decls rfl rfl ?_
  exact V.foundSpans_left hnew h f

/-- The variant of a file adds to the report what the file adds, if nothing new binds or calls
anything. -/
theorem addition_eq (hbinds : ∀ x, new x → x.BindsNothing) (hcalls : ∀ x, new x → x.CallsNothing)
    (h : List.Forall₂ R decls decls') (f : SourceFile) :
    c.addition (p.judge names) (f.withDecls decls') =
      c.addition (p.judge names) (f.withDecls decls) := by
  apply List.Sublist.antisymm (V.addition_sublist hbinds h f)
  apply Config.addition_sublist f decls decls' (V.unknown_eq h f).symm rfl
  refine Config.reportedSpans_sublist f decls decls' rfl rfl ?_
  exact V.foundSpans_right hcalls h f

end Files

end Variation

end Unclosed
