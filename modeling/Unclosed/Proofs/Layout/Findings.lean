import Unclosed.Proofs.Comparison
import Unclosed.Proofs.Layout

/-!
# Findings of files that are laid out

Findings are reported at targets or, for single assignments, at statements, and no two of them at the
same place if the file is laid out as a text is.  So no finding is lost when repetitions are left
out.
-/

namespace Unclosed

/-! ## The places of one statement -/

namespace Target

variable {n v : Node} {e : Edge} {values : List Node} {t : Target}

/-- Targets and values side by side keep the order of the targets. -/
theorem map_pair_sublist (targets values : List Node) :
    ((pair targets values).map Target.node).Sublist targets := by
  have hfilter : ((targets.zipIdx.filter fun t => !t.1.isBlank).map Prod.fst).Sublist
      (targets.zipIdx.map Prod.fst) := List.filter_sublist.map _
  rw [List.zipIdx_map_fst] at hfilter
  rw [pair, List.map_map]
  exact hfilter

theorem length_pair_le (targets values : List Node) :
    (pair targets values).length ≤ targets.length := by
  simpa using (map_pair_sublist targets values).length_le

theorem count_of_mem_pair {targets : List Node} (h : t ∈ pair targets values) :
    t.share.count = targets.length := by
  obtain ⟨u, -, rfl⟩ := List.mem_map.mp h
  rfl

theorem mem_of_mem_pair (h : t ∈ pair (n.under e) values) :
    t.node ∈ n.children ∧ t.node.edge = e := by
  have ht : t.node ∈ n.under e := (map_pair_sublist _ _).subset (List.mem_map_of_mem h)
  simpa [Node.under] using ht

/-- Only some parts of a declaration have targets. -/
theorem ofSpec_cases (v : Node) :
    ofSpec v = [] ∨
      v.form = .valueSpec ∧ ofSpec v = pair (v.under .names) (v.under .values) := by
  rw [ofSpec]
  split
  · rename_i h
    exact .inr ⟨by simp_all, rfl⟩
  · exact .inl rfl

/-- Only declarations of variables have targets. -/
theorem declared_cases (n : Node) :
    declared n = [] ∨
      ∃ d ∈ n.children, d.form = .genDecl .var ∧
        declared n = (d.under .specs).flatMap ofSpec := by
  rw [declared]
  split
  · exact .inl rfl
  · rename_i d hd
    split
    · rename_i hgen
      exact .inr ⟨d, List.mem_of_find?_eq_some hd, hgen, rfl⟩
    · exact .inl rfl

theorem mem_ofSpec (h : t ∈ ofSpec v) :
    v.form = .valueSpec ∧ t.node ∈ v.children ∧ t.node.edge = .names := by
  rcases ofSpec_cases v with hnil | ⟨hspec, hpair⟩
  · rw [hnil] at h
    cases h
  · rw [hpair] at h
    exact ⟨hspec, mem_of_mem_pair h⟩

theorem solid_of_mem_ofSpec (hv : v.LaidOut) (h : t ∈ ofSpec v) :
    t.node.span.Within v.span ∧ t.node.span.start < t.node.span.stop := by
  obtain ⟨hspec, ht, hedge⟩ := mem_ofSpec h
  refine ⟨hv.arranged.within t.node ht, hv.arranged.solid t.node ht ?_⟩
  rw [hspec, hedge]
  rfl

/-- The targets of a statement are found in its tree. -/
theorem binds_of_mem_ofStatement (h : t ∈ ofStatement n) : n.Binds t.node := by
  rw [ofStatement] at h
  split at h
  · rename_i hform
    rcases declared_cases n with hnil | ⟨d, hd, hgen, hdeclared⟩
    · rw [hnil] at h
      cases h
    · rw [hdeclared] at h
      obtain ⟨v, hv, ht⟩ := List.mem_flatMap.mp h
      obtain ⟨hspec, ht, hedge⟩ := mem_ofSpec ht
      exact .declared hform hd hgen (List.mem_of_mem_filter hv) hspec ht hedge
  · rename_i op hform
    obtain ⟨ht, hedge⟩ := mem_of_mem_pair h
    exact .assigned hform ht hedge
  · cases h

/-- The targets on an edge have different spans. -/
theorem nodup_pair (hn : n.LaidOut) (he : n.form.targets? = some e) :
    ((pair (n.under e) values).map fun t => t.node.span).Nodup := by
  have hf : n.form.isFunction = false := by
    cases hform : n.form <;> simp_all [Form.isFunction, Form.targets?]
  have hunder : (n.under e).Pairwise fun a b => a.span ≠ b.span := by
    refine ((hn.pairwise_apart hf).sublist List.filter_sublist).imp_of_mem ?_
    intro a b ha hb hab
    obtain ⟨ha, hedge⟩ := List.mem_filter.mp ha
    refine hab.ne (.refl _) (.refl _) (hn.arranged.solid a ha ?_)
    rw [he, of_decide_eq_true hedge]
  have hspans : ((pair (n.under e) values).map Target.node).Pairwise fun a b => a.span ≠ b.span :=
    hunder.sublist (map_pair_sublist _ _)
  rw [List.pairwise_map] at hspans
  exact List.pairwise_map.mpr hspans

theorem nodup_ofSpec (hv : v.LaidOut) : ((ofSpec v).map fun t => t.node.span).Nodup := by
  rcases ofSpec_cases v with hnil | ⟨hspec, hpair⟩
  · rw [hnil]
    exact .nil
  · rw [hpair]
    exact nodup_pair hv (hspec ▸ rfl)

/-- The targets of a declaration have different spans, as its parts lie apart. -/
theorem nodup_flatMap_ofSpec {d : Node} (hd : d.LaidOut) (hf : d.form.isFunction = false) :
    (((d.under .specs).flatMap ofSpec).map fun t => t.node.span).Nodup := by
  have hlaid : ∀ v ∈ d.under .specs, v.LaidOut := fun v hv => hd.child (List.mem_of_mem_filter hv)
  have hapart : (d.under .specs).Pairwise fun a b => a.span.Apart b.span :=
    (hd.pairwise_apart hf).sublist List.filter_sublist
  rw [List.map_flatMap, List.nodup_flatMap]
  refine ⟨fun v hv => nodup_ofSpec (hlaid v hv), hapart.imp_of_mem ?_⟩
  intro v v' hv hv' hapart x hx hx'
  obtain ⟨t, ht, rfl⟩ := List.mem_map.mp hx
  obtain ⟨t', ht', heq⟩ := List.mem_map.mp hx'
  obtain ⟨hwithin, hsolid⟩ := solid_of_mem_ofSpec (hlaid v hv) ht
  have hwithin' := (solid_of_mem_ofSpec (hlaid v' hv') ht').1
  exact hapart.ne hwithin hwithin' hsolid heq.symm

theorem nodup_ofStatement (hn : n.LaidOut) :
    ((ofStatement n).map fun t => t.node.span).Nodup := by
  rw [ofStatement]
  split
  · rcases declared_cases n with hnil | ⟨d, hd, hgen, hdeclared⟩
    · rw [hnil]
      exact .nil
    · rw [hdeclared]
      exact nodup_flatMap_ofSpec (hn.child hd) (hgen ▸ rfl)
  · rename_i op hform
    exact nodup_pair hn (hform ▸ rfl)
  · exact .nil

end Target

namespace Judge

variable {j : Judge} {checks : Checks} {s : Site} {t : Target}

/-- Targets are reported at places of their statement. -/
theorem ownPlace_place (h : t ∈ j.reportable checks s) : s.node.OwnPlace (place s t) := by
  refine ⟨t.node, Target.binds_of_mem_ofStatement (mem_reportable_iff.mp h).1, ?_⟩
  rw [place]
  split
  · rw [anchor]
    split
    · exact .inl rfl
    · exact .inr rfl
  · exact .inl rfl

/-- The targets of a statement are reported at different places: a target is only reported at the
statement if there is no other. -/
theorem nodup_places (hs : s.node.LaidOut) : ((j.reportable checks s).map (place s)).Nodup := by
  suffices h : ((Target.ofStatement s.node).map (place s)).Nodup from
    h.sublist (List.filter_sublist.map _)
  have hspans := Target.nodup_ofStatement hs
  by_cases hsingle : (Target.ofStatement s.node).length ≤ 1
  · match Target.ofStatement s.node, hsingle with
    | [], _ => exact .nil
    | [t], _ => exact List.nodup_singleton _
  · suffices hplace : ∀ t ∈ Target.ofStatement s.node, place s t = t.node.span by
      rwa [List.map_congr_left hplace]
    intro t ht
    rw [place]
    split
    · rename_i hform
      rw [Target.ofStatement, hform] at ht hsingle
      rw [anchor, if_pos]
      rw [Target.count_of_mem_pair ht]
      exact lt_of_lt_of_le (not_le.mp hsingle) (Target.length_pair_le _ _)
    · rfl

end Judge

/-! ## The places of a tree -/

namespace Node

variable (j : Judge) (checks : Checks) (enter : Node → Bool) {n : Node} {x : Span}

/-- Where the targets in a tree are reported, given the parent of its root. -/
def places (parent : Option Node) (n : Node) : List Span :=
  (n.sites enter parent).flatMap fun s => (j.reportable checks s).map (Judge.place s)

variable {j checks enter} {parent : Option Node}

/-- The targets in a tree are reported at places in it. -/
theorem place_of_mem_places (h : x ∈ n.places j checks enter parent) : n.Place x := by
  obtain ⟨s, hs, hx⟩ := List.mem_flatMap.mp h
  obtain ⟨t, ht, rfl⟩ := List.mem_map.mp hx
  obtain ⟨path, hpath, -⟩ := mem_sites_iff.mp hs
  exact ⟨path, s.node, hpath, Judge.ownPlace_place ht⟩

/-- The places in a tree start with those of its root, and those in the children follow if it is
entered. -/
theorem places_eq (parent : Option Node) (n : Node) :
    n.places j checks enter parent =
      (j.reportable checks ⟨parent, n⟩).map (Judge.place ⟨parent, n⟩) ++
        if enter n then n.children.flatMap (places j checks enter (some n)) else [] := by
  rw [places, sites_eq, List.flatMap_cons]
  congr 1
  split
  · rw [sitesAll_eq_flatMap, List.flatMap_assoc]
    rfl
  · rfl

/-- Trees that lie apart share no place. -/
theorem Place.not_place_of_apart {m : Node} (hx : n.Place x) (hn : n.LaidOut) (hm : m.LaidOut)
    (hapart : n.span.Apart m.span) : ¬m.Place x := by
  intro hx'
  obtain ⟨hwithin, hsolid⟩ := hx.solid hn
  exact hapart.ne hwithin (hx'.solid hm).1 hsolid rfl

/-- Trees that share no place are reported at different places if each of them is. -/
theorem nodup_flatMap_places {ns : List Node}
    (hnodup : ∀ n ∈ ns, (n.places j checks enter parent).Nodup)
    (hapart : ns.Pairwise fun a b => ∀ x, a.Place x → ¬b.Place x) :
    (ns.flatMap (places j checks enter parent)).Nodup := by
  refine List.nodup_flatMap.mpr ⟨hnodup, hapart.imp ?_⟩
  intro a b hab x hx hx'
  exact hab x (place_of_mem_places hx) (place_of_mem_places hx')

/-- Siblings share no place. -/
theorem LaidOut.pairwise_not_place (hn : n.LaidOut) :
    n.children.Pairwise fun a b => ∀ x, a.Place x → ¬b.Place x := by
  refine hn.arranged.apart.imp_of_mem ?_
  rintro a b ha hb (hapart | ⟨hfunction, hheader, -⟩) x hx
  · exact hx.not_place_of_apart (hn.child ha) (hn.child hb) hapart
  · exact absurd hx (not_place_of_not_isStatement (hn.arranged.header hfunction a ha hheader))

theorem LaidOut.nodup_places (hn : n.LaidOut) (parent : Option Node) :
    (n.places j checks enter parent).Nodup := by
  induction n using childrenInduction generalizing parent with
  | step n ih =>
      rw [places_eq, List.nodup_append']
      refine ⟨Judge.nodup_places hn, ?_, ?_⟩
      · split
        · apply nodup_flatMap_places
          · intro m hm
            exact ih m hm (hn.child hm) (some n)
          · exact hn.pairwise_not_place
        · exact .nil
      · intro x hx hx'
        obtain ⟨t, ht, rfl⟩ := List.mem_map.mp hx
        split at hx'
        · obtain ⟨m, hm, hx'⟩ := List.mem_flatMap.mp hx'
          exact (Judge.ownPlace_place ht).not_place hn hm (place_of_mem_places hx')
        · cases hx'

end Node

/-! ## Files -/

/-- `f.LaidOut`: the declarations of the file are arranged as they are in a text. -/
@[mk_iff]
structure SourceFile.LaidOut (f : SourceFile) : Prop where
  decls : ∀ d ∈ f.decls, d.LaidOut
  apart : f.decls.Pairwise fun a b => a.span.Apart b.span

instance (f : SourceFile) : Decidable f.LaidOut :=
  decidable_of_iff' _ (SourceFile.laidOut_iff f)

namespace Config

/-- The findings of a file are at the places of its trees. -/
theorem map_span_found (c : Config) (j : Judge) (f : SourceFile) :
    (c.found j f).map Finding.span =
      f.decls.flatMap (Node.places j c.checks Node.isEntered none) := by
  have hverdict : ∀ s, (j.verdict c.checks s).map Finding.span =
      (j.reportable c.checks s).map (Judge.place s) := by
    intro s
    rw [Judge.verdict_eq_map, List.map_map]
    rfl
  rw [found, List.map_flatMap, SourceFile.sites, Node.sitesAll_eq_flatMap, List.flatMap_assoc]
  simp only [hverdict]
  rfl

/-- **No finding is lost.**  In a file that is laid out like a text all findings have different
spans.  So the sorted findings without repetitions are the findings as they were collected, up to
their order, and there are as many as reportable targets at the sites of the file. -/
theorem findings_collect (c : Config) (j : Judge) (f : SourceFile) (h : f.LaidOut) :
    ((c.collect j f .empty).waiting.map Finding.span).Nodup ∧
      (c.collect j f .empty).findings.Perm (c.collect j f .empty).waiting ∧
      (c.collect j f .empty).findings.length =
        (f.sites.flatMap (j.reportable c.checks)).length := by
  have hwaiting : (c.collect j f .empty).waiting = c.found j f := waiting_collect c j f .empty
  have hnodup : ((c.found j f).map Finding.span).Nodup := by
    rw [map_span_found]
    apply Node.nodup_flatMap_places
    · intro d hd
      exact (h.decls d hd).nodup_places none
    · refine h.apart.imp_of_mem ?_
      intro a b ha hb hapart x hx
      exact hx.not_place_of_apart (h.decls a ha) (h.decls b hb) hapart
  have hperm : (Finding.canonical (c.found j f)).Perm (c.found j f) :=
    Finding.canonical_perm hnodup
  rw [Backlog.findings, hwaiting]
  refine ⟨hnodup, hperm, ?_⟩
  rw [hperm.length_eq, found, List.length_flatMap, List.length_flatMap]
  simp only [Judge.verdict_eq_map, List.length_map]

end Config

namespace Sample

/-- `x, y = open(), func() { z := open() }`. -/
def nesting : Node :=
  ⟨.list, .assign .plain, ⟨24, 61⟩, none,
    [⟨.lhs, .ident "x" none (some 0), ⟨24, 25⟩, none, []⟩,
      ⟨.lhs, .ident "y" none none, ⟨27, 28⟩, none, []⟩,
      ⟨.rhs, .call, ⟨31, 37⟩, some (.entry 1),
        [⟨.callee, .ident "open" none none, ⟨31, 35⟩, none, []⟩]⟩,
      ⟨.rhs, .funcLit, ⟨39, 61⟩, none,
        [⟨.type, .funcType, ⟨39, 45⟩, none, []⟩,
          ⟨.body, .block, ⟨46, 61⟩, none,
            [⟨.list, .assign .define, ⟨48, 59⟩, none,
              [⟨.lhs, .ident "z" (some 2) none, ⟨48, 49⟩, none, []⟩,
                ⟨.rhs, .call, ⟨53, 59⟩, some (.entry 1),
                  [⟨.callee, .ident "open" none none, ⟨53, 57⟩, none, []⟩]⟩]⟩]⟩]⟩]⟩

/-- Both the target of the assignment and the variable in its value are kept. -/
theorem findings_collect_nesting :
    (file [nesting]).LaidOut ∧
      (Config.default.collect (program.judge Config.default.closers) (file [nesting])
        .empty).findings.length = 2 := by
  have hlaid : (file [nesting]).LaidOut := by decide +kernel
  obtain ⟨-, -, hlength⟩ := Config.findings_collect Config.default
    (program.judge Config.default.closers) (file [nesting]) hlaid
  refine ⟨hlaid, hlength.trans ?_⟩
  decide +kernel

end Sample

end Unclosed
