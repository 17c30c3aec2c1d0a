import Unclosed.Proofs.Variation.Report

/-!
# Adding statements

A statement that binds nothing can be added to any list of statements without a new finding: it can
only release what was bound before.  If it calls nothing either, then the report stays the same.
The list may stand anywhere in a file, also in the function literals that a release is looked for
in.
-/

namespace Unclosed

/-! ## Insertion in a tree -/

namespace Node

/-- `d.InsertedIn n m`: `m` is `n` with the statement `d` added to a list of statements in it. -/
inductive InsertedIn (d : Node) : Node → Node → Prop
  /-- The statement is added to a list of the node itself, at any place. -/
  | here {edge : Edge} {form : Form} {span : Span} {type : Option Ty} {before after : List Node} :
      form.Lists d.edge →
      InsertedIn d ⟨edge, form, span, type, before ++ after⟩
        ⟨edge, form, span, type, before ++ d :: after⟩
  /-- The list stands in a child. -/
  | inChild {edge : Edge} {form : Form} {span : Span} {type : Option Ty} {before after : List Node}
      {n m : Node} :
      InsertedIn d n m →
      InsertedIn d ⟨edge, form, span, type, before ++ n :: after⟩
        ⟨edge, form, span, type, before ++ m :: after⟩

namespace InsertedIn

variable {d n m : Node}

theorem edge_eq (h : d.InsertedIn n m) : m.edge = n.edge := by
  cases h <;> rfl

theorem form_eq (h : d.InsertedIn n m) : m.form = n.form := by
  cases h <;> rfl

/-- What is selected keeps its name, as selectors hold no statements themselves. -/
theorem selected_eq (h : d.InsertedIn n m) (hselector : n.form.isSelector) :
    (m.child? .selected).bind identName? = (n.child? .selected).bind identName? := by
  cases h with
  | @here edge form span type before after hlists =>
      simp only at hselector
      rcases Form.isSelector_iff.mp hselector with ⟨_, rfl⟩
      generalize d.edge = e at hlists
      cases hlists
  | @inChild _ _ _ _ before after n m h =>
      have hname : m.identName? = n.identName? := by
        rw [identName?, identName?, h.form_eq]
      simp only [child?, List.find?_append, List.find?_cons, h.edge_eq]
      cases before.find? (·.edge = .selected) with
      | some k => rfl
      | none =>
          by_cases hedge : n.edge = .selected
          · simp [hedge, hname]
          · simp [hedge]

end InsertedIn

end Node

/-- A node with itself, or with a statement added to a list in it, is a variation in which that
statement is new. -/
theorem variation_insertedIn (d : Node) :
    Variation (fun n m => m = n ∨ d.InsertedIn n m) (fun x => x = d) where
  edge := by
    rintro n m (rfl | h)
    · rfl
    · exact h.edge_eq
  span := by
    rintro n m (rfl | h)
    · rfl
    · cases h <;> rfl
  type := by
    rintro n m (rfl | h)
    · rfl
    · cases h <;> rfl
  form := by
    rintro n m (rfl | h)
    · exact .refl _
    · rw [h.form_eq]
      exact .refl _
  children := by
    have hsame : ∀ (new : Node → Prop) (ns : List Node),
        Grown (fun n m => m = n ∨ d.InsertedIn n m) new ns ns := by
      intro new ns
      exact .of_forall₂ (List.forall₂_same.mpr fun n _ => .inl rfl)
    rintro n m (rfl | h)
    · exact hsame _ _
    · cases h with
      | here hlists => exact (hsame _ _).append (.add ⟨hlists, rfl⟩ (hsame _ _))
      | inChild h => exact (hsame _ _).append (.keep (.inr h) (hsame _ _))
  selected := by
    rintro n m (rfl | h) hselector
    · rfl
    · exact h.selected_eq hselector

/-! ## Insertion in a file -/

namespace SourceFile

/-- `f.Inserts d f'`: `f'` is `f` with the statement `d` added to a list of statements in one of its
declarations. -/
def Inserts (f : SourceFile) (d : Node) (f' : SourceFile) : Prop :=
  ∃ before n m after, f.decls = before ++ n :: after ∧ d.InsertedIn n m ∧
    f' = f.withDecls (before ++ m :: after)

namespace Inserts

variable {d : Node} {f f' : SourceFile} {c : Config} {p : Program} {names : List String}

/-- All declarations but the one with the list stay the same. -/
theorem decls_forall₂ (h : f.Inserts d f') :
    f' = f.withDecls f'.decls ∧
      List.Forall₂ (fun n m => m = n ∨ d.InsertedIn n m) f.decls f'.decls := by
  obtain ⟨before, n, m, after, hdecls, h, rfl⟩ := h
  refine ⟨rfl, ?_⟩
  have hsame : ∀ ns : List Node, List.Forall₂ (fun n m => m = n ∨ d.InsertedIn n m) ns ns :=
    fun ns => List.forall₂_same.mpr fun n _ => .inl rfl
  rw [hdecls]
  exact List.rel_append (hsame _) (.cons (.inr h) (hsame _))

/-- A file with a statement added that binds nothing adds no more to the report. -/
theorem addition_sublist (h : f.Inserts d f') (hbinds : d.BindsNothing) :
    (c.addition (p.judge names) f').Sublist (c.addition (p.judge names) f) := by
  obtain ⟨hf', hdecls⟩ := h.decls_forall₂
  rw [hf']
  refine (variation_insertedIn d).addition_sublist ?_ hdecls f
  rintro _ rfl
  exact hbinds

/-- A file with a statement added that binds and calls nothing adds the same to the report. -/
theorem addition_eq (h : f.Inserts d f') (hbinds : d.BindsNothing) (hcalls : d.CallsNothing) :
    c.addition (p.judge names) f' = c.addition (p.judge names) f := by
  obtain ⟨hf', hdecls⟩ := h.decls_forall₂
  rw [hf']
  refine (variation_insertedIn d).addition_eq ?_ ?_ hdecls f
  · rintro _ rfl
    exact hbinds
  · rintro _ rfl
    exact hcalls

end Inserts

end SourceFile

namespace Config

/-- **Statements that bind nothing add no finding.**  A run on files with such a statement added to
a list of statements of one of them reports nothing new, and it reports the same if no call stands
in the statement, given that what a statement defers is a call. -/
theorem run_inserts (c : Config) (p : Program) (before after : List SourceFile)
    {f f' : SourceFile} {d : Node} (hinserts : f.Inserts d f') (hbinds : d.BindsNothing) :
    ∃ ds ds', c.run p (some (before ++ f :: after)) = .ok ds ∧
      c.run p (some (before ++ f' :: after)) = .ok ds' ∧
      ds'.Sublist ds ∧
      ((∀ path k, d.Reaches path k → k.form ≠ .call) →
        (∀ call, d.Defers call → call.form = .call) → ds' = ds) := by
  refine ⟨_, _, rfl, rfl, ?_, ?_⟩
  · simp only [analyze_eq_flatMap, List.flatMap_append, List.flatMap_cons]
    split
    · exact .append (.refl _) (.append (hinserts.addition_sublist hbinds) (.refl _))
    · exact .refl _
  · intro hcalls hdefers
    have hnothing : d.CallsNothing := by
      refine ⟨hcalls, ?_⟩
      intro call hcall
      have hchild : call ∈ d.children := List.mem_of_find?_eq_some hcall.2
      exact hcalls [d] call (.child hchild (.refl call)) (hdefers call hcall)
    simp only [analyze_eq_flatMap, List.flatMap_append, List.flatMap_cons,
      hinserts.addition_eq hbinds hnothing]

end Config

namespace Sample

/-- `return`. -/
def leaving : Node :=
  ⟨.list, .returnStmt, ⟨37, 43⟩, none, []⟩

theorem inserts_binding {d : Node} (h : d.edge = .list) :
    (file [binding]).Inserts d (file [binding, d]) := by
  have hlists : Form.block.Lists d.edge := h ▸ .block
  refine ⟨[], function [binding], function [binding, d], [], rfl, ?_, rfl⟩
  exact @Node.InsertedIn.inChild d _ _ _ _ [_, _] [] _ _
    (@Node.InsertedIn.here d _ _ _ _ [binding] [] hlists)

theorem bindsNothing_leaving : leaving.BindsNothing := by
  intro path k hk
  have hmem := Node.mem_preorder_iff.mpr ⟨path, hk⟩
  simp [leaving, Node.preorder, Node.preorderAll] at hmem
  simp [hmem]

theorem bindsNothing_releasing : releasing.BindsNothing := by
  intro path k hk
  have hmem := Node.mem_preorder_iff.mpr ⟨path, hk⟩
  simp [releasing, Node.preorder, Node.preorderAll] at hmem
  rcases hmem with rfl | rfl | rfl | rfl | rfl <;> simp

/-- A release can only remove the finding, and a return keeps it. -/
theorem run_inserts_binding :
    (file [binding]).Inserts releasing (file [binding, releasing]) ∧ releasing.BindsNothing ∧
      (∃ ds, Config.default.run program (some [file [binding, releasing]]) = .ok ds ∧
        ds.Sublist [.unclosed ⟨24, 25⟩]) ∧
      (file [binding]).Inserts leaving (file [binding, leaving]) ∧ leaving.BindsNothing ∧
      Config.default.run program (some [file [binding, leaving]]) = .ok [.unclosed ⟨24, 25⟩] := by
  have hbefore : Config.default.run program (some [file [binding]]) = .ok [.unclosed ⟨24, 25⟩] :=
    congrArg Except.ok analyze_binding
  refine ⟨inserts_binding rfl, bindsNothing_releasing, ?_, inserts_binding rfl,
    bindsNothing_leaving, ?_⟩
  · obtain ⟨ds, ds', hds, hds', hsublist, -⟩ := Config.run_inserts Config.default program [] []
      (inserts_binding (d := releasing) rfl) bindsNothing_releasing
    cases hbefore.symm.trans hds
    exact ⟨ds', hds', hsublist⟩
  · obtain ⟨ds, ds', hds, hds', -, hsame⟩ := Config.run_inserts Config.default program [] []
      (inserts_binding (d := leaving) rfl) bindsNothing_leaving
    cases hbefore.symm.trans hds
    rw [← hsame ?_ ?_]
    · exact hds'
    · intro path k hk
      have hmem := Node.mem_preorder_iff.mpr ⟨path, hk⟩
      simp [leaving, Node.preorder, Node.preorderAll] at hmem
      simp [hmem]
    · rintro call ⟨hform, -⟩
      cases hform

end Sample

end Unclosed
