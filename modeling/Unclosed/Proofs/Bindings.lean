import Unclosed.Proofs.Comparison

/-!
# Findings target by target

A statement binds targets to values: each part of a `var` statement that has values, and each `:=`
and `=`.  A verdict is read off the bindings alone, one target after the other: what the target
receives, whether it is blank, and whether it escapes without a release.
-/

namespace Unclosed

namespace Share

variable {α : Type} {s : Share α}

theorem isComponent_iff : s.isComponent ↔ s.values.length = 1 ∧ 1 < s.count := by
  simp [isComponent]

theorem value?_eq_some_iff {a : α} :
    s.value? = some a ↔ s.values.length = s.count ∧ s.values[s.index]? = some a := by
  rw [value?]
  split <;> simp_all

end Share

/-- Targets and the values on the other side of them, in any numbers. -/
structure Binding where
  targets : List Node
  values : List Node

def Node.sides (n : Node) : Binding :=
  ⟨n.under .lhs, n.under .rhs⟩

def Node.bindings (n : Node) : List Binding :=
  match n.form with
  | .declStmt =>
    ((n.child? .decl).toList.filter (·.form = .genDecl .var)).flatMap fun d =>
      ((d.under .specs).filter fun v => v.form = .valueSpec ∧ v.under .values ≠ []).map fun v =>
        ⟨v.under .names, v.under .values⟩
  | .assign .define | .assign .plain => [n.sides]
  | _ => []

namespace Binding

def target (b : Binding) (n : Node) (i : Nat) : Target :=
  ⟨n, ⟨b.values, i, b.targets.length⟩⟩

/-- Where a target is reported: at itself, or at the statement if it is the only target of an
assignment. -/
def place (b : Binding) (s : Site) (n : Node) : Span :=
  if s.node.form = .assign .plain ∧ b.targets.length = 1 then s.node.span else n.span

end Binding

namespace Judge

/-- The type of what a target receives.  It is that of its own value if there are as many values as
targets, or a component of the type of a single value that several targets share. -/
inductive Receives (j : Judge) (b : Binding) (i : Nat) (t : Ty) : Prop
  | value {v : Node} : b.values.length = b.targets.length → b.values[i]? = some v →
      j.meaning.staticType? v = some t → Receives j b i t
  | component {v : Node} {tuple : Ty} {ts : List Ty} : b.values = [v] → 1 < b.targets.length →
      j.meaning.staticType? v = some tuple → j.program.types.components? tuple = some ts →
      ts[i]? = some t → Receives j b i t

/-- The target is not released where the statement binds it.  Only identifiers are declared, and a
field that is assigned is its owner's concern. -/
def Escapes (j : Judge) (s : Site) (n : Node) : Prop :=
  match s.node.form with
  | .declStmt => ¬j.isReleased s n
  | .assign .define => n.isIdent ∧ ¬j.isReleased s n
  | .assign .plain =>
    j.meaning.targetKind n ≠ .field ∧ ¬(n.unparen.isIdent ∧ j.isReleased s n.unparen)
  | _ => False

structure LeavesOpen (j : Judge) (s : Site) (b : Binding) (n : Node) (i : Nat) : Prop where
  not_blank : ¬n.isBlank
  closable : ∃ t, j.Receives b i t ∧ j.closers.closable t
  escapes : j.Escapes s n

variable {j : Judge} {checks : Checks} {s : Site} {b : Binding} {n : Node} {i : Nat}

/-! ## What a target receives -/

theorem receivedType?_eq_some_iff {t : Ty} :
    j.receivedType? (b.target n i).share = some t ↔ j.Receives b i t := by
  rw [receivedType?]
  split
  · rename_i hcomponent
    obtain ⟨hlength, hcount⟩ := Share.isComponent_iff.mp hcomponent
    obtain ⟨v, hv⟩ := List.length_eq_one_iff.mp hlength
    rw [hv]
    simp only [List.head?_cons, Option.bind_some, Option.bind_eq_some_iff]
    constructor
    · rintro ⟨ts, ⟨tuple, htuple, hts⟩, ht⟩
      exact .component hv hcount htuple hts ht
    · intro h
      cases h with
      | value hsides _ _ => exact absurd (hlength.symm.trans hsides) (Nat.ne_of_lt hcount)
      | component hv' _ htuple hts ht =>
          cases hv.symm.trans hv'
          exact ⟨_, ⟨_, htuple, hts⟩, ht⟩
  · rename_i hcomponent
    simp only [Option.bind_eq_some_iff, Share.value?_eq_some_iff]
    constructor
    · rintro ⟨v, ⟨hsides, hv⟩, ht⟩
      exact .value hsides hv ht
    · intro h
      cases h with
      | value hsides hv ht => exact ⟨_, ⟨hsides, hv⟩, ht⟩
      | component hv hcount _ _ _ =>
          have hlength : b.values.length = 1 := List.length_eq_one_iff.mpr ⟨_, hv⟩
          exact absurd (Share.isComponent_iff.mpr ⟨hlength, hcount⟩) hcomponent

theorem receivesClosable_iff :
    j.receivesClosable (b.target n i) ↔ ∃ t, j.Receives b i t ∧ j.closers.closable t := by
  simp only [receivesClosable, Closers.closable?, Option.any_eq_true, receivedType?_eq_some_iff]

/-! ## Verdicts by targets -/

/-- With both checks, a target is left open if it is not blank, acquires a value and is not
released. -/
theorem leavesOpen_iff (hdeclarations : checks.enabled Check.declarations)
    (hassignments : checks.enabled Check.assignments) :
    j.LeavesOpen s b n i ↔
      ¬n.isBlank ∧ j.acquires checks s (b.target n i) ∧ ¬j.settles s (b.target n i) := by
  have hfields : j.LeavesOpen s b n i ↔
      ¬n.isBlank ∧ j.receivesClosable (b.target n i) ∧ j.Escapes s n := by
    rw [receivesClosable_iff]
    exact ⟨fun ⟨hblank, hclosable, hescapes⟩ => ⟨hblank, hclosable, hescapes⟩,
      fun ⟨hblank, hclosable, hescapes⟩ => ⟨hblank, hclosable, hescapes⟩⟩
  rw [hfields, and_congr_right_iff]
  intro _
  unfold Escapes acquires settles
  split
  · rename_i hform
    simp [hform, hdeclarations, Binding.target]
  · rename_i hform
    simp [hform, hdeclarations, Binding.target, and_assoc, and_left_comm]
  · rename_i hform
    simp [hform, hassignments, Binding.target, and_assoc]
  · split <;> simp_all

instance (j : Judge) (s : Site) (b : Binding) (n : Node) (i : Nat) :
    Decidable (j.LeavesOpen s b n i) :=
  decidable_of_iff
    (¬n.isBlank ∧ j.acquires Config.default.checks s (b.target n i) ∧
      ¬j.settles s (b.target n i))
    (leavesOpen_iff (by decide) (by decide)).symm

end Judge

/-- The targets of the parts of a declaration are those of its bindings. -/
theorem Target.flatMap_ofSpec (specs : List Node) :
    specs.flatMap ofSpec =
      ((specs.filter fun v => v.form = .valueSpec ∧ v.under .values ≠ []).map fun v =>
        (⟨v.under .names, v.under .values⟩ : Binding)).flatMap
          fun b => pair b.targets b.values := by
  induction specs with
  | nil => rfl
  | cons v specs ih =>
      rw [List.flatMap_cons, ih, ofSpec]
      by_cases hv : v.form = .valueSpec ∧ v.under .values ≠ []
      · simp [hv]
      · rw [List.filter_cons_of_neg (by simpa using hv), if_neg (by simpa using hv), List.nil_append]

/-- The targets of a declaration or of a plain assignment are those of its bindings. -/
theorem Target.ofStatement_eq_flatMap {n : Node}
    (h : n.form = .declStmt ∨ n.form = .assign .define ∨ n.form = .assign .plain) :
    ofStatement n = n.bindings.flatMap fun b => pair b.targets b.values := by
  rw [ofStatement, Node.bindings]
  rcases h with h | h | h
  · simp only [h, declared]
    cases n.child? .decl with
    | none => rfl
    | some d =>
        by_cases hvar : d.form = .genDecl .var
        · simp [hvar, flatMap_ofSpec]
        · simp [hvar]
  · simp [h, assigned, Node.sides]
  · simp [h, assigned, Node.sides]

theorem Target.index_lt_count {n : Node} {t : Target} (h : t ∈ ofStatement n) :
    t.share.index < t.share.count := by
  have hpair : ∃ targets values, t ∈ pair targets values := by
    by_cases hform : n.form = .declStmt
    · rw [ofStatement_eq_flatMap (.inl hform)] at h
      obtain ⟨b, -, ht⟩ := List.mem_flatMap.mp h
      exact ⟨_, _, ht⟩
    · rw [ofStatement] at h
      split at h
      · contradiction
      · exact ⟨_, _, h⟩
      · cases h
  obtain ⟨targets, values, ht⟩ := hpair
  obtain ⟨u, hu, rfl⟩ := List.mem_map.mp ht
  exact List.snd_lt_of_mem_zipIdx (List.mem_filter.mp hu).1

namespace Judge

variable {j : Judge} {checks : Checks} {s : Site} {b : Binding} {n : Node} {i : Nat}

/-- Places by the number of targets: where there is a target, there is one or there are several. -/
theorem place_target (hi : i < b.targets.length) : place s (b.target n i) = b.place s n := by
  have hcount : (b.target n i).share.count = b.targets.length := rfl
  rw [place, Binding.place]
  split
  · rename_i hform
    rw [anchor, hcount]
    simp only [hform, true_and]
    split
    · rw [if_neg (by omega)]
      rfl
    · rw [if_pos (by omega)]
  · rename_i hform
    rw [if_neg fun h => hform h.1]
    rfl

/-- What is reported of one binding, target by target. -/
theorem map_filter_pair (hdeclarations : checks.enabled Check.declarations)
    (hassignments : checks.enabled Check.assignments) (b : Binding) :
    ((Target.pair b.targets b.values).filter fun t => j.acquires checks s t && !j.settles s t).map
        (fun t => Finding.unclosed (place s t)) =
      (b.targets.zipIdx.filter fun t => j.LeavesOpen s b t.1 t.2).map
        fun t => .unclosed (b.place s t.1) := by
  have hopen : ∀ t : Node × Nat,
      ((j.acquires checks s (b.target t.1 t.2) && !j.settles s (b.target t.1 t.2)) &&
        !t.1.isBlank) = decide (j.LeavesOpen s b t.1 t.2) := by
    intro t
    rw [Bool.eq_iff_iff, decide_eq_true_iff, leavesOpen_iff hdeclarations hassignments]
    simp [and_comm]
  have hpair : Target.pair b.targets b.values =
      (b.targets.zipIdx.filter fun t => !t.1.isBlank).map fun t => b.target t.1 t.2 := rfl
  rw [hpair, List.filter_map, List.map_map, List.filter_filter]
  simp only [Function.comp_def, hopen]
  apply List.map_congr_left
  intro t ht
  have hi : t.2 < b.targets.length := List.snd_lt_of_mem_zipIdx (List.mem_filter.mp ht).1
  rw [place_target hi]

/-- With both checks, a verdict is what is reported of the bindings, in order. -/
theorem verdict_eq_flatMap (hdeclarations : checks.enabled Check.declarations)
    (hassignments : checks.enabled Check.assignments) :
    j.verdict checks s = s.node.bindings.flatMap fun b =>
      (b.targets.zipIdx.filter fun t => j.LeavesOpen s b t.1 t.2).map
        fun t => .unclosed (b.place s t.1) := by
  by_cases hbinds : s.node.form = .declStmt ∨ s.node.form = .assign .define ∨
      s.node.form = .assign .plain
  · rw [verdict_eq_map, reportable, Target.ofStatement_eq_flatMap hbinds, List.filter_flatMap,
      List.map_flatMap]
    simp only [map_filter_pair hdeclarations hassignments]
  · simp only [not_or] at hbinds
    rw [verdict, Node.bindings]
    split <;> simp_all

/-- **Findings target by target.**  With both checks, a verdict holds one finding for each target that
is left open, in the order of the targets, and nothing else.  A value that a target is to receive is
always there, whatever the numbers of targets and values are. -/
theorem verdict_by_targets (j : Judge) (checks : Checks) (s : Site)
    (hdeclarations : checks.enabled Check.declarations)
    (hassignments : checks.enabled Check.assignments) :
    (j.verdict checks s = s.node.bindings.flatMap fun b =>
      (b.targets.zipIdx.filter fun t => j.LeavesOpen s b t.1 t.2).map
        fun t => .unclosed (b.place s t.1)) ∧
    ∀ t ∈ Target.ofStatement s.node,
      (t.share.isComponent → t.share.values.head?.isSome) ∧
      (t.share.values.length = t.share.count → t.share.value?.isSome) := by
  refine ⟨verdict_eq_flatMap hdeclarations hassignments, ?_⟩
  intro t ht
  have hindex := Target.index_lt_count ht
  constructor
  · intro hcomponent
    have hlength := (Share.isComponent_iff.mp hcomponent).1
    obtain ⟨v, hv⟩ := List.length_eq_one_iff.mp hlength
    rw [hv]
    rfl
  · intro hsides
    have hlookup := List.getElem?_eq_getElem (hsides ▸ hindex)
    rw [Share.value?_eq_some_iff.mpr ⟨hsides, hlookup⟩]
    rfl

end Judge

namespace Sample

/-- The judge of the sample program, in which pairs of closers are a type as well. -/
def judgeOfPairs : Judge :=
  Program.judge { program with types := ⟨program.types.entries.push
    (.literal (.tuple [.entry 1, .entry 1]))⟩ } ["io.Closer"]

/-- `_, x = openTwo()`, where the call yields a pair. -/
def sharing : Node :=
  ⟨.list, .assign .plain, ⟨24, 40⟩, none,
    [⟨.lhs, .ident "_" none none, ⟨24, 25⟩, none, []⟩,
      ⟨.lhs, .ident "x" none (some 0), ⟨27, 28⟩, none, []⟩,
      ⟨.rhs, .call, ⟨31, 40⟩, some (.entry 2), []⟩]⟩

/-- The second of the targets receives a component and is reported, the blank one is not. -/
theorem verdict_by_targets_sharing :
    Config.default.checks.enabled Check.declarations ∧
      Config.default.checks.enabled Check.assignments ∧
      judgeOfPairs.verdict Config.default.checks ⟨none, sharing⟩ = [.unclosed ⟨27, 28⟩] := by
  have hdeclarations : Config.default.checks.enabled Check.declarations := by decide
  have hassignments : Config.default.checks.enabled Check.assignments := by decide
  have hverdict := (Judge.verdict_by_targets judgeOfPairs Config.default.checks ⟨none, sharing⟩
    hdeclarations hassignments).1
  exact ⟨hdeclarations, hassignments, hverdict.trans (by decide +kernel)⟩

end Sample

end Unclosed
