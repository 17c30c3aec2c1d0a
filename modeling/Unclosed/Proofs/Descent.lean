import Mathlib.Data.List.Basic
import Unclosed.Tree

/-!
# Descending in trees

`n.Reaches path m` says that `m` is `n` itself or stands below it at any depth, and `path` holds
what lies between, from `n` down to the parent of `m`.  The walks over a tree are compared with this
relation: the nodes in preorder are those that are reached, and the sites of a tree are those that
are reached through nodes which are all entered.
-/

namespace Unclosed

namespace Node

/-- What holds of a node whenever it holds of its children holds of every node. -/
@[elab_as_elim]
theorem childrenInduction {motive : Node → Prop}
    (step : ∀ n : Node, (∀ m ∈ n.children, motive m) → motive n) (n : Node) : motive n := by
  refine @Node.rec motive (fun ns => ∀ m ∈ ns, motive m) ?_ ?_ ?_ n
  · intro edge form span type children ih
    exact step _ ih
  · intro m hm
    cases hm
  · intro n ns hn hns m hm
    rcases List.mem_cons.mp hm with rfl | hm
    · exact hn
    · exact hns m hm

/-- `n.Reaches path m`: going down from `n` through the nodes of `path` leads to `m`. -/
inductive Reaches : Node → List Node → Node → Prop
  /-- Every node reaches itself. -/
  | refl (n : Node) : Reaches n [] n
  /-- A node reaches what its children reach. -/
  | child {n m k : Node} {path : List Node} :
      m ∈ n.children → Reaches m path k → Reaches n (n :: path) k

/-- A node reaches itself and, past itself, what its children reach. -/
theorem reaches_iff {n k : Node} {path : List Node} :
    n.Reaches path k ↔
      path = [] ∧ k = n ∨ ∃ m ∈ n.children, ∃ rest, path = n :: rest ∧ m.Reaches rest k := by
  constructor
  · intro h
    cases h with
    | refl => exact .inl ⟨rfl, rfl⟩
    | child hm h => exact .inr ⟨_, hm, _, rfl, h⟩
  · rintro (⟨rfl, rfl⟩ | ⟨m, hm, rest, rfl, h⟩)
    · exact .refl _
    · exact .child hm h

/-! ## Preorder -/

theorem preorder_eq (n : Node) : n.preorder = n :: preorderAll n.children := by
  cases n
  rw [preorder]

theorem preorderAll_eq_flatMap (ns : List Node) : preorderAll ns = ns.flatMap preorder := by
  induction ns with
  | nil => rw [preorderAll, List.flatMap_nil]
  | cons n ns ih => rw [preorderAll, List.flatMap_cons, ih]

theorem mem_preorder_iff {n k : Node} : k ∈ n.preorder ↔ ∃ path, n.Reaches path k := by
  induction n using childrenInduction with
  | step n ih =>
      rw [preorder_eq, preorderAll_eq_flatMap, List.mem_cons, List.mem_flatMap]
      constructor
      · rintro (rfl | ⟨m, hm, hk⟩)
        · exact ⟨[], .refl _⟩
        · obtain ⟨path, h⟩ := (ih m hm).mp hk
          exact ⟨n :: path, .child hm h⟩
      · rintro ⟨path, h⟩
        rcases reaches_iff.mp h with ⟨-, rfl⟩ | ⟨m, hm, rest, -, h⟩
        · exact .inl rfl
        · exact .inr ⟨m, hm, (ih m hm).mpr ⟨rest, h⟩⟩

/-! ## Sites -/

/-- The first site of a tree is its root, and those below follow if it is entered. -/
theorem sites_eq (enter : Node → Bool) (parent : Option Node) (n : Node) :
    n.sites enter parent =
      ⟨parent, n⟩ :: if enter n then sitesAll enter (some n) n.children else [] := by
  cases n
  rw [sites]

theorem sitesAll_eq_flatMap (enter : Node → Bool) (parent : Option Node) (ns : List Node) :
    sitesAll enter parent ns = ns.flatMap (sites enter parent) := by
  induction ns with
  | nil => rw [sitesAll, List.flatMap_nil]
  | cons n ns ih => rw [sitesAll, List.flatMap_cons, ih]

/-- The last node of a way is the start of the way when there is no other. -/
private theorem getLast?_cons_or (n : Node) (path : List Node) (parent : Option Node) :
    (n :: path).getLast?.or parent = path.getLast?.or (some n) := by
  rw [List.getLast?_cons]
  cases path.getLast? <;> rfl

/-- The sites of a tree are what its root reaches through entered nodes, each with the last node
on the way as its parent. -/
theorem mem_sites_iff {enter : Node → Bool} {parent : Option Node} {n : Node} {s : Site} :
    s ∈ n.sites enter parent ↔
      ∃ path, n.Reaches path s.node ∧ (∀ a ∈ path, enter a) ∧
        s.parent = path.getLast?.or parent := by
  -- A child is visited with its parent as the start of the way, so the parent has to vary.
  induction n using childrenInduction generalizing parent with
  | step n ih =>
      rw [sites_eq, List.mem_cons]
      constructor
      · rintro (rfl | hs)
        · exact ⟨[], .refl _, by simp, rfl⟩
        · by_cases hn : enter n
          · rw [if_pos hn, sitesAll_eq_flatMap, List.mem_flatMap] at hs
            obtain ⟨m, hm, hs⟩ := hs
            obtain ⟨path, hr, henter, hparent⟩ := (ih m hm).mp hs
            refine ⟨n :: path, .child hm hr, ?_, ?_⟩
            · simpa [hn] using henter
            · rw [hparent, getLast?_cons_or]
          · rw [if_neg hn] at hs
            cases hs
      · rintro ⟨path, h, henter, hparent⟩
        rcases reaches_iff.mp h with ⟨rfl, hk⟩ | ⟨m, hm, rest, rfl, hr⟩
        · left
          cases s
          simp_all
        · right
          have hn : enter n := henter n List.mem_cons_self
          rw [if_pos hn, sitesAll_eq_flatMap, List.mem_flatMap]
          refine ⟨m, hm, (ih m hm).mpr ⟨rest, hr, ?_, ?_⟩⟩
          · exact fun a ha => henter a (List.mem_cons_of_mem n ha)
          · rw [hparent, getLast?_cons_or]

end Node

end Unclosed
