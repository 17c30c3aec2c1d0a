import Mathlib.Data.List.Forall2
import Unclosed.Program
import Unclosed.Proofs.Imports
import Unclosed.Proofs.QualifiedName

/-!
# Well-known types

The type of a qualified name is looked up in the packages that the checked package depends on.  If
their paths are distinct, then the lookup is exact: it finds the type if one of these packages has
the path and declares the name as a type, whatever the import graph is like and in whatever order
packages are imported.
-/

namespace Unclosed

namespace Program

/-- The checked package depends on the package: it is the package itself, or one that is imported,
directly or not. -/
def DependsOn (p : Program) (id : PackageId) : Prop :=
  ImportWalk.Reaches (importsOf p.packages) p.main id

def DistinctPaths (p : Program) : Prop :=
  ∀ a b, p.DependsOn a → p.DependsOn b → ∀ pkg pkg', p.packages[a]? = some pkg →
    p.packages[b]? = some pkg' → pkg.path = pkg'.path → a = b

/-- A package with the path of the qualified name, among those that the checked package depends on,
declares the name as a type. -/
def Declares (p : Program) (q : QualifiedName) (t : Ty) : Prop :=
  ∃ id, p.DependsOn id ∧ ∃ pkg, p.packages[id]? = some pkg ∧ pkg.path = q.path ∧
    ∃ o, p.inScope? pkg q.name = some o ∧ o.kind = .type ∧ o.type = some t

variable {p : Program} {q : QualifiedName} {path s : String} {pkg : Package} {t : Ty}

theorem namedType?_eq_some_iff {o : Object} :
    namedType? o = some t ↔ o.kind = .type ∧ o.type = some t := by
  obtain ⟨kind, name, type⟩ := o
  cases kind <;> simp [namedType?]

/-- The package that is found has the path, and the checked package depends on it. -/
theorem packageAt?_eq_some_iff (h : p.DistinctPaths) :
    p.packageAt? path = some pkg ↔
      ∃ id, p.DependsOn id ∧ p.packages[id]? = some pkg ∧ pkg.path = path := by
  have hmem : ∀ pkg, pkg ∈ (dependencies p.packages p.main).filterMap (p.packages[·]?) ↔
      ∃ id, p.DependsOn id ∧ p.packages[id]? = some pkg := by
    intro pkg
    simp only [List.mem_filterMap, mem_dependencies_iff]
    rfl
  constructor
  · intro hfound
    obtain ⟨id, hid, hpkg⟩ := (hmem pkg).mp (List.mem_of_find?_eq_some hfound)
    exact ⟨id, hid, hpkg, by simpa using List.find?_some hfound⟩
  · rintro ⟨id, hid, hpkg, rfl⟩
    cases hfound : p.packageAt? pkg.path with
    | none =>
        have hnone := List.find?_eq_none.mp hfound pkg ((hmem pkg).mpr ⟨id, hid, hpkg⟩)
        simp at hnone
    | some found =>
        obtain ⟨id', hid', hpkg'⟩ := (hmem found).mp (List.mem_of_find?_eq_some hfound)
        have hpath : found.path = pkg.path := by simpa using List.find?_some hfound
        cases h id' id hid' hid found pkg hpkg' hpkg hpath
        exact hpkg'.symm.trans hpkg

/-- A qualified name is looked up by its two parts. -/
theorem wellKnownType?_eq_some_iff (hq : q.WellFormed) :
    p.wellKnownType? q.toText = some t ↔
      ∃ pkg o, p.packageAt? q.path = some pkg ∧ p.inScope? pkg q.name = some o ∧
        o.kind = .type ∧ o.type = some t := by
  rw [wellKnownType?, QualifiedName.parse?_eq_some_iff.mpr ⟨hq, rfl⟩]
  simp only [Option.bind_eq_some_iff, namedType?_eq_some_iff]
  constructor
  · rintro ⟨o, ⟨pkg, hpkg, ho⟩, htype⟩
    exact ⟨pkg, o, hpkg, ho, htype⟩
  · rintro ⟨pkg, o, hpkg, ho, htype⟩
    exact ⟨o, ⟨pkg, hpkg, ho⟩, htype⟩

/-- The lookup of a qualified name is exact. -/
theorem wellKnownType?_toText (h : p.DistinctPaths) (hq : q.WellFormed) :
    p.wellKnownType? q.toText = some t ↔ p.Declares q t := by
  simp only [wellKnownType?_eq_some_iff hq, packageAt?_eq_some_iff h]
  constructor
  · rintro ⟨pkg, o, ⟨id, hid, hpkg, hpath⟩, ho, htype⟩
    exact ⟨id, hid, pkg, hpkg, hpath, o, ho, htype⟩
  · rintro ⟨id, hid, pkg, hpkg, hpath, o, ho, htype⟩
    exact ⟨pkg, o, ⟨id, hid, hpkg, hpath⟩, ho, htype⟩

end Program

/-! ## The order of imports -/

structure Package.Reordered (pkg pkg' : Package) : Prop where
  path : pkg.path = pkg'.path
  scope : pkg.scope = pkg'.scope
  imports : pkg.imports.Perm pkg'.imports

theorem Package.Reordered.symm {pkg pkg' : Package} (h : pkg.Reordered pkg') : pkg'.Reordered pkg :=
  ⟨h.path.symm, h.scope.symm, h.imports.symm⟩

namespace Program

/-- The programs only differ in the order of the imports of packages. -/
structure Reordered (p p' : Program) : Prop where
  objects : p.objects = p'.objects
  main : p.main = p'.main
  packages : ∀ id : PackageId, Option.Rel Package.Reordered p.packages[id]? p'.packages[id]?

namespace Reordered

variable {p p' : Program} (h : p.Reordered p')

include h

theorem symm : p'.Reordered p where
  objects := h.objects.symm
  main := h.main.symm
  packages := by
    intro id
    have hrel := h.packages id
    generalize p.packages[id]? = a at hrel ⊢
    generalize p'.packages[id]? = b at hrel ⊢
    cases hrel with
    | none => exact .none
    | some hpkg => exact .some hpkg.symm

theorem exists_package {id : PackageId} {pkg : Package} (hpkg : p.packages[id]? = some pkg) :
    ∃ pkg', p'.packages[id]? = some pkg' ∧ pkg.Reordered pkg' := by
  have hrel := h.packages id
  rw [hpkg] at hrel
  generalize p'.packages[id]? = b at hrel ⊢
  cases hrel with
  | some hpkg => exact ⟨_, rfl, hpkg⟩

theorem importsOf_subset (id : PackageId) : importsOf p.packages id ⊆ importsOf p'.packages id := by
  intro k hk
  cases hpkg : p.packages[id]? with
  | none => simp [importsOf, hpkg] at hk
  | some pkg =>
      obtain ⟨pkg', hpkg', hreordered⟩ := h.exists_package hpkg
      rw [importsOf, hpkg, Option.elim_some] at hk
      rw [importsOf, hpkg', Option.elim_some]
      exact hreordered.imports.mem_iff.mp hk

theorem dependsOn {id : PackageId} (hid : p.DependsOn id) : p'.DependsOn id := by
  rw [DependsOn, ← h.main]
  exact Relation.ReflTransGen.mono (fun a b hb => h.importsOf_subset a hb) _ _ hid

theorem distinctPaths (hdistinct : p.DistinctPaths) : p'.DistinctPaths := by
  intro a b ha hb pkg pkg' hpkg hpkg' hpath
  obtain ⟨pkg₁, hpkg₁, hreordered₁⟩ := h.symm.exists_package hpkg
  obtain ⟨pkg₂, hpkg₂, hreordered₂⟩ := h.symm.exists_package hpkg'
  refine hdistinct a b (h.symm.dependsOn ha) (h.symm.dependsOn hb) pkg₁ pkg₂ hpkg₁ hpkg₂ ?_
  rw [← hreordered₁.path, ← hreordered₂.path, hpath]

theorem declares {q : QualifiedName} {t : Ty} (hdeclares : p.Declares q t) : p'.Declares q t := by
  obtain ⟨id, hid, pkg, hpkg, hpath, o, ho, htype⟩ := hdeclares
  obtain ⟨pkg', hpkg', hreordered⟩ := h.exists_package hpkg
  refine ⟨id, h.dependsOn hid, pkg', hpkg', hreordered.path.symm.trans hpath, o, ?_, htype⟩
  rwa [inScope?, ← h.objects, ← hreordered.scope]

/-- The order of imports does not matter for well-known types. -/
theorem wellKnownType?_eq (hdistinct : p.DistinctPaths) (s : String) :
    p'.wellKnownType? s = p.wellKnownType? s := by
  cases hparse : QualifiedName.parse? s with
  | none => rw [wellKnownType?, wellKnownType?, hparse]
  | some q =>
      obtain ⟨hq, rfl⟩ := QualifiedName.parse?_eq_some_iff.mp hparse
      apply Option.ext
      intro t
      rw [wellKnownType?_toText hdistinct hq, wellKnownType?_toText (h.distinctPaths hdistinct) hq]
      exact ⟨h.symm.declares, h.declares⟩

end Reordered

/-- **The lookup of well-known types is exact.**  If the packages that the checked package depends on
have different paths, then the lookup of a path and a name with a dot between them leads to a type
exactly if one of these packages has the path and declares the name as that type.  All other texts
lead to nothing: those without a dot, with nothing before the last dot or with nothing after it.
The order of imports does not matter. -/
theorem wellKnownType?_exact (p : Program) (h : p.DistinctPaths) :
    (∀ q : QualifiedName, q.WellFormed → ∀ t, p.wellKnownType? q.toText = some t ↔ p.Declares q t) ∧
    (∀ s, (∀ q : QualifiedName, q.WellFormed → s ≠ q.toText) ↔
      '.' ∉ s.toList ∨ (∃ name : String, '.' ∉ name.toList ∧ s = "." ++ name) ∨
        ∃ path, s = path ++ ".") ∧
    (∀ s, (∀ q : QualifiedName, q.WellFormed → s ≠ q.toText) → p.wellKnownType? s = none) ∧
    ∀ p' : Program, p.Reordered p' → ∀ s, p'.wellKnownType? s = p.wellKnownType? s := by
  have hother : ∀ s, (∀ q : QualifiedName, q.WellFormed → s ≠ q.toText) ↔
      QualifiedName.parse? s = none := by
    intro s
    simp only [Option.eq_none_iff_forall_ne_some, ne_eq, QualifiedName.parse?_eq_some_iff, not_and]
  refine ⟨fun q hq t => wellKnownType?_toText h hq, ?_, ?_, fun p' hp' => hp'.wellKnownType?_eq h⟩
  · intro s
    rw [hother, QualifiedName.parse?_eq_none_iff]
  · intro s hs
    rw [wellKnownType?, (hother s).mp hs]

namespace Sample

/-- Three packages that import each other in a circle, one of them with a dot in its path. -/
def circle : Program where
  types := ⟨#[]⟩
  objects := #[⟨.type, "Conn", some (.basic "int")⟩, ⟨.function, "Open", none⟩]
  packages := #[⟨"p", [1, 2], []⟩, ⟨"example.org/db", [2, 0], [1, 0]⟩, ⟨"io", [1], []⟩]
  main := 0
  extents := []

theorem distinctPaths_circle : circle.DistinctPaths := by
  intro a b _ _ pkg pkg' hpkg hpkg' hpath
  have hnodup : (circle.packages.toList.map (·.path)).Nodup := by decide
  have ha : a < (circle.packages.toList.map (·.path)).length := by
    obtain ⟨ha, -⟩ := Array.getElem?_eq_some_iff.mp hpkg
    simpa using ha
  refine (List.getElem?_inj ha hnodup).mp ?_
  simp [hpkg, hpkg', hpath]

/-- The types of the circle are found, its functions are not, and neither are texts without a
name. -/
theorem wellKnownType?_exact_circle :
    circle.DistinctPaths ∧ circle.Declares ⟨"example.org/db", "Conn"⟩ (.basic "int") ∧
      circle.wellKnownType? "example.org/db.Open" = none ∧
      circle.wellKnownType? "example.org/db." = none := by
  obtain ⟨hexact, hother, hnone, -⟩ := circle.wellKnownType?_exact distinctPaths_circle
  refine ⟨distinctPaths_circle, ?_, by decide +kernel, ?_⟩
  · exact (hexact ⟨"example.org/db", "Conn"⟩ ⟨by decide, by decide, by decide⟩ _).mp
      (by decide +kernel)
  · exact hnone _ ((hother _).mpr (.inr (.inr ⟨"example.org/db", by decide⟩)))

end Sample

end Program

end Unclosed
