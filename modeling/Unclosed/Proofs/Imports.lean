import Mathlib.Data.Finset.Card
import Mathlib.Logic.Relation
import Unclosed.Program

/-!
# Walks over the import graph

A walk from a package meets exactly the packages that can be reached by imports, whether or not there
are circles among them, and it finishes each package that it meets.
-/

namespace Unclosed

namespace ImportWalk

variable {imports : PackageId → List PackageId} {ids ids' : List PackageId} {id : PackageId}
variable {w w' w'' : ImportWalk}

/-- The package can be reached from another one by imports. -/
def Reaches (imports : PackageId → List PackageId) : PackageId → PackageId → Prop :=
  Relation.ReflTransGen fun a b => b ∈ imports a

/-- What a walk through packages leads to.  The packages are met, and so are the imports of all that
is new; all that is new can be reached from them and is finished. -/
structure Leads (imports : PackageId → List PackageId) (ids : List PackageId)
    (w w' : ImportWalk) : Prop where
  keeps : w.met ⊆ w'.met
  meets : ids ⊆ w'.met
  closed : ∀ id ∈ w'.met, id ∉ w.met → imports id ⊆ w'.met
  reached : ∀ id ∈ w'.met, id ∉ w.met → ∃ start ∈ ids, Reaches imports start id
  finished : ∀ id, id ∈ w'.finished ↔ id ∈ w.finished ∨ id ∈ w'.met ∧ id ∉ w.met

namespace Leads

theorem nil : Leads imports [] w w where
  keeps := List.Subset.refl _
  meets := List.nil_subset _
  closed := fun _ hid hnew => absurd hid hnew
  reached := fun _ hid hnew => absurd hid hnew
  finished := by simp

theorem skip (h : id ∈ w.met) : Leads imports [id] w w where
  keeps := List.Subset.refl _
  meets := by simpa using h
  closed := fun _ hid hnew => absurd hid hnew
  reached := fun _ hid hnew => absurd hid hnew
  finished := by simp

theorem append (h : Leads imports ids w w') (h' : Leads imports ids' w' w'') :
    Leads imports (ids ++ ids') w w'' where
  keeps := List.Subset.trans h.keeps h'.keeps
  meets := List.append_subset.mpr ⟨List.Subset.trans h.meets h'.keeps, h'.meets⟩
  closed := by
    intro id hid hnew
    by_cases hmet : id ∈ w'.met
    · exact List.Subset.trans (h.closed id hmet hnew) h'.keeps
    · exact h'.closed id hid hmet
  reached := by
    intro id hid hnew
    by_cases hmet : id ∈ w'.met
    · obtain ⟨start, hstart, hreaches⟩ := h.reached id hmet hnew
      exact ⟨start, List.mem_append_left _ hstart, hreaches⟩
    · obtain ⟨start, hstart, hreaches⟩ := h'.reached id hid hmet
      exact ⟨start, List.mem_append_right _ hstart, hreaches⟩
  finished := by
    intro id
    have hkeeps : id ∈ w.met → id ∈ w'.met := fun hid => h.keeps hid
    have hkeeps' : id ∈ w'.met → id ∈ w''.met := fun hid => h'.keeps hid
    rw [h'.finished, h.finished]
    tauto

/-- A package that was not met is finished after a walk through its imports. -/
theorem visit (hid : id ∉ w.met) (h : Leads imports (imports id) { w with met := id :: w.met } w') :
    Leads imports [id] w { w' with finished := w'.finished ++ [id] } where
  keeps := List.Subset.trans (List.subset_cons_self _ _) h.keeps
  meets := by simpa using h.keeps List.mem_cons_self
  closed := by
    intro k hk hnew
    by_cases hkid : k = id
    · exact hkid ▸ h.meets
    · exact h.closed k hk (by simp [hkid, hnew])
  reached := by
    intro k hk hnew
    refine ⟨id, List.mem_singleton_self _, ?_⟩
    by_cases hkid : k = id
    · exact hkid ▸ .refl
    · obtain ⟨start, hstart, hreaches⟩ := h.reached k hk (by simp [hkid, hnew])
      exact .head hstart hreaches
  finished := by
    intro k
    have hmet : id ∈ w'.met := h.keeps List.mem_cons_self
    by_cases hkid : k = id
    · simp [hkid, hid, hmet]
    · simp [h.finished, hkid]

end Leads

theorem walk_nil (fuel : Nat) : walk imports fuel w [] = w := by
  cases fuel <;> rfl

def unmet (known : Finset PackageId) (w : ImportWalk) : Finset PackageId :=
  known.filter (· ∉ w.met)

theorem card_unmet_le {known : Finset PackageId} (h : w.met ⊆ w'.met) :
    (unmet known w').card ≤ (unmet known w).card := by
  apply Finset.card_le_card
  intro id hid
  simp only [unmet, Finset.mem_filter] at hid ⊢
  exact ⟨hid.1, fun hmet => hid.2 (h hmet)⟩

theorem card_unmet_lt {known : Finset PackageId} (hknown : id ∈ known) (hid : id ∉ w.met) :
    (unmet known { w with met := id :: w.met }).card < (unmet known w).card := by
  apply Finset.card_lt_card
  rw [Finset.ssubset_iff_of_subset]
  · exact ⟨id, by simp [unmet, hknown, hid], by simp [unmet]⟩
  · intro k hk
    simp only [unmet, Finset.mem_filter, List.mem_cons, not_or] at hk ⊢
    exact ⟨hk.1, hk.2.2⟩

/-- If every step leads through its package while a condition holds that meeting more does not
break, then so does a run of steps. -/
theorem Leads.foldl {step : ImportWalk → PackageId → ImportWalk} {P : ImportWalk → Prop}
    (hstep : ∀ w id, P w → Leads imports [id] w (step w id))
    (hmore : ∀ w w', P w → w.met ⊆ w'.met → P w') (ids : List PackageId) (hw : P w) :
    Leads imports ids w (ids.foldl step w) := by
  induction ids generalizing w with
  | nil => exact .nil
  | cons id ids ih =>
      have hfirst := hstep w id hw
      exact hfirst.append (ih (hmore _ _ hw hfirst.keeps))

/-- A walk that may go deeper than there are unmet packages with imports is not cut short. -/
theorem leads_walk {known : Finset PackageId} (hknown : ∀ id ∉ known, imports id = [])
    {fuel : Nat} (ids : List PackageId) (w : ImportWalk) (hfuel : (unmet known w).card < fuel) :
    Leads imports ids w (walk imports fuel w ids) := by
  induction fuel generalizing ids w with
  | zero => exact absurd hfuel (Nat.not_lt_zero _)
  | succ fuel ih =>
      refine Leads.foldl (P := fun w => (unmet known w).card < fuel + 1) ?_ ?_ ids hfuel
      · intro w id hw
        split
        · rename_i hmet
          exact .skip hmet
        · rename_i hnew
          refine .visit hnew ?_
          by_cases hid : id ∈ known
          · exact ih _ _ (by have := card_unmet_lt hid hnew; omega)
          · -- Without imports it does not matter how deep the walk may still go.
            rw [hknown id hid, walk_nil]
            exact .nil
      · intro w w' hw hmore
        exact Nat.lt_of_le_of_lt (card_unmet_le hmore) hw

end ImportWalk

open ImportWalk in
/-- The dependencies of a package are the packages that can be reached from it by imports. -/
theorem mem_dependencies_iff {packages : Array Package} {main id : PackageId} :
    id ∈ dependencies packages main ↔ Reaches (importsOf packages) main id := by
  have hknown : ∀ id ∉ Finset.range packages.size, importsOf packages id = [] := by
    intro id hid
    rw [Finset.mem_range, Nat.not_lt] at hid
    rw [importsOf, Array.getElem?_eq_none hid, Option.elim_none]
  have hfuel : (unmet (Finset.range packages.size) {}).card < packages.size + 1 := by
    simp [unmet]
  have hleads := leads_walk hknown [main] {} hfuel
  rw [dependencies, hleads.finished]
  simp only [List.not_mem_nil, not_false_eq_true, and_true, false_or]
  constructor
  · intro hid
    obtain ⟨start, hstart, hreaches⟩ := hleads.reached id hid List.not_mem_nil
    exact List.mem_singleton.mp hstart ▸ hreaches
  · intro hreaches
    induction hreaches with
    | refl => exact hleads.meets (List.mem_singleton_self main)
    | tail _ himport ih => exact hleads.closed _ ih List.not_mem_nil himport

end Unclosed
