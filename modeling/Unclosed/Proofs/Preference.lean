import Unclosed.Proofs.Settings

/-!
# Groups of preferences

Preferences are carried out and logged by two walks that open groups as they meet them.  Both pass the
same leaves in the same order, so a list of preferences means what the list of its leaves means, and its
log tells which configuration it leads to.
-/

namespace Unclosed.Preference

/-! ## Leaves -/

/-- A preference that changes something by itself. -/
inductive Leaf where
  | generated (on : Bool)
  | declarations (on : Bool)
  | assignments (on : Bool)
  | closers (names : Option (List String))
  deriving DecidableEq, Repr

def Leaf.preference : Leaf → Preference
  | .generated on => .generated on
  | .declarations on => .declarations on
  | .assignments on => .assignments on
  | .closers names => .closers names

mutual

/-- What stands in a preference from left to right, at any depth: leaves, and `none` for what is
absent. -/
def entries : Preference → List (Option Leaf)
  | .absent => [none]
  | .generated on => [some (.generated on)]
  | .declarations on => [some (.declarations on)]
  | .assignments on => [some (.assignments on)]
  | .closers names => [some (.closers names)]
  | .group members => entriesAll members
termination_by structural p => p

def entriesAll : List Preference → List (Option Leaf)
  | [] => []
  | p :: ps => p.entries ++ entriesAll ps
termination_by structural ps => ps

end

def leaves (ps : List Preference) : List Leaf :=
  (entriesAll ps).filterMap id

/-! ## Opening groups -/

/-- What holds of no preferences, is kept by one more that is absent or a leaf, and holds of a group and
what follows it if it holds of the members and what follows them, holds of all preferences. -/
@[elab_as_elim]
theorem openingInduction {motive : List Preference → Prop} (nil : motive [])
    (absent : ∀ ps, motive ps → motive (.absent :: ps))
    (leaf : ∀ (l : Leaf) ps, motive ps → motive (l.preference :: ps))
    (group : ∀ members ps, motive (members ++ ps) → motive (.group members :: ps))
    (ps : List Preference) : motive ps := by
  -- A preference can be put in front, and so can the members of a group one after the other.
  have hcons : ∀ p : Preference, ∀ ps, motive ps → motive (p :: ps) := by
    refine @Preference.rec (fun p => ∀ ps, motive ps → motive (p :: ps))
      (fun members => ∀ ps, motive ps → motive (members ++ ps)) absent
      (fun on => leaf (.generated on)) (fun on => leaf (.declarations on))
      (fun on => leaf (.assignments on)) (fun names => leaf (.closers names)) ?_ ?_ ?_
    · intro members ih ps hps
      exact group members ps (ih ps hps)
    · intro ps hps
      exact hps
    · intro p members hp hmembers ps hps
      exact hp _ (hmembers ps hps)
  induction ps with
  | nil => exact nil
  | cons p ps ih => exact hcons p ps ih

theorem applyAll_append (ps qs : List Preference) (c : Config) :
    applyAll (ps ++ qs) c = applyAll qs (applyAll ps c) := by
  rw [applyAll_eq_foldl, applyAll_eq_foldl, applyAll_eq_foldl, List.foldl_append]

theorem loggedAll_append (ps qs : List Preference) :
    loggedAll (ps ++ qs) = loggedAll ps ++ loggedAll qs := by
  induction ps with
  | nil => rfl
  | cons p ps ih => rw [List.cons_append, loggedAll, loggedAll, ih, List.append_assoc]

theorem entriesAll_append (ps qs : List Preference) :
    entriesAll (ps ++ qs) = entriesAll ps ++ entriesAll qs := by
  induction ps with
  | nil => rfl
  | cons p ps ih => rw [List.cons_append, entriesAll, entriesAll, ih, List.append_assoc]

/-- A group is carried out like its members in its place. -/
theorem applyAll_group (members ps : List Preference) (c : Config) :
    applyAll (.group members :: ps) c = applyAll (members ++ ps) c :=
  (applyAll_append members ps c).symm

/-- A group is logged like its members in its place. -/
theorem loggedAll_group (members ps : List Preference) :
    loggedAll (.group members :: ps) = loggedAll (members ++ ps) :=
  (loggedAll_append members ps).symm

theorem entriesAll_group (members ps : List Preference) :
    entriesAll (.group members :: ps) = entriesAll (members ++ ps) :=
  (entriesAll_append members ps).symm

theorem entriesAll_leaf (l : Leaf) (ps : List Preference) :
    entriesAll (l.preference :: ps) = some l :: entriesAll ps := by
  cases l <;> rfl

/-! ## Carrying out -/

/-- Preferences are carried out like their leaves. -/
theorem applyAll_map_leaves (ps : List Preference) (c : Config) :
    applyAll ((leaves ps).map Leaf.preference) c = applyAll ps c := by
  induction ps using openingInduction generalizing c with
  | nil => rfl
  | absent ps ih => exact ih c
  | leaf l ps ih =>
      rw [leaves, entriesAll_leaf]
      exact ih (l.preference.apply c)
  | group members ps ih => rw [leaves, entriesAll_group, applyAll_group, ← leaves, ih]

namespace Leaf

def flag : Leaf → Flag
  | .generated _ => .generated
  | .declarations _ => .declarations
  | .assignments _ => .assignments
  | .closers _ => .closer

/-- The value that the leaf has for its flag.  There is none without names. -/
def value? : Leaf → Option FlagValue
  | .generated on | .declarations on | .assignments on => some (.switch on)
  | .closers names => if names.getD [] = [] then none else some (.names names)

/-- The value that the leaf gives the flag, if it is about this flag and has a value. -/
def given? (f : Flag) (l : Leaf) : Option FlagValue :=
  if l.flag = f then l.value? else none

/-- A leaf gives its flag the value that it has, if it has one, and changes no other flag. -/
theorem get_apply (l : Leaf) (c : Config) (f : Flag) :
    (l.preference.apply c).get f = (l.given? f).getD (c.get f) := by
  have hswitch : ∀ g : Flag, g.isSwitch → ∀ on, (c.setSwitch g on).get f =
      (if g = f then some (FlagValue.switch on) else none).getD (c.get f) := by
    intro g hg on
    rw [Config.get_setSwitch hg]
    by_cases hgf : g = f
    · simp [hgf]
    · simp [hgf, Ne.symm hgf]
  cases l with
  | generated on => exact hswitch .generated rfl on
  | declarations on => exact hswitch .declarations rfl on
  | assignments on => exact hswitch .assignments rfl on
  | closers names =>
      -- Only a list with a name in it replaces the closers.
      rcases names with _ | _ | ⟨name, names⟩
      all_goals cases f <;> rfl

end Leaf

/-- After some leaves each flag has the value of the last leaf that gives it one. -/
theorem get_applyAll_leaves (ls : List Leaf) (c : Config) (f : Flag) :
    (applyAll (ls.map Leaf.preference) c).get f =
      (ls.filterMap (·.given? f)).getLast?.getD (c.get f) := by
  rw [applyAll_eq_foldl, List.foldl_map]
  exact reading_foldl (fun c : Config => c.get f) (fun c l => l.get_apply c f) c ls

/-! ## Logging -/

/-- What is logged for a preference that is absent. -/
def marker : Attribute := ("nil", .text "<nil>")

/-- The leaf that an attribute was logged for.  Markers were logged for none. -/
def Leaf.ofAttribute? : Attribute → Option Leaf
  | ("generated", .switch on) => some (.generated on)
  | ("declarations", .switch on) => some (.declarations on)
  | ("assignments", .switch on) => some (.assignments on)
  | ("closers", .names names) => some (.closers names)
  | _ => none

/-- A leaf is logged as its attribute, which tells it. -/
theorem Leaf.logged_eq (l : Leaf) :
    ∃ a, l.preference.logged = [a] ∧ l.preference.attribute? = some a ∧ ofAttribute? a = some l := by
  cases l <;> exact ⟨_, rfl, rfl, rfl⟩

/-- The log has the attribute of each leaf and a marker for each absent preference, in order. -/
theorem map_some_loggedAll (ps : List Preference) :
    (loggedAll ps).map some =
      (entriesAll ps).map fun entry => entry.elim (some marker) (·.preference.attribute?) := by
  induction ps using openingInduction with
  | nil => rfl
  | absent ps ih => exact congrArg (some marker :: ·) ih
  | leaf l ps ih =>
      obtain ⟨a, hlogged, hattribute, -⟩ := l.logged_eq
      rw [loggedAll, hlogged, entriesAll_leaf, List.map_cons, Option.elim_some, hattribute, ← ih]
      rfl
  | group members ps ih => rw [loggedAll_group, entriesAll_group, ih]

/-- The log tells the leaves, in order. -/
theorem filterMap_loggedAll (ps : List Preference) :
    (loggedAll ps).filterMap Leaf.ofAttribute? = leaves ps := by
  induction ps using openingInduction with
  | nil => rfl
  | absent ps ih => exact ih
  | leaf l ps ih =>
      obtain ⟨a, hlogged, -, hread⟩ := l.logged_eq
      rw [loggedAll, hlogged, leaves, entriesAll_leaf, List.singleton_append,
        List.filterMap_cons_some hread, ih]
      rfl
  | group members ps ih => rw [loggedAll_group, leaves, entriesAll_group, ← leaves, ih]

/-- **Groups mean their leaves.**  However deep preferences are grouped, to carry them out is to carry
out their leaves from left to right.  Then each flag has the value of the last leaf that gives it one,
where closers without a name give none, and keeps the value it had if there is no such leaf.  The log
has the attributes of the same leaves in the same order, with a marker for each absent preference, so
it tells the leaves, and to carry out what it tells leads to the same configuration. -/
theorem applyAll_by_leaves (ps : List Preference) (c : Config) :
    applyAll ps c = applyAll ((leaves ps).map Leaf.preference) c ∧
      (∀ f : Flag, (applyAll ps c).get f =
        ((leaves ps).filterMap (·.given? f)).getLast?.getD (c.get f)) ∧
      (loggedAll ps).map some =
        (entriesAll ps).map (fun entry => entry.elim (some marker) (·.preference.attribute?)) ∧
      (loggedAll ps).filterMap Leaf.ofAttribute? = leaves ps ∧
      applyAll (((loggedAll ps).filterMap Leaf.ofAttribute?).map Leaf.preference) c =
        applyAll ps c := by
  refine ⟨(applyAll_map_leaves ps c).symm, ?_, map_some_loggedAll ps, filterMap_loggedAll ps, ?_⟩
  · intro f
    rw [← applyAll_map_leaves, get_applyAll_leaves]
  · rw [filterMap_loggedAll, applyAll_map_leaves]

example :
    attribute? (.group [.generated true, .absent,
      .group [.declarations false, .closers (some ["io.Closer"])]]) =
    some ("options", .group [("generated", .switch true), ("nil", .text "<nil>"),
      ("declarations", .switch false), ("closers", .names (some ["io.Closer"]))]) := rfl

end Unclosed.Preference
