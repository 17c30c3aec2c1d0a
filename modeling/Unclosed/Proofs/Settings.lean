import Mathlib.Data.List.Perm.Basic
import Unclosed.Proofs.Flags
import Unclosed.Proofs.NameList

/-!
# Settings and flags

An analyzer is configured by settings or by flags.  Settings become preferences, and flags are set
from texts.  A flag that is set from a text does what a preference does, and preferences of different
kinds can be carried out in any order, so both ways lead to the same configuration.
-/

namespace Unclosed

/-! ## Preferences in any order -/

namespace Preference

theorem applyAll_eq_foldl (ps : List Preference) (c : Config) :
    applyAll ps c = ps.foldl (fun c p => p.apply c) c := by
  induction ps generalizing c with
  | nil => rfl
  | cons p ps ih => exact ih (p.apply c)

def Commutes (p q : Preference) : Prop :=
  ∀ c, q.apply (p.apply c) = p.apply (q.apply c)

/-- Changes that commute can be carried out in any order. -/
theorem applyAll_perm {ps qs : List Preference} (h : ps.Perm qs)
    (hcomm : ∀ p ∈ ps, ∀ q ∈ ps, p.Commutes q) (c : Config) :
    applyAll ps c = applyAll qs c := by
  rw [applyAll_eq_foldl, applyAll_eq_foldl]
  exact h.foldl_eq' (fun p hp q hq c => hcomm p hp q hq c) c

theorem Commutes.refl (p : Preference) : p.Commutes p :=
  fun _ => rfl

theorem Commutes.symm {p q : Preference} (h : p.Commutes q) : q.Commutes p :=
  fun c => (h c).symm

/-- The two checks share a mask, but not a bit. -/
theorem Commutes.declarations_assignments (on on' : Bool) :
    Commutes (.declarations on) (.assignments on') := by
  intro c
  have hchecks : (c.checks.set Check.declarations on).set Check.assignments on' =
      (c.checks.set Check.assignments on').set Check.declarations on :=
    Mask.set_comm (by decide)
  exact congrArg (fun checks => { c with checks }) hchecks

end Preference

/-! ## Calls that do what preferences do -/

/-- The call sets a flag, and does what the preference does. -/
def Preference.IsSetBy (p : Preference) (call : String × String) : Prop :=
  ∀ a : Analyzer, a.trySet call.1 call.2 = ({ a with config := p.apply a.config }, none)

/-- Calls that do what preferences do lead to the configuration of the preferences. -/
theorem Analyzer.setFlags_eq {ps : List Preference} {calls : List (String × String)}
    (h : List.Forall₂ Preference.IsSetBy ps calls) (a : Analyzer) :
    a.setFlags calls = .ok { a with config := Preference.applyAll ps a.config } := by
  induction h generalizing a with
  | nil => rfl
  | @cons p call ps calls hcall _ ih =>
      rw [setFlags, hcall a]
      exact ih { a with config := p.apply a.config }

/-- An analyzer that is made and whose flags are set reports what its configuration leads to. -/
theorem Analyzer.report_eq {origin : Origin} {calls : List (String × String)} {a a' : Analyzer}
    (hmake : make origin = .ok a) (hset : a.setFlags calls = .ok a') (p : Program)
    (files : Option (List SourceFile)) :
    report origin calls p files = (a'.config.run p files).mapError .run := by
  simp only [report, hmake, hset, bind, Except.bind, Except.mapError]

/-- The texts `true` and `false` switch a flag. -/
theorem Analyzer.trySet_switch {f : Flag} (hf : f.isSwitch) (a : Analyzer) (on : Bool) :
    a.trySet f.name (FlagValue.switch on).text =
      ({ a with config := a.config.setSwitch f on }, none) := by
  apply trySet_of_set_ok
  rw [Config.set_of_isSwitch hf]
  cases on <;> rfl

/-- A list of names is set from what it is written as, unless one of the names is not qualified. -/
theorem Analyzer.trySet_closer {names : List String} (hne : names ≠ [])
    (h : ∀ name ∈ names, Listable name) (a : Analyzer) :
    a.trySet "closer" (Text.join ',' names) =
      (names.find? (!isQualified ·)).elim
        ({ a with config := { a.config with closers := names } }, none)
        fun name => (a, some (.invalid (.notQualified name))) := by
  have hset := a.config.set_closer (Text.join ',' names)
  rw [listedNames_join h, if_neg hne] at hset
  cases hbad : names.find? (!isQualified ·) with
  | some name =>
      rw [hbad] at hset
      exact trySet_of_set_error hset
  | none =>
      rw [hbad] at hset
      exact trySet_of_set_ok hset

namespace Settings

variable {s : Settings}

/-- The closer names, none if there is no list. -/
def closerNames (s : Settings) : List String :=
  s.closers.getD []

/-- The calls that set flags as the settings say: generated files are checked, and each setting that
is present is the value of its flag. -/
def calls (s : Settings) : List (String × String) :=
  ("generated", "true") ::
    ((s.declarations.toList.map fun on => ("declarations", (FlagValue.switch on).text)) ++
      (s.assignments.toList.map fun on => ("assignments", (FlagValue.switch on).text)) ++
      if s.closerNames = [] then [] else [("closer", Text.join ',' s.closerNames)])

theorem preferences_eq (s : Settings) :
    s.preferences =
      s.declarations.toList.map .declarations ++ s.assignments.toList.map .assignments ++
        if s.closerNames = [] then [] else [.closers (some s.closerNames)] := by
  obtain ⟨declarations, assignments, closers⟩ := s
  rcases closers with _ | _ | ⟨name, names⟩ <;> rfl

/-- What the settings can prefer.  Of each kind there is at most one preference. -/
theorem mem_preferences {p : Preference} (h : p ∈ s.preferences) :
    (∃ on, s.declarations = some on ∧ p = .declarations on) ∨
      (∃ on, s.assignments = some on ∧ p = .assignments on) ∨
      ∃ name names, s.closerNames = name :: names ∧ p = .closers (some (name :: names)) := by
  rw [preferences_eq, List.mem_append, List.mem_append] at h
  rcases h with (h | h) | h
  · obtain ⟨on, hon, rfl⟩ := List.mem_map.mp h
    exact .inl ⟨on, Option.mem_toList.mp hon, rfl⟩
  · obtain ⟨on, hon, rfl⟩ := List.mem_map.mp h
    exact .inr (.inl ⟨on, Option.mem_toList.mp hon, rfl⟩)
  · refine .inr (.inr ?_)
    cases hnames : s.closerNames with
    | nil => simp [hnames] at h
    | cons name names => exact ⟨name, names, rfl, by simpa [hnames] using h⟩

/-- Two preferences of the settings are the same or of different kinds, so their order does not
matter. -/
theorem commutes_of_mem_preferences {p q : Preference} (hp : p ∈ s.preferences)
    (hq : q ∈ s.preferences) : p.Commutes q := by
  rcases mem_preferences hp with ⟨on, hon, rfl⟩ | ⟨on, hon, rfl⟩ | ⟨name, names, hnames, rfl⟩
  · rcases mem_preferences hq with ⟨on', hon', rfl⟩ | ⟨on', -, rfl⟩ | ⟨name, names, -, rfl⟩
    · cases hon.symm.trans hon'
      exact .refl _
    · exact .declarations_assignments on on'
    · exact fun c => rfl
  · rcases mem_preferences hq with ⟨on', -, rfl⟩ | ⟨on', hon', rfl⟩ | ⟨name, names, -, rfl⟩
    · exact (Preference.Commutes.declarations_assignments on' on).symm
    · cases hon.symm.trans hon'
      exact .refl _
    · exact fun c => rfl
  · rcases mem_preferences hq with ⟨on, -, rfl⟩ | ⟨on, -, rfl⟩ | ⟨name', names', hnames', rfl⟩
    · exact fun c => rfl
    · exact fun c => rfl
    · cases hnames.symm.trans hnames'
      exact .refl _

/-- The preference for generated files can be carried out before or after those of the settings. -/
theorem commutes_generated {p : Preference} (hp : p ∈ s.preferences) (on : Bool) :
    p.Commutes (.generated on) := by
  rcases mem_preferences hp with ⟨on', -, rfl⟩ | ⟨on', -, rfl⟩ | ⟨name, names, -, rfl⟩
  all_goals exact fun c => rfl

/-- The preferences of a host program lead to the same in any order. -/
theorem config_hosted {ps : List Preference} (h : ps.Perm (.generated true :: s.preferences)) :
    (Analyzer.hosted s).config = Preference.applyAll ps .default := by
  have hperm := (List.perm_append_singleton _ _).trans h.symm
  refine Preference.applyAll_perm hperm ?_ _
  intro p hp q hq
  rw [List.mem_append, List.mem_singleton] at hp hq
  rcases hp with hp | rfl
  · rcases hq with hq | rfl
    · exact commutes_of_mem_preferences hp hq
    · exact commutes_generated hp true
  · rcases hq with hq | rfl
    · exact (commutes_generated hq true).symm
    · exact .refl _

theorem validate_eq (s : Settings) :
    s.validate = (s.closerNames.find? (!isQualified ·)).elim (.ok ())
      fun name => .error (.notQualified name) := by
  rw [validate, closerNames]
  cases (s.closers.getD []).find? (!isQualified ·) with
  | some name => rfl
  | none => rfl

/-- Settings are valid if all names are qualified. -/
theorem find?_of_validate (h : s.validate = .ok ()) :
    s.closerNames.find? (!isQualified ·) = none := by
  rw [validate_eq] at h
  cases hbad : s.closerNames.find? (!isQualified ·) with
  | some name =>
      rw [hbad] at h
      cases h
  | none => rfl

theorem make_settings {value : SettingValue} (hread : read value = .ok s)
    (hvalid : s.validate = .ok ()) :
    Analyzer.make (.settings value) = .ok (Analyzer.hosted s) := by
  simp only [Analyzer.make, Analyzer.ofSettings, hread, hvalid, bind, Except.bind, pure, Except.pure,
    Except.mapError]

theorem forall₂_calls (h : ∀ name ∈ s.closerNames, Listable name) (hvalid : s.validate = .ok ()) :
    List.Forall₂ Preference.IsSetBy (.generated true :: s.preferences) s.calls := by
  rw [preferences_eq, calls]
  refine .cons (fun a => a.trySet_switch (f := .generated) rfl true) ?_
  refine List.rel_append (List.rel_append ?_ ?_) ?_
  · cases s.declarations with
    | none => exact .nil
    | some on => exact .cons (fun a => a.trySet_switch (f := .declarations) rfl on) .nil
  · cases s.assignments with
    | none => exact .nil
    | some on => exact .cons (fun a => a.trySet_switch (f := .assignments) rfl on) .nil
  · have hgood := find?_of_validate hvalid
    cases hnames : s.closerNames with
    | nil => exact .nil
    | cons name names =>
        rw [hnames] at h hgood
        refine .cons (fun a => ?_) .nil
        have hset := a.trySet_closer (List.cons_ne_nil _ _) h
        rw [hgood] at hset
        exact hset

/-- The calls lead to the configuration of the host program, in whatever order they are made. -/
theorem setFlags_calls (h : ∀ name ∈ s.closerNames, Listable name) (hvalid : s.validate = .ok ())
    {calls : List (String × String)} (hcalls : calls.Perm s.calls) (a : Analyzer)
    (ha : a.config = .default) :
    a.setFlags calls = .ok { a with config := (Analyzer.hosted s).config } := by
  obtain ⟨ps, hps, hperm⟩ := List.perm_comp_forall₂ hcalls (forall₂_calls h hvalid).flip
  rw [Analyzer.setFlags_eq hps.flip, ha, config_hosted hperm]

/-- **Settings and flags configure the same analyzer.**  If the closer names can be listed, then the
settings are valid if the closer flag can be set to the list of them, and otherwise both fail on the
same name, the first that is not qualified.  Valid settings lead to the configuration that a new
analyzer gets by calls of its flags, in whatever order they are made, and to the same reports. -/
theorem configure_as_flags (s : Settings) (h : ∀ name ∈ s.closerNames, Listable name) :
    (s.closerNames ≠ [] → ∀ a : Analyzer,
      (s.validate = .ok () ↔ (a.trySet "closer" (Text.join ',' s.closerNames)).2 = none) ∧
      (s.validate ≠ .ok () → ∃ before name after, s.closerNames = before ++ name :: after ∧
        (∀ n ∈ before, isQualified n) ∧ ¬isQualified name ∧
        s.validate = .error (.notQualified name) ∧
        (a.trySet "closer" (Text.join ',' s.closerNames)).2 =
          some (.invalid (.notQualified name)))) ∧
    (s.validate = .ok () → ∀ calls, calls.Perm s.calls →
      ∃ a, (Analyzer.new []).setFlags calls = .ok a ∧ a.config = (Analyzer.hosted s).config ∧
        ∀ value, read value = .ok s → ∀ p files,
          Analyzer.report (.settings value) [] p files =
            Analyzer.report (.preferences []) calls p files) := by
  constructor
  · intro hne a
    rw [Analyzer.trySet_closer hne h, validate_eq]
    cases hbad : s.closerNames.find? (!isQualified ·) with
    | none => simp
    | some name =>
        obtain ⟨hname, before, after, hsplit, hbefore⟩ := List.find?_eq_some_iff_append.mp hbad
        refine ⟨by simp, fun _ => ⟨before, name, after, hsplit, ?_, ?_, rfl, rfl⟩⟩
        · simpa using hbefore
        · simpa using hname
  · intro hvalid calls hcalls
    have hset := setFlags_calls h hvalid hcalls (Analyzer.new []) rfl
    refine ⟨_, hset, rfl, ?_⟩
    intro value hread p files
    rw [Analyzer.report_eq (make_settings hread hvalid) rfl, Analyzer.report_eq rfl hset]

namespace Sample

/-- Settings with a path that holds a dot, and without a word on assignments. -/
def settings : Settings :=
  { declarations := some false, closers := some ["example.org/db.Conn", "io.Closer"] }

/-- The flags in another order than that of the settings lead to the same configuration. -/
theorem configure_as_flags_conn :
    (∀ name ∈ settings.closerNames, Listable name) ∧
      ∃ a, (Analyzer.new []).setFlags
          [("closer", "example.org/db.Conn,io.Closer"), ("declarations", "false"),
            ("generated", "true")] = .ok a ∧
        a.config = (Analyzer.hosted settings).config := by
  have h : ∀ name ∈ settings.closerNames, Listable name := by decide +kernel
  have hcalls : [("closer", "example.org/db.Conn,io.Closer"), ("declarations", "false"),
      ("generated", "true")].Perm settings.calls := by decide +kernel
  obtain ⟨a, hset, hconfig, -⟩ :=
    (configure_as_flags settings h).2 (by decide +kernel) _ hcalls
  exact ⟨h, a, hset, hconfig⟩

end Sample

end Settings

end Unclosed
