import Unclosed.Analyzer
import Unclosed.Proofs.History
import Unclosed.Proofs.NameList

/-!
# Flags keep what they were last set to

Setting a flag either fails and changes nothing, or gives the flag the value that the text stands for
and changes no other flag, although two of the flags share a mask.  After any history of calls each
flag has the value of the last call that succeeded for it.
-/

namespace Unclosed

/-! ## What texts stand for -/

/-- The value that a text stands for as a value of the flag. -/
def Flag.value? (f : Flag) (text : String) : Option FlagValue :=
  if f.isSwitch then
    if text ∈ onTexts then some (.switch true)
    else if text ∈ offTexts then some (.switch false)
    else none
  else if listedNames text ≠ [] ∧ ∀ name ∈ listedNames text, isQualified name then
    some (.names (some (listedNames text)))
  else none

/-- The value that a call gives the flag, if it is a call for this flag and has a value. -/
def Flag.given? (f : Flag) (call : String × String) : Option FlagValue :=
  if call.1 = f.name then f.value? call.2 else none

/-- A name belongs to the flag that is called so. -/
theorem Flag.ofName?_eq_some_iff {name : String} {f : Flag} :
    ofName? name = some f ↔ name = f.name := by
  constructor
  · intro h
    simpa [eq_comm] using List.find?_some h
  · rintro rfl
    cases f <;> decide

theorem Flag.name_injective {f g : Flag} (h : f.name = g.name) : f = g :=
  Option.some.inj ((ofName?_eq_some_iff.mpr rfl).symm.trans (ofName?_eq_some_iff.mpr h))

/-- What a call by the name of a flag gives to the flags. -/
theorem Flag.given?_name {f g : Flag} {text : String} :
    f.given? (g.name, text) = if f = g then g.value? text else none := by
  by_cases hfg : f = g
  · simp [given?, hfg]
  · rw [if_neg hfg]
    exact if_neg fun hname => hfg (name_injective hname.symm)

namespace Config

variable {c : Config} {on : Bool} {f g : Flag} {text : String} {v : FlagValue}

/-! ## Switches -/

@[simp] theorem declarations_setDeclarations : (c.setDeclarations on).declarations = on :=
  Mask.enabled_set_self (by decide)

@[simp] theorem assignments_setAssignments : (c.setAssignments on).assignments = on :=
  Mask.enabled_set_self (by decide)

@[simp] theorem generated_setGenerated : (c.setGenerated on).generated = on :=
  Mask.enabled_set_self (by decide)

/-- The checks share a mask, but not a bit. -/
@[simp] theorem assignments_setDeclarations :
    (c.setDeclarations on).assignments = c.assignments :=
  Mask.enabled_set_of_and_eq_zero (by decide)

@[simp] theorem declarations_setAssignments :
    (c.setAssignments on).declarations = c.declarations :=
  Mask.enabled_set_of_and_eq_zero (by decide)

/-- Setting a switch changes that switch and no other flag. -/
theorem get_setSwitch (hf : f.isSwitch) :
    (c.setSwitch f on).get g = if g = f then .switch on else c.get g := by
  cases f with
  | assignments => cases g <;> simp [setSwitch, get] <;> rfl
  | declarations => cases g <;> simp [setSwitch, get] <;> rfl
  | generated => cases g <;> simp [setSwitch, get] <;> rfl
  | closer => cases hf

/-- The flags that are switches are set alike. -/
theorem set_of_isSwitch (hf : f.isSwitch) :
    c.set f text =
      if text ∈ onTexts then .ok () (c.setSwitch f true)
      else if text ∈ offTexts then .ok () (c.setSwitch f false)
      else .error (.notSwitch text) c := by
  rw [set, Flag.update, if_pos hf, EStateM.run_bind, readSwitch]
  by_cases hon : text ∈ onTexts
  · rw [if_pos hon, if_pos hon]
    rfl
  · rw [if_neg hon, if_neg hon]
    by_cases hoff : text ∈ offTexts
    · rw [if_pos hoff, if_pos hoff]
      rfl
    · rw [if_neg hoff, if_neg hoff]
      rfl

/-! ## Setting a flag from a text -/

/-- What setting a flag from a text can lead to: the text stands for a value, the flag gets it and no
other flag changes, or the text stands for none, and an error leaves the configuration as it was. -/
inductive SetOutcome (c : Config) (f : Flag) (text : String) :
    EStateM.Result ValueError Config Unit → Prop
  | set {v : FlagValue} {c' : Config} : f.value? text = some v →
      (∀ g, c'.get g = if g = f then v else c.get g) → SetOutcome c f text (.ok () c')
  | failed {e : ValueError} : f.value? text = none → SetOutcome c f text (.error e c)

theorem setOutcome_of_isSwitch (hf : f.isSwitch) : SetOutcome c f text (c.set f text) := by
  have hvalue : f.value? text = if text ∈ onTexts then some (.switch true)
      else if text ∈ offTexts then some (.switch false) else none := if_pos hf
  rw [set_of_isSwitch hf]
  by_cases hon : text ∈ onTexts
  · rw [if_pos hon] at hvalue ⊢
    exact .set hvalue fun g => get_setSwitch hf
  · rw [if_neg hon] at hvalue ⊢
    by_cases hoff : text ∈ offTexts
    · rw [if_pos hoff] at hvalue ⊢
      exact .set hvalue fun g => get_setSwitch hf
    · rw [if_neg hoff] at hvalue ⊢
      exact .failed hvalue

theorem setOutcome_closer : SetOutcome c .closer text (c.set .closer text) := by
  have hvalue : Flag.closer.value? text =
      if listedNames text ≠ [] ∧ ∀ name ∈ listedNames text, isQualified name then
        some (.names (some (listedNames text))) else none := rfl
  rw [set_closer]
  cases hbad : (listedNames text).find? (!isQualified ·) with
  | some name =>
      have hname : ¬isQualified name := by simpa using List.find?_some hbad
      exact .failed (hvalue.trans (if_neg fun hnames =>
        hname (hnames.2 name (List.mem_of_find?_eq_some hbad))))
  | none =>
      have hgood : ∀ name ∈ listedNames text, isQualified name := by simpa using hbad
      by_cases hnil : listedNames text = []
      · rw [Option.elim_none, if_pos hnil]
        exact .failed (hvalue.trans (if_neg fun hnames => hnames.1 hnil))
      · rw [Option.elim_none, if_neg hnil]
        refine .set (hvalue.trans (if_pos ⟨hnil, hgood⟩)) fun g => ?_
        cases g <;> rfl

theorem setOutcome_set (c : Config) (f : Flag) (text : String) :
    SetOutcome c f text (c.set f text) := by
  cases f with
  | closer => exact setOutcome_closer
  | assignments => exact setOutcome_of_isSwitch rfl
  | declarations => exact setOutcome_of_isSwitch rfl
  | generated => exact setOutcome_of_isSwitch rfl

end Config

namespace Analyzer

/-! ## Histories of calls -/

def afterCalls (a : Analyzer) (calls : List (String × String)) : Analyzer :=
  calls.foldl (fun a call => (a.trySet call.1 call.2).1) a

theorem trySet_of_set_ok {a : Analyzer} {f : Flag} {text : String} {c : Config}
    (h : a.config.set f text = .ok () c) :
    a.trySet f.name text = ({ a with config := c }, none) := by
  simp only [trySet, Flag.ofName?_eq_some_iff.mpr rfl, h]

theorem trySet_of_set_error {a : Analyzer} {f : Flag} {text : String} {e : ValueError} {c : Config}
    (h : a.config.set f text = .error e c) :
    a.trySet f.name text = ({ a with config := c }, some (.invalid e)) := by
  simp only [trySet, Flag.ofName?_eq_some_iff.mpr rfl, h]

/-- A call by the name of a flag gives it the value of the text and changes no other flag, or fails
because there is no such value and changes nothing. -/
theorem trySet_cases (a : Analyzer) (f : Flag) (text : String) :
    (∃ v, f.value? text = some v ∧ (a.trySet f.name text).2 = none ∧
      ∀ g, (a.trySet f.name text).1.config.get g = if g = f then v else a.config.get g) ∨
    f.value? text = none ∧ (a.trySet f.name text).2.isSome ∧ (a.trySet f.name text).1 = a := by
  have houtcome := a.config.setOutcome_set f text
  generalize hset : a.config.set f text = result at houtcome
  cases houtcome with
  | set hvalue hget =>
      rw [trySet_of_set_ok hset]
      exact .inl ⟨_, hvalue, rfl, hget⟩
  | failed hvalue =>
      rw [trySet_of_set_error hset]
      exact .inr ⟨hvalue, rfl, rfl⟩

/-- A call by a name that no flag has changes nothing. -/
theorem trySet_of_ofName?_eq_none {a : Analyzer} {name : String} (h : Flag.ofName? name = none)
    (text : String) : a.trySet name text = (a, some (.unknown name)) := by
  rw [trySet, h]

/-- A call that fails changes nothing. -/
theorem trySet_of_isSome {a : Analyzer} {name text : String} (h : (a.trySet name text).2.isSome) :
    (a.trySet name text).1 = a := by
  cases hname : Flag.ofName? name with
  | none => rw [trySet_of_ofName?_eq_none hname]
  | some f =>
      obtain rfl := Flag.ofName?_eq_some_iff.mp hname
      rcases trySet_cases a f text with ⟨v, -, hnone, -⟩ | ⟨-, -, hsame⟩
      · rw [hnone] at h
        cases h
      · exact hsame

/-- One call gives a flag the value that it stands for, if it does, and changes nothing else. -/
theorem get_trySet (a : Analyzer) (call : String × String) (f : Flag) :
    (a.trySet call.1 call.2).1.config.get f = (f.given? call).getD (a.config.get f) := by
  obtain ⟨name, text⟩ := call
  cases hname : Flag.ofName? name with
  | none =>
      have hgiven : f.given? (name, text) = none := by
        apply if_neg
        intro h
        rw [Flag.ofName?_eq_some_iff.mpr h] at hname
        cases hname
      rw [hgiven, trySet_of_ofName?_eq_none hname, Option.getD_none]
  | some g =>
      obtain rfl := Flag.ofName?_eq_some_iff.mp hname
      rw [Flag.given?_name]
      rcases trySet_cases a g text with ⟨v, hvalue, -, hget⟩ | ⟨hvalue, -, hsame⟩
      · rw [hget, hvalue]
        split
        · rfl
        · rfl
      · rw [hsame, hvalue, ite_self, Option.getD_none]

/-- A call by the name of a flag succeeds if the text stands for a value of the flag. -/
theorem trySet_eq_none_iff (a : Analyzer) (f : Flag) (text : String) :
    (a.trySet f.name text).2 = none ↔ (f.value? text).isSome := by
  rcases trySet_cases a f text with ⟨v, hvalue, hnone, -⟩ | ⟨hvalue, herror, -⟩
  · simp [hvalue, hnone]
  · simp [hvalue, Option.isSome_iff_ne_none.mp herror]

/-- After any history of calls each flag has the value of the last call that gave it one. -/
theorem get_afterCalls (a : Analyzer) (calls : List (String × String)) (f : Flag) :
    (a.afterCalls calls).config.get f =
      (calls.filterMap f.given?).getLast?.getD (a.config.get f) :=
  reading_foldl (fun a : Analyzer => a.config.get f) (fun a call => get_trySet a call f) a calls

/-- **Flags keep what they were last set to.**  Whatever an analyzer was made from and however its
flags were called before, a call that fails changes nothing, and a call that succeeds changes no
other flag.  Calls succeed if their text stands for a value of the flag, and after a history of calls
each flag has the value of the last call that succeeded for it, or the one it started with. -/
theorem get_after_history (preferences : List Preference) (calls : List (String × String)) :
    (∀ name text, (((new preferences).afterCalls calls).trySet name text).2.isSome →
      (((new preferences).afterCalls calls).trySet name text).1 =
        (new preferences).afterCalls calls) ∧
    (∀ name text, (((new preferences).afterCalls calls).trySet name text).2 = none →
      ∀ f : Flag, f.name ≠ name →
        (((new preferences).afterCalls calls).trySet name text).1.config.get f =
          ((new preferences).afterCalls calls).config.get f) ∧
    (∀ (f : Flag) text, (((new preferences).afterCalls calls).trySet f.name text).2 = none ↔
      (f.value? text).isSome) ∧
    ∀ f : Flag, ((new preferences).afterCalls calls).config.get f =
      (calls.filterMap f.given?).getLast?.getD ((new preferences).config.get f) := by
  refine ⟨fun name text => trySet_of_isSome, ?_, trySet_eq_none_iff _, get_afterCalls _ calls⟩
  intro name text _ f hname
  have hgiven : f.given? (name, text) = none := if_neg hname.symm
  rw [get_trySet _ (name, text), hgiven, Option.getD_none]

/-- Calls of which the second and the third fail. -/
def Sample.calls : List (String × String) :=
  [("declarations", "off"), ("closer", "io.Reader, Closer"), ("assignments", "maybe"),
    ("assignments", "on")]

def Sample.called : Analyzer := (new [.assignments false]).afterCalls Sample.calls

/-- The calls that succeed set both checks, the list with a bad name is not taken in part, and one
more call leaves the other check alone. -/
theorem get_after_history_calls :
    Sample.called.config.get .declarations = .switch false ∧
      Sample.called.config.get .assignments = .switch true ∧
      Sample.called.config.get .closer = .names (some ["io.Closer"]) ∧
      (Sample.called.trySet "closer" "io.Reader, Closer").2.isSome ∧
      (Sample.called.trySet "closer" "io.Reader, Closer").1 = Sample.called ∧
      (Sample.called.trySet "declarations" "on").2 = none ∧
      (Sample.called.trySet "declarations" "on").1.config.get .assignments =
        Sample.called.config.get .assignments := by
  obtain ⟨hfailed, hothers, hset, hget⟩ := get_after_history [.assignments false] Sample.calls
  have hbad : (Sample.called.trySet "closer" "io.Reader, Closer").2.isSome := by decide +kernel
  have hgood : (Sample.called.trySet "declarations" "on").2 = none :=
    (hset .declarations "on").mpr (by decide)
  refine ⟨?_, ?_, ?_, hbad, hfailed _ _ hbad, hgood, hothers _ _ hgood _ (by decide)⟩
  · exact (hget .declarations).trans (by decide +kernel)
  · exact (hget .assignments).trans (by decide +kernel)
  · exact (hget .closer).trans (by decide +kernel)

end Analyzer

end Unclosed
