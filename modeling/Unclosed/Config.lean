/-!
# Configuration

What a run of the linter can be told: which checks are on, whether generated files are looked at,
and which interfaces make a type closable.
-/

namespace Unclosed

/-!
## Masks

Flags are words of the width of the mask and may hold several bits: setting a flag acts on all of
its bits, and a flag is enabled when at least one of its bits is on.
-/

structure Mask (w : Nat) where
  bits : BitVec w
  deriving DecidableEq, Repr

namespace Mask

variable {w : Nat}

/-- The mask in which exactly the bits of the given flags are on. -/
def ofFlags (flags : List (BitVec w)) : Mask w :=
  ⟨flags.foldl (· ||| ·) 0⟩

def set (m : Mask w) (flag : BitVec w) (on : Bool) : Mask w :=
  ⟨if on then m.bits ||| flag else m.bits &&& ~~~flag⟩

/-- Whether some bit of the flag is on. -/
def enabled (m : Mask w) (flag : BitVec w) : Bool :=
  m.bits &&& flag != 0

def isEmpty (m : Mask w) : Bool :=
  m.bits == 0

end Mask

/-! ## Configurations -/

abbrev Checks := Mask 8

abbrev Behavior := Mask 8

def Check.declarations : BitVec 8 := 1

def Check.assignments : BitVec 8 := 2

def Behavior.generated : BitVec 8 := 1

structure Config where
  checks : Checks
  behavior : Behavior
  /-- The qualified names of the interfaces that make a type closable. -/
  closers : List String
  deriving DecidableEq, Repr

namespace Config

/-- Both checks, no generated files, and the closer interface of the standard library. -/
def default : Config where
  checks := .ofFlags [Check.declarations ||| Check.assignments]
  behavior := .ofFlags []
  closers := ["io.Closer"]

variable (c : Config)

def declarations : Bool := c.checks.enabled Check.declarations

def assignments : Bool := c.checks.enabled Check.assignments

def generated : Bool := c.behavior.enabled Behavior.generated

def setDeclarations (on : Bool) : Config := { c with checks := c.checks.set Check.declarations on }

def setAssignments (on : Bool) : Config := { c with checks := c.checks.set Check.assignments on }

def setGenerated (on : Bool) : Config :=
  { c with behavior := c.behavior.set Behavior.generated on }

end Config

/-!
## Preferences

A preference changes one thing about a configuration.  Preferences are grouped to any depth, and a
group means its members one after the other.
-/

inductive Preference where
  /-- Changes nothing. -/
  | absent
  | generated (on : Bool)
  | declarations (on : Bool)
  | assignments (on : Bool)
  | closers (names : Option (List String))
  | group (members : List Preference)

/-- What a preference is logged as. -/
inductive LogValue where
  | switch (on : Bool)
  | text (value : String)
  | names (list : Option (List String))
  | group (attributes : List (String × LogValue))

abbrev Attribute := String × LogValue

/-- Replaces the closers, unless there are no names. -/
def Config.setClosers (c : Config) : Option (List String) → Config
  | none => c
  | some [] => c
  | some (name :: names) => { c with closers := name :: names }

namespace Preference

mutual

def apply : Preference → Config → Config
  | .absent, c => c
  | .generated on, c => c.setGenerated on
  | .declarations on, c => c.setDeclarations on
  | .assignments on, c => c.setAssignments on
  | .closers names, c => c.setClosers names
  | .group members, c => applyAll members c
termination_by structural p => p

def applyAll : List Preference → Config → Config
  | [], c => c
  | p :: ps, c => applyAll ps (p.apply c)
termination_by structural ps => ps

end

mutual

/-- The attributes of a preference in a log; groups are opened. -/
def logged : Preference → List Attribute
  | .absent => [("nil", .text "<nil>")]
  | .generated on => [("generated", .switch on)]
  | .declarations on => [("declarations", .switch on)]
  | .assignments on => [("assignments", .switch on)]
  | .closers names => [("closers", .names names)]
  | .group members => loggedAll members
termination_by structural p => p

def loggedAll : List Preference → List Attribute
  | [] => []
  | p :: ps => p.logged ++ loggedAll ps
termination_by structural ps => ps

end

def groupKey : String := "options"

/-- The single attribute of a preference, in which a group stays together. -/
def attribute? : Preference → Option Attribute
  | .absent => none
  | .generated on => some ("generated", .switch on)
  | .declarations on => some ("declarations", .switch on)
  | .assignments on => some ("assignments", .switch on)
  | .closers names => some ("closers", .names names)
  | .group members => some (groupKey, .group (loggedAll members))

end Preference

end Unclosed
