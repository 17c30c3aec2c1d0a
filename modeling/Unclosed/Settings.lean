import Unclosed.Config
import Unclosed.Text

/-!
# Settings

The settings of the linter in the configuration file of a host program.  They are read from a
record of plain values.
-/

namespace Unclosed

/-- The settings; those that are missing leave things as they are. -/
structure Settings where
  declarations : Option Bool := none
  assignments : Option Bool := none
  closers : Option (List String) := none
  deriving DecidableEq, Repr

/-- A value of a configuration file.  No setting is a number, so numbers are not told apart. -/
inductive SettingValue where
  | null
  | switch (on : Bool)
  | number
  | text (value : String)
  | list (items : List SettingValue)
  | record (fields : List (String × SettingValue))
  deriving Inhabited

inductive SettingsError where
  /-- A value is of the wrong sort. -/
  | wrongSort
  | unknownField (key : String)
  | notQualified (name : String)
  deriving DecidableEq, Repr

/-- The error as it is shown; a value of the wrong sort has no text of its own. -/
def SettingsError.message? : SettingsError → Option String
  | .wrongSort => none
  | .unknownField key => some ("decoding settings: json: unknown field " ++ Text.quote key)
  | .notQualified name =>
    some ("invalid closescope settings: closer " ++ Text.quote name ++
      " is not a qualified type name")

namespace Settings

/-- Settings while they are read.  A list is written into places that are kept, so that a later
spelling of the same key can leave a place as it was. -/
structure Draft where
  settings : Settings := {}
  places : List String := []
  deriving DecidableEq, Repr

/-- Reads a switch; null takes an earlier value back. -/
def readSwitch : SettingValue → Except SettingsError (Option Bool)
  | .null => .ok none
  | .switch on => .ok (some on)
  | _ => .error .wrongSort

/-- Reads the items of a list into the places; null leaves a place as it was, empty if nothing was
written there. -/
def readItems : (places : List String) → List SettingValue → Except SettingsError (List String)
  | _, [] => .ok []
  | places, .text value :: items => (readItems places.tail items).map (value :: ·)
  | places, .null :: items => (readItems places.tail items).map ((places.head?.getD "") :: ·)
  | _, _ :: _ => .error .wrongSort

def Draft.readClosers (d : Draft) : SettingValue → Except SettingsError Draft
  | .null => .ok ⟨{ d.settings with closers := none }, []⟩
  | .list [] => .ok ⟨{ d.settings with closers := some [] }, []⟩
  | .list items =>
    (readItems d.places items).map fun names =>
      ⟨{ d.settings with closers := some names }, names ++ d.places.drop names.length⟩
  | _ => .error .wrongSort

/-- Whether the key spells the field, letter case aside. -/
def spells (key field : String) : Bool :=
  key.toList.map Text.foldToAscii == field.toList.map Text.foldToAscii

def Draft.readField (d : Draft) (field : String × SettingValue) : Except SettingsError Draft :=
  if spells field.1 "declarations" then
    (readSwitch field.2).map fun on => { d with settings := { d.settings with declarations := on } }
  else if spells field.1 "assignments" then
    (readSwitch field.2).map fun on => { d with settings := { d.settings with assignments := on } }
  else if spells field.1 "closers" then d.readClosers field.2
  else .error (.unknownField field.1)

/-- Reads settings.  The fields of a record are read in the order of their keys. -/
def read : SettingValue → Except SettingsError Settings
  | .null => .ok {}
  | .record fields =>
    ((fields.mergeSort fun a b => a.1 ≤ b.1).foldlM Draft.readField {}).map (·.settings)
  | _ => .error .wrongSort

variable (s : Settings)

/-- The first closer that is not a qualified name, if there is one. -/
def validate : Except SettingsError Unit :=
  match (s.closers.getD []).find? (!isQualified ·) with
  | some name => .error (.notQualified name)
  | none => .ok ()

def preferences : List Preference :=
  s.declarations.toList.map .declarations ++ s.assignments.toList.map .assignments ++
    match s.closers with
    | some (name :: names) => [.closers (some (name :: names))]
    | _ => []

end Settings

end Unclosed
