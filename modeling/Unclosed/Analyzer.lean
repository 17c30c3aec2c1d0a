import Unclosed.Analysis
import Unclosed.Flag
import Unclosed.Settings

/-!
# Analyzers

An analyzer is a configuration under a name.  It is made from preferences or from settings, can then
be changed by flags, and runs on packages.
-/

namespace Unclosed

structure Analyzer where
  /-- The configuration when the flags were set up, which their help text shows. -/
  defaults : Config
  config : Config
  deriving DecidableEq, Repr

inductive Origin where
  | preferences (list : List Preference)
  | settings (value : SettingValue)

inductive AnalyzerError where
  | settings (error : SettingsError)
  | flag (error : FlagError)
  | run (error : RunError)
  deriving DecidableEq, Repr

namespace Analyzer

def doc : String := "closescope reports closable values that are not closed before losing scope"

/-- The analyzers whose results are needed. -/
def requires : List String := ["inspect"]

/-- How much of a package a host program has to provide. -/
def loadMode : String := "typesinfo"

def new (preferences : List Preference) : Analyzer :=
  let config := Preference.applyAll preferences .default
  ⟨config, config⟩

/-- The analyzer of a host program, which leaves out generated files by itself. -/
def hosted (s : Settings) : Analyzer :=
  new (s.preferences ++ [.generated true])

def ofSettings (value : SettingValue) : Except SettingsError Analyzer := do
  let settings ← Settings.read value
  settings.validate
  return hosted settings

def make : Origin → Except AnalyzerError Analyzer
  | .preferences list => .ok (new list)
  | .settings value => (ofSettings value).mapError .settings

/-- Sets a flag by name and tells what went wrong, if something did. -/
def trySet (a : Analyzer) (name text : String) : Analyzer × Option FlagError :=
  match Flag.ofName? name with
  | none => (a, some (.unknown name))
  | some f =>
    match a.config.set f text with
    | .ok _ config => ({ a with config }, none)
    | .error error config => ({ a with config }, some (.invalid error))

/-- Sets flags by name, in order, up to the first that cannot be set. -/
def setFlags (a : Analyzer) : List (String × String) → Except FlagError Analyzer
  | [] => .ok a
  | (name, text) :: flags =>
    match a.trySet name text with
    | (a, none) => a.setFlags flags
    | (_, some error) => .error error

def report (origin : Origin) (flags : List (String × String)) (p : Program)
    (files : Option (List SourceFile)) : Except AnalyzerError (List Diagnostic) := do
  let a ← make origin
  let a ← (a.setFlags flags).mapError .flag
  (a.config.run p files).mapError .run

end Analyzer

end Unclosed
