import Unclosed.Config
import Unclosed.Text

/-!
# Flags

The parts of a configuration that can be set by name from a text, one by one or by the arguments of
a command line.
-/

namespace Unclosed

inductive Flag where
  | assignments
  | closer
  | declarations
  | generated
  deriving DecidableEq, Repr

namespace Flag

def all : List Flag := [.assignments, .closer, .declarations, .generated]

def name : Flag → String
  | .assignments => "assignments"
  | .closer => "closer"
  | .declarations => "declarations"
  | .generated => "generated"

def help : Flag → String
  | .assignments => "check assignments"
  | .closer => "comma-separated list of interfaces marking closable types"
  | .declarations => "check variable declarations"
  | .generated => "check generated files"

def isSwitch : Flag → Bool
  | .closer => false
  | _ => true

def ofName? (name : String) : Option Flag :=
  all.find? (·.name = name)

end Flag

inductive FlagValue where
  | switch (on : Bool)
  | names (list : Option (List String))
  deriving DecidableEq, Repr

def FlagValue.text : FlagValue → String
  | .switch true => "true"
  | .switch false => "false"
  | .names none => ""
  | .names (some list) => Text.join ',' list

/-- What a flag is that nothing has been set for. -/
def Flag.zero (f : Flag) : FlagValue :=
  if f.isSwitch then .switch false else .names none

/-- Why a text is no value for a flag. -/
inductive ValueError where
  | notSwitch (text : String)
  | notQualified (name : String)
  | noNames
  deriving DecidableEq, Repr

def ValueError.message : ValueError → String
  | .notSwitch text => "strconv.ParseBool: parsing " ++ Text.quote text ++ ": invalid syntax"
  | .notQualified name =>
    "invalid closer interface name: " ++ Text.quote name ++
      ", want package path and type name like io.Closer"
  | .noNames => "invalid closer interface name: empty list"

def onTexts : List String := ["1", "t", "T", "true", "TRUE", "True", "on", "On"]

def offTexts : List String := ["0", "f", "F", "false", "FALSE", "False", "off", "Off"]

/-- A change to a configuration that can fail.  What was changed before an error stays changed. -/
abbrev Update := EStateM ValueError Config

def readSwitch (text : String) : Update Bool :=
  if text ∈ onTexts then pure true
  else if text ∈ offTexts then pure false
  else throw (.notSwitch text)

/-- Reads the pieces of a list of names one after the other, after the names that were read before.
Blanks around a name and empty pieces are left out, and a name that is not qualified ends the
reading. -/
def readPieces (names : List String) : List String → Update (List String)
  | [] => pure names
  | piece :: pieces =>
    let name := Text.trim piece
    if name = "" then readPieces names pieces
    else if isQualified name then readPieces (names ++ [name]) pieces
    else throw (.notQualified name)

/-- Reads a list of qualified names, which must not be empty. -/
def readNames (text : String) : Update (List String) := do
  let names ← readPieces [] (Text.split ',' text)
  if names.isEmpty then throw .noNames
  return names

def Config.setSwitch (c : Config) (f : Flag) (on : Bool) : Config :=
  match f with
  | .assignments => c.setAssignments on
  | .declarations => c.setDeclarations on
  | .generated => c.setGenerated on
  | .closer => c

/-- Sets the flag from a text.  The configuration is changed once the whole text has been read. -/
def Flag.update (f : Flag) (text : String) : Update Unit := do
  if f.isSwitch then
    let on ← readSwitch text
    modify (·.setSwitch f on)
  else
    let names ← readNames text
    modify ({ · with closers := names })

namespace Config

variable (c : Config)

def get : Flag → FlagValue
  | .assignments => .switch c.assignments
  | .closer => .names (some c.closers)
  | .declarations => .switch c.declarations
  | .generated => .switch c.generated

/-- The configuration after a flag was set from a text, and what went wrong if something did. -/
def set (f : Flag) (text : String) : EStateM.Result ValueError Config Unit :=
  (f.update text).run c

end Config

/-- Why a flag could not be set by name. -/
inductive FlagError where
  | unknown (name : String)
  | invalid (error : ValueError)
  deriving DecidableEq, Repr

def FlagError.message : FlagError → String
  | .unknown name => "no such flag -" ++ name
  | .invalid error => error.message

/-- The help text on all flags: names, what they are for, and the given defaults where they are not
what an unset flag is. -/
def Config.usage (defaults : Config) : String :=
  let entry (f : Flag) : String :=
    let value := (defaults.get f).text
    "  -" ++ f.name ++ (if f.isSwitch then "" else " value") ++ "\n    \t" ++ f.help ++
      (if value = f.zero.text then "" else " (default " ++ value ++ ")") ++ "\n"
  String.join (Flag.all.map entry)

/-!
## Command lines

A flag is a name after one or two dashes; its value follows an equals sign or is the next argument,
and a switch without a value is switched on.  The first argument that is no flag ends the flags.
-/

inductive Word where
  /-- No flag. -/
  | plain
  /-- Two dashes and nothing else end the flags. -/
  | terminator
  /-- Dashes without a proper name. -/
  | malformed
  | flag (name : String) (value : Option String)
  deriving DecidableEq, Repr

namespace Word

/-- Reads what follows the dashes.  The name has at least one character and ends at the first
equals sign after that. -/
def afterDashes : List Char → Word
  | [] => .malformed
  | c :: cs =>
    if c = '-' || c = '=' then .malformed
    else
      let name := String.ofList (c :: cs.takeWhile (· != '='))
      match cs.dropWhile (· != '=') with
      | [] => .flag name none
      | _ :: value => .flag name (some (String.ofList value))

def read (arg : String) : Word :=
  match arg.toList with
  | ['-'] => .plain
  | ['-', '-'] => .terminator
  | '-' :: '-' :: cs => afterDashes cs
  | '-' :: cs => afterDashes cs
  | _ => .plain

end Word

inductive CommandLineError where
  | malformed (arg : String)
  | undefined (name : String)
  | helpRequested
  | valueMissing (name : String)
  | badSwitch (text name : String) (error : ValueError)
  | badValue (text name : String) (error : ValueError)
  deriving DecidableEq, Repr

def CommandLineError.message : CommandLineError → String
  | .malformed arg => "bad flag syntax: " ++ arg
  | .undefined name => "flag provided but not defined: -" ++ name
  | .helpRequested => "flag: help requested"
  | .valueMissing name => "flag needs an argument: -" ++ name
  | .badSwitch text name error =>
    "invalid boolean value " ++ Text.quote text ++ " for -" ++ name ++ ": " ++ error.message
  | .badValue text name error =>
    "invalid value " ++ Text.quote text ++ " for flag -" ++ name ++ ": " ++ error.message

/-- The error for a flag that does not exist: a request for help, or a mistake. -/
def CommandLineError.ofUnknown (name : String) : CommandLineError :=
  if name = "help" || name = "h" then .helpRequested else .undefined name

/-- What reading a command line leads to: the configuration with the flags set so far, the
arguments that are left, and what went wrong. -/
structure CommandLineResult where
  config : Config
  rest : List String
  error : Option CommandLineError
  deriving DecidableEq, Repr

namespace Config

def parse (c : Config) : List String → CommandLineResult
  | [] => ⟨c, [], none⟩
  | arg :: args =>
    match Word.read arg with
    | .plain => ⟨c, arg :: args, none⟩
    | .terminator => ⟨c, args, none⟩
    | .malformed => ⟨c, arg :: args, some (.malformed arg)⟩
    | .flag name value =>
      match Flag.ofName? name with
      | none => ⟨c, args, some (.ofUnknown name)⟩
      | some f =>
        if f.isSwitch then
          match c.set f (value.getD "true") with
          | .ok _ c => parse c args
          | .error e c => ⟨c, args, some (.badSwitch (value.getD "true") name e)⟩
        else
          match value, args with
          | some text, args =>
            match c.set f text with
            | .ok _ c => parse c args
            | .error e c => ⟨c, args, some (.badValue text name e)⟩
          | none, text :: args =>
            match c.set f text with
            | .ok _ c => parse c args
            | .error e c => ⟨c, args, some (.badValue text name e)⟩
          | none, [] => ⟨c, [], some (.valueMissing name)⟩

end Config

end Unclosed
