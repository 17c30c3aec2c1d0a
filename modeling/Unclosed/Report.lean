import Unclosed.Text

/-!
# Findings and their report

A finding is a violation of a rule at a span.  Findings wait in a backlog, in any order and with
repetitions; their canonical form is sorted by span and rule and holds every key once.  What is
reported are diagnostics: the findings, and internal errors where the input is inconsistent.
-/

namespace Unclosed

/-! ## Positions -/

/-- A place in the sources, counted through all files of a program.  Places are not negative; zero
stands for no place. -/
abbrev Pos := Int

/-- The stretch of source from `start` up to, and without, `stop`. -/
structure Span where
  start : Pos
  stop : Pos
  deriving DecidableEq, Repr, Inhabited

/-! ## Rules -/

inductive Severity where
  | error
  deriving DecidableEq, Repr

def Severity.text : Severity → String
  | .error => "error"

structure Rule where
  id : String
  title : String := ""
  message : String
  category : String := ""
  url : String
  severity : Severity := .error
  enabledByDefault : Bool := false
  deriving DecidableEq, Repr

/-- The name under which the linter reports and under which it is silenced. -/
def linterName : String := "closescope"

def linterUrl : String := "https://pkg.go.dev/fillmore-labs.com/closescope"

/-- Closable values are to be closed before they go out of scope. -/
def Rule.unclosed : Rule where
  id := linterName
  title := "Close resources before losing scope"
  message := "Closable value is not closed before all references to it go out of scope (cs:dis)"
  category := "Reliability"
  url := linterUrl
  severity := .error
  enabledByDefault := true

/-! ## Diagnostics -/

structure Diagnostic where
  span : Span
  category : String
  message : String
  url : String
  deriving DecidableEq, Repr

/-- The diagnostic of an inconsistent input, which is not the fault of the checked code. -/
def Diagnostic.internalError (span : Span) (template : String) (args : List Text.Argument) :
    Diagnostic where
  span := span
  category := linterName
  message := "Internal Error: " ++ Text.fill template args
  url := ""

/-! ## Findings -/

structure Finding where
  span : Span
  rule : Rule
  deriving DecidableEq, Repr

namespace Finding

def unclosed (span : Span) : Finding :=
  ⟨span, Rule.unclosed⟩

/-- What orders findings and makes two of them the same: span and rule. -/
structure Key where
  start : Pos
  stop : Pos
  rule : String
  deriving DecidableEq, Repr

def Key.le (a b : Key) : Bool :=
  if a.start = b.start then
    if a.stop = b.stop then a.rule ≤ b.rule else a.stop < b.stop
  else a.start < b.start

def key (f : Finding) : Key :=
  ⟨f.span.start, f.span.stop, f.rule.id⟩

def diagnostic (f : Finding) : Diagnostic :=
  ⟨f.span, f.rule.id, f.rule.message, f.rule.url⟩

/-- The findings that follow one with key `last`, less those that repeat their predecessor's key. -/
def distinctAfter (last : Key) : List Finding → List Finding
  | [] => []
  | f :: fs => if f.key = last then distinctAfter last fs else f :: distinctAfter f.key fs

/-- The first of every run of findings with one key. -/
def distinct : List Finding → List Finding
  | [] => []
  | f :: fs => f :: distinctAfter f.key fs

/-- Sorted by key, and of each key the finding that came first. -/
def canonical (fs : List Finding) : List Finding :=
  distinct (fs.mergeSort fun a b => a.key.le b.key)

end Finding

/-! ## The backlog -/

structure Backlog where
  waiting : List Finding := []
  deriving DecidableEq, Repr

namespace Backlog

def empty : Backlog := ⟨[]⟩

def add (b : Backlog) (fs : List Finding) : Backlog :=
  ⟨b.waiting ++ fs⟩

/-- How many findings wait, repetitions included. -/
def size (b : Backlog) : Nat :=
  b.waiting.length

def findings (b : Backlog) : List Finding :=
  Finding.canonical b.waiting

/-- Reports what waits, less what starts at a suppressed position, and leaves nothing waiting. -/
def flush (b : Backlog) (suppressed : Pos → Bool) : List Diagnostic × Backlog :=
  ((b.findings.filter fun f => !suppressed f.span.start).map Finding.diagnostic, empty)

end Backlog

end Unclosed
