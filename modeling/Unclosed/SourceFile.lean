import Unclosed.Tree

/-!
# Source files

A file with its comments and declarations.  A file is open when the extent that its start lies in
is known; only then do its positions have lines.
-/

namespace Unclosed

/-- The positions that a file takes up, from `base` to `base + size`, and the offsets from `base`
at which its lines start. -/
structure Extent where
  base : Pos
  size : Int
  lines : List Int
  deriving DecidableEq, Repr

namespace Extent

/-- Whether the position lies in the extent, its end included. -/
def spans (e : Extent) (pos : Pos) : Bool :=
  e.base ≤ pos && pos ≤ e.base + e.size

/-- The line of a position, counted from one.  Positions outside are moved to the nearer end, and
no position has line zero. -/
def line (e : Extent) (pos : Pos) : Nat :=
  if pos = 0 then 0
  else
    let offset := max 0 (min (pos - e.base) e.size)
    e.lines.countP (· ≤ offset)

end Extent

structure SourceFile where
  /-- The position of the package clause. -/
  package : Pos
  start : Pos
  /-- The position of the name in the package clause. -/
  namePos : Pos
  name : String
  comments : Array CommentGroup
  /-- The comments right before the package clause. -/
  doc : Option CommentGroup
  decls : List Node

namespace SourceFile

/-- The span of the name in the package clause. -/
def nameSpan (f : SourceFile) : Span :=
  ⟨f.namePos, f.namePos + f.name.utf8ByteSize⟩

/-- From the package clause to the end of the last declaration, or of the package name. -/
def span (f : SourceFile) : Span where
  start := f.package
  stop :=
    match f.decls.getLast? with
    | some d => d.span.stop
    | none => f.nameSpan.stop

def generatedStart : List Char := "// Code generated ".toList

def generatedEnd : List Char := " DO NOT EDIT.".toList

def marksGenerated (line : List Char) : Bool :=
  generatedStart.isPrefixOf line && generatedEnd.isSuffixOf (line.drop generatedStart.length)

/-- Whether a comment before the package clause declares the file to be generated.  A group is
left at its first comment after the clause. -/
def isGenerated (f : SourceFile) : Bool :=
  f.comments.any fun g =>
    (g.comments.takeWhile fun c => c.pos ≤ f.package).any fun c =>
      (Text.pieces '\n' c.text.toList).any marksGenerated

end SourceFile

structure OpenFile where
  file : SourceFile
  extent : Extent

def SourceFile.open? (f : SourceFile) (extents : List Extent) : Option OpenFile :=
  (extents.find? (·.spans f.start)).map (⟨f, ·⟩)

/-- Halves the range from `lo` to `hi` down to an index with nothing below it on its left, given
that `below` holds exactly on a first part of the range. -/
def bisect (below : Nat → Bool) (lo hi : Nat) : Nat :=
  if lo < hi then
    let middle := (lo + hi) / 2
    if below middle then bisect below (middle + 1) hi else bisect below lo middle
  else lo
termination_by hi - lo

namespace OpenFile

def isGenerated (o : OpenFile) : Bool :=
  o.file.isGenerated

/-- Whether the comment right before the package clause silences the linter in the whole file. -/
def isSilenced (o : OpenFile) : Bool :=
  o.file.doc.any fun g => g.last.silences

def firstGroupFrom (o : OpenFile) (pos : Pos) : Nat :=
  bisect (fun i => (o.file.comments[i]?).any fun g => g.pos < pos) 0 o.file.comments.size

/-- Whether the next comment group is on the position's line and starts with a directive that
silences the linter. -/
def silencesLine (o : OpenFile) (pos : Pos) : Bool :=
  match o.file.comments[o.firstGroupFrom pos]? with
  | none => false
  | some g => o.extent.line g.pos == o.extent.line pos && g.first.silences

end OpenFile

end Unclosed
