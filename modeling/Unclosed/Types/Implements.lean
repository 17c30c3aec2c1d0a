import Unclosed.Types.Identity

/-!
# Implementing an interface

A type implements an interface when it has all of its methods and lies in its type set.  Types that
could not be checked are given the benefit of the doubt in a few places, so that one error in the
checked code does not bring others with it.
-/

namespace Unclosed

/-!
## Method lookup

A name is looked for level by level: in the type itself, then in the fields it embeds, then in
theirs.  The shallowest level with a match decides, and two matches on one level cancel each other.
-/

/-- A type in which members are looked for. -/
structure Candidate where
  type : Ty
  /-- A pointer was followed on the way here. -/
  indirect : Bool
  /-- The type is embedded more than once on this level. -/
  multiple : Bool
  deriving DecidableEq, Repr

inductive Member where
  | method (method : Method)
  | field (field : Field)
  deriving DecidableEq, Repr

/-- The state of the search on one level: the declared types met so far, the match with its
candidate's indirection, and the candidates of the next level. -/
structure Search where
  seen : List Ty := []
  found : Option (Member × Bool) := none
  next : List Candidate := []
  deriving DecidableEq, Repr

/-- Records a match; there is no result when it is not the only one. -/
def Search.record (s : Search) (c : Candidate) (m : Member) : Option Search :=
  if s.found.isSome || c.multiple then none else some { s with found := some (m, c.indirect) }

namespace TypeTable

variable (types : TypeTable)

/-- The element of a pointer without a name, and whether there was one. -/
def dereference (t : Ty) : Ty × Bool :=
  match types.view t with
  | .structural (.pointer element) => (element, true)
  | _ => (t, false)

/-- The declared type behind synonyms with its own methods. -/
def declared? (t : Ty) : Option (Ty × List Method) :=
  match types.view t with
  | .structural _ => none
  | .nominal (.entry index) =>
    match types.entry index with
    | .declared _ methods => some (.entry index, methods)
    | _ => none
  | .nominal t => some (t, [])

/-- Looks through the fields of a struct.  Embedded fields wait for the next level as long as
nothing has matched on this one. -/
def searchField (wanted : MemberName) (c : Candidate) (s : Search) (f : Field) : Option Search :=
  if wanted.selects f.name then s.record c (.field f)
  else if s.found.isNone && f.embedded then
    let (element, isPointer) := types.dereference f.type
    some { s with next := s.next ++ [⟨element, c.indirect || isPointer, c.multiple⟩] }
  else some s

def searchShape (wanted : MemberName) (s : Search) (c : Candidate) : Option Search :=
  match types.underlying c.type with
  | .struct fields => fields.foldlM (types.searchField wanted c) s
  | .interface i =>
    match findMethod? (types.typeSet i).methods wanted with
    | some m => s.record c (.method m)
    | none => some s
  | _ => some s

/-- Looks at one candidate.  A declared type met on a shallower level is passed over. -/
def searchCandidate (wanted : MemberName) (s : Search) (c : Candidate) : Option Search :=
  match types.declared? c.type with
  | none => types.searchShape wanted s c
  | some (t, methods) =>
    if s.seen.contains t then some s
    else
      let s := { s with seen := t :: s.seen }
      match findMethod? methods wanted with
      | some m => s.record c (.method m)
      | none => types.searchShape wanted s c

def consolidate (cs : List Candidate) : List Candidate :=
  cs.foldl (fun kept c =>
    if kept.any fun k => types.identical k.type c.type then
      kept.map fun k => if types.identical k.type c.type then { k with multiple := true } else k
    else kept ++ [c]) []

def searchLevels (wanted : MemberName) :
    (fuel : Nat) → (seen : List Ty) → List Candidate → Option (Member × Bool)
  | 0, _, _ => none
  | _ + 1, _, [] => none
  | fuel + 1, seen, cs =>
    match cs.foldlM (types.searchCandidate wanted) { seen := seen } with
    | none => none
    | some s =>
      match s.found with
      | some result => some result
      | none => searchLevels wanted fuel s.seen (types.consolidate s.next)

/-- The method that the name selects from values of the type.  A pointer to an interface has no
methods, and a method of pointers is found only where a pointer was followed. -/
def lookupMethod? (t : Ty) (wanted : MemberName) : Option Method :=
  let (start, isPointer) := types.dereference t
  match isPointer, types.underlying start with
  | true, .interface _ => none
  | _, _ =>
    match types.searchLevels wanted (types.depth + 1) [] [⟨start, isPointer, false⟩] with
    | some (.method m, indirect) => if m.onPointer && !indirect then none else some m
    | _ => none

/-! ## Methods and type sets -/

def isInvalid (t : Ty) : Bool :=
  types.underlying t == .invalid

/-- The struct that the type is or points to. -/
def structFields? (t : Ty) : Option (List Field) :=
  match types.underlying t with
  | .struct fields => some fields
  | .pointer element =>
    match types.underlying element with
    | .struct fields => some fields
    | _ => none
  | _ => none

/-- Whether a struct embeds a field of invalid type, at any depth, and the structs looked into so
far.  Each struct is looked into once. -/
def embedsInvalidWithin :
    (fuel : Nat) → (seen : List (List Field)) → Ty → Bool × List (List Field)
  | 0, seen, _ => (false, seen)
  | fuel + 1, seen, t =>
    match types.structFields? t with
    | none => (false, seen)
    | some fields =>
      if seen.contains fields then (false, seen)
      else
        (fields.filter (·.embedded)).foldl (fun (found, seen) f =>
          if found || types.view f.type == .structural .invalid then (true, seen)
          else embedsInvalidWithin fuel seen f.type) (false, fields :: seen)

/-- Whether members might be missing only because of an embedded field of invalid type. -/
def embedsInvalid (t : Ty) : Bool :=
  (types.embedsInvalidWithin types.depth [] t).1

def agrees (found : Option Method) (m : Method) : Bool :=
  found.any fun n => types.identicalSignatures n.signature m.signature

/-- Whether values of the type have all of the methods, those of interfaces by their type sets. -/
def hasMethods (t : Ty) (methods : List Method) : Bool :=
  match types.underlying t with
  | .interface i =>
    let known := (types.typeSet i).methods
    methods.all fun m => types.agrees (findMethod? known m.name) m
  | _ => methods.all fun m => types.agrees (types.lookupMethod? t m.name) m

def termIncludes (x : Term) (t : Ty) : Bool :=
  types.overlap x ⟨t, false⟩

def inTerms (t : Ty) (s : TypeSet) : Bool :=
  match s.terms, types.underlying t with
  | .all, _ => true
  | terms, .interface i =>
    (TermSet.subset (types.overlapWithin types.fuel) (types.typeSet i).terms terms).outcome
  | .only terms, _ => terms.any fun x => types.termIncludes x t

/-- Whether the type could be anything: an interface that no type implements, or a pointer to
something invalid. -/
def isVacuous (t : Ty) : Bool :=
  match types.underlying t with
  | .pointer element => types.isInvalid element
  | .interface i => (types.typeSet i).terms.isEmpty
  | _ => false

def implements (t : Ty) (i : Interface) : Bool :=
  let s := types.typeSet i
  !types.isInvalid t &&
    (types.isVacuous t ||
      (!s.terms.isEmpty &&
        (types.hasMethods t s.methods || types.embedsInvalid t) &&
        types.inTerms t s &&
        (!types.comparableSet s || types.isComparable t)))

/-- Whether values of the type refer to something that others may refer to as well. -/
def isReference (t : Ty) : Bool :=
  match types.underlying t with
  | .pointer _ | .interface _ | .map .. | .channel .. | .function _ | .slice _ => true
  | _ => false

end TypeTable

end Unclosed
