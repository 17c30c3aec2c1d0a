import Unclosed.Sorting
import Unclosed.Types.Basic

/-!
# Identity, type sets and comparability

Three questions about types that lead to each other: whether two types are identical, which methods
and types an interface admits, and whether the values of a type can be compared.  Types may be
circular.  A pair of types met again is taken to be identical, since a difference would end the
test; in the same way a type met again is taken to be comparable; and an interface met again while
its type set is worked out adds nothing to it.  So every question comes to an end, and the fuel that
all of them count down is more than any path of them needs.
-/

namespace Unclosed

/-!
## Sets of terms

The operations are given the test of whether two terms have a type in common, which may depend on a
state.  Of two terms that do, one contains the other, and a term with the tilde is never the smaller
one.
-/

/-- All types, or those of the listed terms. -/
inductive TermSet where
  | all
  | only (terms : List Term)
  deriving DecidableEq, Repr

namespace TermSet

variable {m : Type → Type} [Monad m] (overlap : Term → Term → m Bool)

def larger (x y : Term) : Term := if x.tilde || !y.tilde then x else y

def smaller (x y : Term) : Term := if !x.tilde || y.tilde then x else y

/-- Joins a term with the first one it overlaps with, or puts it at the end. -/
def insert (y : Term) : List Term → m (List Term)
  | [] => pure [y]
  | x :: xs => do
    if ← overlap x y then return larger x y :: xs
    return x :: (← insert y xs)

def normalize (terms : List Term) : m (List Term) :=
  terms.foldlM (fun known y => insert overlap y known) []

/-- What a term has in common with each of the others. -/
def meet (x : Term) : List Term → m (List Term)
  | [] => pure []
  | y :: ys => do
    if ← overlap x y then return smaller x y :: (← meet x ys)
    meet x ys

def union : TermSet → TermSet → m TermSet
  | .only xs, .only ys => .only <$> normalize overlap (xs ++ ys)
  | _, _ => pure .all

def inter : TermSet → TermSet → m TermSet
  | .all, .all => pure .all
  | .all, .only ys => .only <$> normalize overlap ys
  | .only xs, .all => .only <$> normalize overlap xs
  | .only xs, .only ys => do
    return .only (← normalize overlap (← xs.mapM fun x => meet overlap x ys).flatten)

/-- Whether every type of the first set is in the second, each term being looked for on its own. -/
def subset : TermSet → TermSet → m Bool
  | _, .all => pure true
  | .all, .only _ => pure false
  | .only xs, .only ys => xs.allM fun x => ys.anyM fun y => do
    return (← overlap x y) && (!x.tilde || y.tilde)

def equal (s t : TermSet) : m Bool := do
  if ← subset overlap s t then subset overlap t s else return false

end TermSet

def TermSet.isEmpty : TermSet → Bool
  | .all => false
  | .only terms => terms.isEmpty

/-!
## Type sets

The bookkeeping of how type sets are worked out: each of them once, and in a test of types each type
once.
-/

/-- What an interface admits: types with all of the methods, among the terms, and when the last
flag is set only comparable ones. -/
structure TypeSet where
  methods : List Method
  terms : TermSet
  comparable : Bool
  deriving DecidableEq, Repr

def TypeSet.top : TypeSet := ⟨[], .all, false⟩

def orderMethods (methods : List Method) : List Method :=
  Sorting.sort (fun m n => m.name.precedes n.name) methods

/-- The first method of each name, without those of the given keys. -/
def freshMethods (keys : List String) : List Method → List Method
  | [] => []
  | m :: ms =>
    let key := m.name.key
    if keys.contains key then freshMethods keys ms else m :: freshMethods (key :: keys) ms

def addMethods (known new : List Method) : List Method :=
  known ++ freshMethods (known.map (·.name.key)) new

def findMethod? (methods : List Method) (wanted : MemberName) : Option Method :=
  methods.find? fun m => wanted.selects m.name

/-- A computation that knows the type sets worked out so far. -/
abbrev Study := StateM (List (Interface × TypeSet))

def Study.outcome {α : Type} (study : Study α) : α :=
  (study.run []).1

def Study.remember (i : Interface) (s : TypeSet) : Study Unit :=
  modify ((i, s) :: ·)

/-- A test that ends where it fails, and knows what it has looked at. -/
abbrev Probe (α : Type) := StateT (List α) (OptionT Study)

def Probe.passes {α : Type} (probe : Probe α Unit) : Study Bool :=
  Option.isSome <$> (probe.run []).run

/-- The test of something that is not looked at again. -/
def Probe.once {α : Type} [BEq α] (a : α) (probe : Probe α Unit) : Probe α Unit := do
  unless (← get).contains a do
    modify (a :: ·)
    probe

/-! ## Identical and comparable types -/

/-- Two basic types have two names. -/
def basicName : String → String
  | "byte" => "uint8"
  | "rune" => "int32"
  | name => name

/-- A union with more terms than this is not taken into account. -/
def maxTerms : Nat := 100

namespace TypeTable

variable (types : TypeTable)

/-- More than the length of any path through type sets, and pairs of types in between. -/
def fuel : Nat :=
  8 * ((types.entries.size + 4) * (types.entries.size + 4) * (types.entries.size + 4))

mutual

def identicalWithin : (fuel : Nat) → Ty → Ty → Probe (Ty × Ty) Unit
  | 0, _, _ => failure
  | fuel + 1, a, b =>
    if a = b then pure ()
    else Probe.once (a, b) (sameViewWithin fuel (types.view a) (types.view b))

/-- Declared types and parameters are only identical to themselves, other types to those of
identical shape. -/
def sameViewWithin : (fuel : Nat) → TypeView → TypeView → Probe (Ty × Ty) Unit
  | 0, _, _ => failure
  | fuel + 1, v, w =>
    let sameAll (xs ys : List Ty) : Probe (Ty × Ty) Unit := do
      guard (xs.length = ys.length)
      (xs.zip ys).forM fun (a, b) => identicalWithin fuel a b
    let sameSignature (f g : Signature) : Probe (Ty × Ty) Unit := do
      guard (f.variadic = g.variadic)
      sameAll f.params g.params
      sameAll f.results g.results
    let sameTerms (s t : TermSet) : Study Bool := TermSet.equal (overlapWithin fuel) s t
    match v, w with
    | .nominal a, .nominal b => guard (a = b)
    | .structural s, .structural t =>
      match s, t with
      | .basic m, .basic n => guard (basicName m = basicName n)
      | .pointer a, .pointer b => identicalWithin fuel a b
      | .slice a, .slice b => identicalWithin fuel a b
      | .array m a, .array n b => do
        guard (m < 0 ∨ n < 0 ∨ m = n)
        identicalWithin fuel a b
      | .channel d a, .channel e b => do
        guard (d = e)
        identicalWithin fuel a b
      | .map k a, .map l b => do
        identicalWithin fuel k l
        identicalWithin fuel a b
      | .tuple xs, .tuple ys => sameAll xs ys
      | .function f, .function g => sameSignature f g
      | .struct fs, .struct gs => do
        guard (fs.length = gs.length)
        (fs.zip gs).forM fun (f, g) => do
          guard (f.embedded = g.embedded && f.name.same g.name)
          identicalWithin fuel f.type g.type
      | .interface i, .interface j => do
        let p ← typeSetWithin fuel i
        let q ← typeSetWithin fuel j
        guard (p.comparable = q.comparable)
        guard (← sameTerms p.terms q.terms)
        guard (p.methods.length = q.methods.length)
        ((orderMethods p.methods).zip (orderMethods q.methods)).forM fun (m, n) => do
          guard (m.name.key = n.name.key)
          sameSignature m.signature n.signature
      | .union xs, .union ys => do
        let p ← unionWithin fuel xs
        let q ← unionWithin fuel ys
        guard (← sameTerms (p.getD (.only [])) (q.getD (.only [])))
      | _, _ => failure
    | _, _ => failure

def overlapWithin : (fuel : Nat) → Term → Term → Study Bool
  | 0, _, _ => pure false
  | fuel + 1, x, y =>
    let side (t : Ty) (tilde : Bool) :=
      if tilde then TypeView.structural (types.underlying t) else types.view t
    Probe.passes (sameViewWithin fuel (side x.type y.tilde) (side y.type x.tilde))

/-- The terms of a union, none if there are too many. -/
def unionWithin : (fuel : Nat) → List Term → Study (Option TermSet)
  | 0, _ => pure none
  | fuel + 1, terms =>
    let termsOf (t : Term) : Study (Option TermSet) := do
      match types.underlying t.type with
      | .interface i => return some (← typeSetWithin fuel i).terms
      | shape =>
        if shape = .invalid then return none
        if t.tilde then
          unless ← Probe.passes (sameViewWithin fuel (types.view t.type) (.structural shape)) do
            return some (.only [])
        return some (.only [t])
    let add (known : Option TermSet) (t : Term) : Study (Option TermSet) := do
      match known, ← termsOf t with
      | some s, some new =>
        match ← TermSet.union (overlapWithin fuel) s new with
        | .all => return some .all
        | .only ts => return if ts.length ≤ maxTerms then some (.only ts) else none
      | _, _ => return known
    terms.foldlM add (some (.only []))

/-- The methods of an interface are its explicit ones and then those of embedded interfaces; its
types are those that all embedded elements admit. -/
def typeSetWithin : (fuel : Nat) → Interface → Study TypeSet
  | 0, _ => pure .top
  | fuel + 1, i =>
    let meet (s : TypeSet) (terms : TermSet) (comparable : Bool) : Study TypeSet := do
      let comparable := s.comparable || comparable
      match ← TermSet.inter (overlapWithin fuel) s.terms terms with
      | .all => return ⟨s.methods, .all, comparable⟩
      | .only ts =>
        if !comparable then return ⟨s.methods, .only ts, false⟩
        let ts ← ts.filterM fun t => Probe.passes (comparableWithin fuel t.type)
        return ⟨s.methods, .only ts, false⟩
    let embed (s : TypeSet) (e : Ty) : Study TypeSet := do
      match types.underlying e with
      | .interface j =>
        let t ← typeSetWithin fuel j
        meet { s with methods := addMethods s.methods t.methods } t.terms t.comparable
      | .union ts =>
        match ← unionWithin fuel ts with
        | some terms => meet s terms false
        | none => return s
      | shape => if shape = .invalid then return s else meet s (.only [⟨e, false⟩]) false
    do
      match (← get).lookup i with
      | some s => return s
      | none =>
        Study.remember i .top
        let start : TypeSet := ⟨addMethods [] (orderMethods i.methods), .all, i.comparable⟩
        let s ← i.embedded.foldlM embed start
        Study.remember i s
        return s

def comparableWithin : (fuel : Nat) → Ty → Probe Ty Unit
  | 0, _ => pure ()
  | fuel + 1, t =>
    Probe.once t <|
      match types.underlying t with
      | .basic name => guard (name ≠ "untyped nil")
      | .pointer _ => pure ()
      | .channel .. => pure ()
      | .struct fields => fields.forM fun f => comparableWithin fuel f.type
      | .array _ element => comparableWithin fuel element
      | .interface i => do comparableSetWithin fuel (← typeSetWithin fuel i)
      | _ => failure

def comparableSetWithin : (fuel : Nat) → TypeSet → Probe Ty Unit
  | 0, _ => pure ()
  | fuel + 1, s =>
    match s.terms with
    | .all => guard s.comparable
    | .only terms => do
      guard (terms ≠ [])
      terms.forM fun x => comparableWithin fuel x.type

end

def identical (a b : Ty) : Bool :=
  (Probe.passes (types.identicalWithin types.fuel a b)).outcome

def identicalSignatures (f g : Signature) : Bool :=
  (Probe.passes (types.sameViewWithin types.fuel
    (.structural (.function f)) (.structural (.function g)))).outcome

def overlap (x y : Term) : Bool :=
  (types.overlapWithin types.fuel x y).outcome

def typeSet (i : Interface) : TypeSet :=
  (types.typeSetWithin types.fuel i).outcome

def isComparable (t : Ty) : Bool :=
  (Probe.passes (types.comparableWithin types.fuel t)).outcome

def comparableSet (s : TypeSet) : Bool :=
  (Probe.passes (types.comparableSetWithin types.fuel s)).outcome

end TypeTable

end Unclosed
