import Unclosed.Proofs.Comparison
import Unclosed.Proofs.Scope

/-!
# What closer names mean

A closer name acts in two directions: the types that implement its interface have to be closed,
which adds findings, and the methods of its interface release values, which removes findings.
Closers that find more types and fewer releases report more.  Only the interfaces that the names
stand for matter for this, not their order or how often they are named.
-/

namespace Unclosed

/-! ## Stricter closers -/

namespace Closers

variable {c c' : Closers} {v : ObjectId} {call : Node}

/-- `c'.StricterThan c`: what has to be closed by `c` has to be closed by `c'`, and what releases a
value by `c'` releases it by `c`. -/
structure StricterThan (c' c : Closers) : Prop where
  closable : ∀ t, c.closable t → c'.closable t
  isRelease : ∀ name, c'.isRelease name → c.isRelease name

namespace StricterThan

variable (h : c'.StricterThan c)

include h

theorem releaseCall (hcall : c'.ReleaseCall v call) : c.ReleaseCall v call := by
  obtain ⟨selector, hcalls, hform, ⟨method, name, declares, refersTo, hmethod, hname, hrelease⟩,
    hoperand⟩ := hcall
  refine ⟨selector, hcalls, hform, ⟨method, name, declares, refersTo, hmethod, hname, ?_⟩, hoperand⟩
  exact h.isRelease name hrelease

theorem releaseLiteral (hcall : c'.ReleaseLiteral v call) : c.ReleaseLiteral v call := by
  obtain ⟨literal, hcalls, hform, body, path, inner, hbody, hreaches, hinner, hrelease⟩ := hcall
  exact ⟨literal, hcalls, hform, body, path, inner, hbody, hreaches, hinner,
    h.releaseCall hrelease⟩

theorem isReleased {p : Program} {s : Site} {id : Node} (hid : c'.isReleased p s id) :
    c.isReleased p s id := by
  obtain ⟨v, list, hobject, hvar, hscope, d, hd, hdefers⟩ := isReleased_iff.mp hid
  refine isReleased_iff.mpr ⟨v, list, hobject, hvar, hscope, d, hd, ?_⟩
  obtain ⟨call, hcall, hrelease⟩ := defersRelease_iff.mp hdefers
  refine defersRelease_iff.mpr ⟨call, hcall, ?_⟩
  rcases hrelease with ⟨hlt, hrelease⟩ | hrelease
  · exact .inl ⟨hlt, h.releaseCall hrelease⟩
  · exact .inr (h.releaseLiteral hrelease)

theorem closable? {t : Option Ty} (ht : c.closable? t) : c'.closable? t := by
  obtain ⟨t, rfl, ht⟩ := (Option.any_eq_true _ _).mp ht
  exact (Option.any_eq_true _ _).mpr ⟨t, rfl, h.closable t ht⟩

end StricterThan

/-- More interfaces make more types closable. -/
theorem closable_of_subset (h : c.interfaces ⊆ c'.interfaces) (htypes : c.types = c'.types)
    {t : Ty} (ht : c.closable t) : c'.closable t := by
  simp only [closable, Bool.and_eq_true, List.any_eq_true, htypes] at ht ⊢
  obtain ⟨href, i, hi, himplements⟩ := ht
  exact ⟨href, i, h hi, himplements⟩

/-- More interfaces make more methods release. -/
theorem isRelease_of_subset (h : c.interfaces ⊆ c'.interfaces) (htypes : c.types = c'.types)
    {name : String} (hname : c.isRelease name) : c'.isRelease name := by
  simp only [isRelease, List.any_eq_true, htypes] at hname ⊢
  obtain ⟨i, hi, hmethod⟩ := hname
  exact ⟨i, h hi, hmethod⟩

/-- Closers with the same interfaces are as strict as each other. -/
theorem stricterThan_of_interfaces (h : ∀ i, i ∈ c.interfaces ↔ i ∈ c'.interfaces)
    (htypes : c.types = c'.types) : c'.StricterThan c where
  closable _ := closable_of_subset (fun i => (h i).mp) htypes
  isRelease _ := isRelease_of_subset (fun i => (h i).mpr) htypes.symm

end Closers

namespace Judge

variable {j : Judge} {c : Closers} {checks : Checks} {s : Site} {t : Target}

def withClosers (j : Judge) (c : Closers) : Judge :=
  { j with closers := c }

theorem acquires_withClosers (h : c.StricterThan j.closers) (hacquires : j.acquires checks s t) :
    (j.withClosers c).acquires checks s t := by
  have hreceives : j.receivesClosable t → (j.withClosers c).receivesClosable t := h.closable?
  rw [acquires] at hacquires ⊢
  split at hacquires
  · rw [Bool.and_eq_true] at hacquires ⊢
    exact hacquires.imp_right hreceives
  · rw [Bool.and_eq_true] at hacquires ⊢
    exact hacquires.imp_right hreceives
  · rw [Bool.and_eq_true, Bool.and_eq_true] at hacquires ⊢
    exact hacquires.imp_left (And.imp_right hreceives)
  · cases hacquires

theorem settles_of_withClosers (h : c.StricterThan j.closers)
    (hsettles : (j.withClosers c).settles s t) : j.settles s t := by
  rw [settles] at hsettles ⊢
  split at hsettles
  · rw [Bool.and_eq_true] at hsettles ⊢
    exact hsettles.imp_right h.isReleased
  · exact h.isReleased hsettles

/-- Stricter closers report whatever targets others do. -/
theorem reportable_subset_withClosers (h : c.StricterThan j.closers) (checks : Checks) (s : Site) :
    j.reportable checks s ⊆ (j.withClosers c).reportable checks s := by
  intro t ht
  obtain ⟨ht, hacquires, hsettles⟩ := mem_reportable_iff.mp ht
  refine mem_reportable_iff.mpr ⟨ht, acquires_withClosers h hacquires, ?_⟩
  exact fun hsettled => hsettles (settles_of_withClosers h hsettled)

end Judge

/-! ## Runs with other closer names -/

/-- The name stands for a closer: it is that of a type whose underlying type is an interface with
methods. -/
def Program.NamesCloser (p : Program) (name : String) : Prop :=
  ∃ t i, p.wellKnownType? name = some t ∧ p.types.underlying t = .interface i ∧
    (p.types.typeSet i).methods ≠ []

/-- Only names of closers are resolved. -/
theorem Program.namesCloser_of_interface? {p : Program} {name : String} {i : Interface}
    (h : Closers.interface? p.types p.meaning name = some i) : p.NamesCloser name := by
  rw [Closers.interface?] at h
  split at h
  · rename_i i' htype
    obtain ⟨t, ht, hunder⟩ := Option.map_eq_some_iff.mp htype
    refine ⟨t, i', ht, hunder, ?_⟩
    split at h
    · cases h
    · rename_i hmethods
      simpa using hmethods
  · cases h

/-- The closers of a program are the interfaces of their names. -/
theorem Program.mem_interfaces_judge_iff {p : Program} {names : List String} {i : Interface} :
    i ∈ (p.judge names).closers.interfaces ↔
      ∃ name ∈ names, Closers.interface? p.types p.meaning name = some i :=
  List.mem_filterMap

theorem Program.interfaces_judge_subset {p : Program} {names names' : List String}
    (h : names ⊆ names') :
    (p.judge names).closers.interfaces ⊆ (p.judge names').closers.interfaces := by
  intro i hi
  obtain ⟨name, hname, hi⟩ := mem_interfaces_judge_iff.mp hi
  exact mem_interfaces_judge_iff.mpr ⟨name, h hname, hi⟩

/-- Lists that agree on the names of closers stand for the same closers. -/
theorem Program.mem_interfaces_judge_congr {p : Program} {names names' : List String}
    (h : ∀ name, p.NamesCloser name → (name ∈ names ↔ name ∈ names')) (i : Interface) :
    i ∈ (p.judge names).closers.interfaces ↔ i ∈ (p.judge names').closers.interfaces := by
  rw [mem_interfaces_judge_iff, mem_interfaces_judge_iff]
  constructor
  · rintro ⟨name, hname, hi⟩
    exact ⟨name, (h name (namesCloser_of_interface? hi)).mp hname, hi⟩
  · rintro ⟨name, hname, hi⟩
    exact ⟨name, (h name (namesCloser_of_interface? hi)).mpr hname, hi⟩

/-- Lists that agree on the names of closers stand for closers that are as strict. -/
theorem Program.stricterThan_judge {p : Program} {names names' : List String}
    (h : ∀ name, p.NamesCloser name → (name ∈ names ↔ name ∈ names')) :
    (p.judge names').closers.StricterThan (p.judge names).closers :=
  Closers.stricterThan_of_interfaces (mem_interfaces_judge_congr h) rfl

namespace Config

variable {c : Config} {p : Program} {names names' : List String}

def withClosers (c : Config) (names : List String) : Config :=
  { c with closers := names }

/-- Stricter closers report more spans of each file. -/
theorem reportedSpans_withClosers_sublist
    (h : (p.judge names').closers.StricterThan (p.judge names).closers) (f : SourceFile) :
    ((c.withClosers names).reportedSpans (p.judge names) f).Sublist
      ((c.withClosers names').reportedSpans (p.judge names') f) := by
  refine reportedSpans_sublist f f.decls f.decls ?_ ?_ ?_
  · rfl
  · rfl
  intro span hspan
  simp only [mem_foundSpans_iff, found, List.mem_flatMap] at hspan ⊢
  obtain ⟨x, ⟨s, hs, hx⟩, hspan⟩ := hspan
  obtain ⟨t, ht, hplace⟩ := Judge.exists_mem_verdict_iff.mp ⟨x, hx, hspan⟩
  have ht' := Judge.reportable_subset_withClosers h c.checks s ht
  obtain ⟨y, hy, hspan⟩ := Judge.exists_mem_verdict_iff.mpr ⟨t, ht', hplace⟩
  exact ⟨y, ⟨s, hs, hy⟩, hspan⟩

/-- A run gets to the files under both of two lists that agree on the names of closers, or under
neither. -/
theorem isActive_withClosers_congr
    (h : ∀ name, p.NamesCloser name → (name ∈ names ↔ name ∈ names')) :
    (c.withClosers names).isActive p = (c.withClosers names').isActive p := by
  have hinterfaces := Program.mem_interfaces_judge_congr h
  have hempty :
      (p.judge names).closers.interfaces = [] ↔ (p.judge names').closers.interfaces = [] := by
    simp only [List.eq_nil_iff_forall_not_mem, hinterfaces]
  have hresolved : (p.judge names).closers.isResolved = (p.judge names').closers.isResolved := by
    rw [Closers.isResolved, Closers.isResolved, Bool.not_inj_iff, Bool.eq_iff_iff,
      List.isEmpty_iff, List.isEmpty_iff, hempty]
  simp only [isActive, withClosers, hresolved]

/-- Two lists that agree on the names of closers lead to the same report. -/
theorem analyze_withClosers_congr
    (h : ∀ name, p.NamesCloser name → (name ∈ names ↔ name ∈ names')) (files : List SourceFile) :
    (c.withClosers names).analyze p files = (c.withClosers names').analyze p files := by
  have h' : ∀ name, p.NamesCloser name → (name ∈ names' ↔ name ∈ names) :=
    fun name hname => (h name hname).symm
  have hspans : ∀ f, (c.withClosers names).reportedSpans (p.judge names) f =
      (c.withClosers names').reportedSpans (p.judge names') f := by
    intro f
    apply List.Sublist.antisymm
    · exact reportedSpans_withClosers_sublist (Program.stricterThan_judge h) f
    · exact reportedSpans_withClosers_sublist (Program.stricterThan_judge h') f
  have haddition : (c.withClosers names).addition (p.judge names) =
      (c.withClosers names').addition (p.judge names') := by
    funext f
    rw [addition, addition, hspans]
    rfl
  rw [analyze_eq_flatMap, analyze_eq_flatMap, isActive_withClosers_congr h]
  show (if _ then files.flatMap ((c.withClosers names).addition (p.judge names)) else []) = _
  rw [haddition]
  rfl

/-- **Closer names act through what they mean.**  If one list of names finds more types closable and
fewer methods releasing than another, it reports all findings of the other, in the same order.
Lists that agree on the names of closers lead to the same report, so the order and repetition of
names does not matter, nor do names of no type, of a type that is no interface, or of an interface
without methods.  More names never find fewer types closable or fewer methods releasing. -/
theorem run_withClosers (c : Config) (p : Program) (files : List SourceFile)
    (names names' : List String) :
    ∃ ds ds', (c.withClosers names).run p (some files) = .ok ds ∧
      (c.withClosers names').run p (some files) = .ok ds' ∧
      ((p.judge names').closers.StricterThan (p.judge names).closers →
        (ds.filter Diagnostic.isFinding).Sublist (ds'.filter Diagnostic.isFinding)) ∧
      ((∀ name, p.NamesCloser name → (name ∈ names ↔ name ∈ names')) → ds = ds') ∧
      (names ⊆ names' →
        (∀ t, (p.judge names).closers.closable t → (p.judge names').closers.closable t) ∧
        ∀ name, (p.judge names).closers.isRelease name →
          (p.judge names').closers.isRelease name) := by
  refine ⟨_, _, rfl, rfl, ?_, ?_, ?_⟩
  · intro h
    apply filter_analyze_sublist
    intro f _
    exact reportedSpans_withClosers_sublist h f
  · intro h
    exact analyze_withClosers_congr h files
  · intro h
    have hinterfaces := Program.interfaces_judge_subset (p := p) h
    constructor
    · intro t ht
      exact Closers.closable_of_subset hinterfaces rfl ht
    · intro name hname
      exact Closers.isRelease_of_subset hinterfaces rfl hname

open Sample in
/-- A name that stands for nothing and a repeated name change nothing, and the variable is reported
as before. -/
theorem run_withClosers_repeated :
    (∀ name, program.NamesCloser name →
      (name ∈ ["io.Closer"] ↔ name ∈ ["io.Reader", "io.Closer", "io.Closer"])) ∧
    (program.judge ["io.Reader", "io.Closer", "io.Closer"]).closers.StricterThan
      (program.judge ["io.Closer"]).closers ∧
    (Config.default.withClosers ["io.Reader", "io.Closer", "io.Closer"]).run program
      (some [file [binding]]) = .ok [.unclosed ⟨24, 25⟩] := by
  have hagree : ∀ name, program.NamesCloser name →
      (name ∈ ["io.Closer"] ↔ name ∈ ["io.Reader", "io.Closer", "io.Closer"]) := by
    rintro name ⟨t, i, ht, -⟩
    have hreader : name ≠ "io.Reader" := by
      rintro rfl
      have hnone : program.wellKnownType? "io.Reader" = none := by decide +kernel
      rw [hnone] at ht
      cases ht
    simp [hreader]
  obtain ⟨ds, ds', hds, hds', -, hsame, -⟩ := run_withClosers Config.default program
    [file [binding]] ["io.Closer"] ["io.Reader", "io.Closer", "io.Closer"]
  refine ⟨hagree, Program.stricterThan_judge hagree, ?_⟩
  rw [hds', ← hsame hagree, ← hds]
  exact congrArg Except.ok analyze_binding

end Config

end Unclosed
