import Unclosed.Proofs.NameList
import Unclosed.Proofs.WellKnown

/-!
# The closer flag is read as it is written

The flag takes a text if there are names between the commas and each of them is qualified, and then
it is set to these names.  What it is set to is written as a text that sets it to the same names, and
each of the names is one that types can be looked up by.
-/

namespace Unclosed

/-! ## Entries -/

/-- The entries of a text: what stands between its commas, without the blanks around it.  Entries
may be empty. -/
def IsEntries (text : String) (entries : List String) : Prop :=
  ∃ pieces, pieces ≠ [] ∧ (∀ piece ∈ pieces, ',' ∉ piece.toList) ∧ text = Text.join ',' pieces ∧
    List.Forall₂ Text.IsCore entries pieces

theorem isEntries_iff {text : String} {entries : List String} :
    IsEntries text entries ↔ entries = (Text.split ',' text).map Text.trim := by
  have hcores : ∀ pieces : List String,
      List.Forall₂ Text.IsCore entries pieces ↔ entries = pieces.map Text.trim := by
    intro pieces
    have hcore : Text.IsCore = fun core piece => core = Text.trim piece := by
      funext core piece
      exact propext (Text.trim_eq_iff.symm.trans eq_comm)
    rw [hcore, ← List.forall₂_map_right_iff, List.forall₂_eq_eq_eq]
  constructor
  · rintro ⟨pieces, hne, hcomma, htext, hentries⟩
    rw [Text.split_eq_iff.mpr ⟨hne, hcomma, htext⟩]
    exact (hcores pieces).mp hentries
  · intro hentries
    obtain ⟨hne, hcomma, htext⟩ := Text.split_eq_iff.mp (Eq.refl (Text.split ',' text))
    exact ⟨_, hne, hcomma, htext, (hcores _).mpr hentries⟩

theorem existsUnique_isEntries (text : String) : ∃! entries, IsEntries text entries :=
  ⟨_, isEntries_iff.mpr rfl, fun _ h => isEntries_iff.mp h⟩

/-- The listed names are the entries that are not empty. -/
theorem IsEntries.listedNames_eq {text : String} {entries : List String}
    (h : IsEntries text entries) : listedNames text = entries.filter (· ≠ "") := by
  rw [listedNames, ← isEntries_iff.mp h]

/-! ## Names by which types are found -/

namespace Program

/-- The program of one package, which declares one type. -/
def declaring (q : QualifiedName) (t : Ty) : Program where
  types := ⟨#[]⟩
  objects := #[⟨.type, q.name, some t⟩]
  packages := #[⟨q.path, [], [0]⟩]
  main := 0
  extents := []

theorem wellKnownType?_declaring {q : QualifiedName} (hq : q.WellFormed) (t : Ty) :
    (declaring q t).wellKnownType? q.toText = some t := by
  have hpkg : (declaring q t).packageAt? q.path = some ⟨q.path, [], [0]⟩ := by
    have hdependencies : dependencies (declaring q t).packages (declaring q t).main = [0] := rfl
    rw [packageAt?, hdependencies]
    simp [declaring]
  refine (wellKnownType?_eq_some_iff hq).mpr ⟨_, ⟨.type, q.name, some t⟩, hpkg, ?_, rfl, rfl⟩
  simp [inScope?, declaring]

/-- The names by which a type is found in some program are those that have two parts. -/
theorem exists_wellKnownType?_iff {name : String} :
    (∃ (p : Program) (t : Ty), p.wellKnownType? name = some t) ↔
      ∃ q : QualifiedName, q.WellFormed ∧ name = q.toText := by
  constructor
  · rintro ⟨p, t, h⟩
    cases hparse : QualifiedName.parse? name with
    | none =>
        rw [wellKnownType?, hparse] at h
        cases h
    | some q => exact ⟨q, QualifiedName.parse?_eq_some_iff.mp hparse⟩
  · rintro ⟨q, hq, rfl⟩
    exact ⟨declaring q .invalid, .invalid, wellKnownType?_declaring hq _⟩

end Program

/-! ## Setting the flag -/

namespace Config

variable {c c' : Config} {text : String} {names : List String}

/-- A list that the flag can be set to by writing its names with commas between them. -/
structure IsWritable (names : List String) : Prop where
  ne_nil : names ≠ []
  listable : ∀ name ∈ names, Listable name
  qualified : ∀ name ∈ names, isQualified name

/-- What the flag is set to can be written. -/
theorem isWritable_of_set (h : c.set .closer text = .ok () c') : IsWritable c'.closers := by
  obtain ⟨rfl, hne, hqualified⟩ := set_closer_eq_ok_iff.mp h
  exact ⟨hne, fun _ => listable_of_mem_listedNames, hqualified⟩

theorem isWritable_default : IsWritable default.closers :=
  ⟨by decide, by decide, by decide⟩

/-- The written names set the flag to themselves, whatever it was before. -/
theorem IsWritable.set_text (h : IsWritable names) (c : Config) :
    c.set .closer (FlagValue.names (some names)).text = .ok () { c with closers := names } := by
  have hlisted : listedNames (FlagValue.names (some names)).text = names :=
    listedNames_join h.listable
  rw [set_closer_eq_ok_iff, hlisted]
  exact ⟨rfl, h.ne_nil, h.qualified⟩

/-- Each name has two parts, and types are looked up by these parts. -/
theorem IsWritable.exists_qualifiedName (h : IsWritable names) {name : String}
    (hname : name ∈ names) :
    ∃ q : QualifiedName, q.WellFormed ∧ q.toText = name ∧
      ∀ (p : Program) (t : Ty), p.wellKnownType? name = some t ↔
        ∃ pkg o, p.packageAt? q.path = some pkg ∧ p.inScope? pkg q.name = some o ∧
          o.kind = .type ∧ o.type = some t := by
  obtain ⟨q, hq, rfl⟩ := isQualified_iff.mp (h.qualified name hname)
  exact ⟨q, hq, rfl, fun p t => Program.wellKnownType?_eq_some_iff hq⟩

/-- The flag and its text.  A text sets the flag if it has an entry that is not empty and all such
entries have something before and after their last dots, and it sets the flag to these entries.
Each list that the flag is set to in this way, and the default list as well, is written as a text
that sets the flag to the same list again.  Types are looked up by the parts of the names, and no
other text could ever find one. -/
theorem set_closer_text :
    (∀ text, ∃! entries, IsEntries text entries) ∧
    (∀ (c : Config) (text : String) (entries : List String), IsEntries text entries →
      ((∃ c', c.set .closer text = .ok () c') ↔
        (∃ entry ∈ entries, entry ≠ "") ∧
          ∀ entry ∈ entries, entry ≠ "" → ∃ q : QualifiedName, q.WellFormed ∧ entry = q.toText) ∧
      ∀ c', c.set .closer text = .ok () c' → c' = { c with closers := entries.filter (· ≠ "") }) ∧
    (∀ names : List String,
      (names = default.closers ∨
        ∃ (c c' : Config) (text : String), c.set .closer text = .ok () c' ∧ names = c'.closers) →
      (∀ c : Config, c.closers = names → c.set .closer (c.get .closer).text = .ok () c) ∧
      (∀ c : Config, c.set .closer (FlagValue.names (some names)).text =
        .ok () { c with closers := names }) ∧
      ∀ name ∈ names, ∃ q : QualifiedName, q.WellFormed ∧ q.toText = name ∧
        ∀ (p : Program) (t : Ty), p.wellKnownType? name = some t ↔
          ∃ pkg o, p.packageAt? q.path = some pkg ∧ p.inScope? pkg q.name = some o ∧
            o.kind = .type ∧ o.type = some t) ∧
    ∀ name : String, (∃ (p : Program) (t : Ty), p.wellKnownType? name = some t) ↔
      ∃ q : QualifiedName, q.WellFormed ∧ name = q.toText := by
  refine ⟨existsUnique_isEntries, ?_, ?_, fun name => Program.exists_wellKnownType?_iff⟩
  · intro c text entries hentries
    simp only [set_closer_eq_ok_iff, hentries.listedNames_eq, exists_eq_left, isQualified_iff]
    refine ⟨?_, fun c' h => h.1⟩
    simp [List.filter_eq_nil_iff]
  · intro names hnames
    have hwritable : IsWritable names := by
      rcases hnames with rfl | ⟨c, c', text, hset, rfl⟩
      · exact isWritable_default
      · exact isWritable_of_set hset
    refine ⟨?_, hwritable.set_text, fun name => hwritable.exists_qualifiedName⟩
    rintro c rfl
    exact hwritable.set_text c

end Config

namespace Sample

/-- Two names with blanks around them, and two empty entries. -/
def twoNames : String := " io.Closer,\t, example.org/db.Conn\n,"

/-- The two names are found, written and found again, and the second is looked up by what stands
before and after its last dot. -/
theorem set_closer_text_twoNames :
    IsEntries twoNames ["io.Closer", "", "example.org/db.Conn", ""] ∧
      ∃ c', Config.default.set .closer twoNames = .ok () c' ∧
        c'.closers = ["io.Closer", "example.org/db.Conn"] ∧
        (c'.get .closer).text = "io.Closer,example.org/db.Conn" ∧
        c'.set .closer (c'.get .closer).text = .ok () c' ∧
        ∃ q : QualifiedName, q.WellFormed ∧ q.toText = "example.org/db.Conn" := by
  obtain ⟨-, hset, hwritten, -⟩ := Config.set_closer_text
  have hentries : IsEntries twoNames ["io.Closer", "", "example.org/db.Conn", ""] :=
    isEntries_iff.mpr (by decide +kernel)
  obtain ⟨hiff, hvalue⟩ := hset .default twoNames _ hentries
  have hparts : ∀ entry ∈ ["io.Closer", "", "example.org/db.Conn", ""], entry ≠ "" →
      ∃ q : QualifiedName, q.WellFormed ∧ entry = q.toText := by
    intro entry hentry hne
    apply isQualified_iff.mp
    revert entry
    decide +kernel
  obtain ⟨c', hc'⟩ := hiff.mpr ⟨⟨"io.Closer", by decide, by decide⟩, hparts⟩
  have hclosers : c'.closers = ["io.Closer", "example.org/db.Conn"] := by
    rw [hvalue c' hc']
    decide
  obtain ⟨hsame, -, hlookup⟩ := hwritten c'.closers (.inr ⟨.default, c', twoNames, hc', rfl⟩)
  obtain ⟨q, hq, hname, -⟩ := hlookup "example.org/db.Conn" (by simp [hclosers])
  refine ⟨hentries, c', hc', hclosers, ?_, hsame c' rfl, q, hq, hname⟩
  rw [Config.get, FlagValue.text, hclosers]
  decide +kernel

end Sample

end Unclosed
