import Mathlib.Data.List.Forall2
import Mathlib.Tactic.Tauto
import Unclosed.Proofs.NameList
import Unclosed.Tree

/-!
# The grammar of directives

A directive is `//`, a gap, `nolint:`, a list of names that goes on for as long as it can, and
whatever follows.  A comment silences the linter if it is a directive and one of the names is that of
the linter or `all`.
-/

namespace Unclosed

namespace Directive

/-- The parts of a directive: the gap before the word, the list of names, and what follows. -/
structure Parts where
  gap : List Char
  list : List Char
  rest : List Char

def Parts.text (p : Parts) : List Char :=
  "//".toList ++ (p.gap ++ ("nolint:".toList ++ (p.list ++ p.rest)))

/-- The characters of a list of names: letters, digits, commas, underscores and hyphens. -/
def InList (c : Char) : Prop :=
  'a' ≤ c ∧ c ≤ 'z' ∨ 'A' ≤ c ∧ c ≤ 'Z' ∨ '0' ≤ c ∧ c ≤ '9' ∨ c = ',' ∨ c = '_' ∨ c = '-'

/-- The parts are what they are to be, and the list ends where no character of a list follows. -/
structure Parts.WellFormed (p : Parts) : Prop where
  gap : ∀ c ∈ p.gap, c ∈ [' ', '\t', '\n', '\x0c', '\r']
  list : ∀ c ∈ p.list, InList c
  rest : ∀ c ∈ p.rest.head?, ¬InList c

/-- The entry is the word, each letter as it is or in upper case. -/
def Spells (entry word : List Char) : Prop :=
  List.Forall₂ (fun c d => c = d ∨ c = d.toUpper) entry word

/-! ## Characters -/

theorem isGap_iff {c : Char} : isGap c ↔ c ∈ [' ', '\t', '\n', '\x0c', '\r'] := by
  simp [isGap, or_assoc]

theorem isUpper_iff {c : Char} : c.isUpper ↔ 'A' ≤ c ∧ c ≤ 'Z' :=
  decide_eq_true_iff

theorem isLower_iff {c : Char} : c.isLower ↔ 'a' ≤ c ∧ c ≤ 'z' :=
  Bool.and_eq_true_iff.trans (and_congr decide_eq_true_iff decide_eq_true_iff)

theorem isDigit_iff {c : Char} : c.isDigit ↔ '0' ≤ c ∧ c ≤ '9' :=
  Bool.and_eq_true_iff.trans (and_congr decide_eq_true_iff decide_eq_true_iff)

theorem isAlphanum_iff {c : Char} : c.isAlphanum ↔ (c.isUpper ∨ c.isLower) ∨ c.isDigit :=
  Bool.or_eq_true_iff.trans (or_congr_left Bool.or_eq_true_iff)

theorem isListChar_iff {c : Char} : isListChar c ↔ InList c := by
  simp only [isListChar, Bool.or_eq_true, decide_eq_true_eq, isAlphanum_iff, isUpper_iff,
    isLower_iff, isDigit_iff, InList]
  tauto

/-- Upper case letters are 32 code points below those in lower case. -/
theorem toNat_toLower (c : Char) :
    c.toLower.toNat = if 65 ≤ c.toNat ∧ c.toNat ≤ 90 then c.toNat + 32 else c.toNat := by
  by_cases h : 65 ≤ c.toNat ∧ c.toNat ≤ 90
  · have hlower : c.toLower.toNat = (c.val + 32).toNat := congrArg Char.toNat (dif_pos h)
    have hadd : (c.val + 32).toNat = (c.toNat + 32) % 2 ^ 32 := UInt32.toNat_add _ _
    rw [if_pos h, hlower, hadd]
    omega
  · rw [if_neg h]
    exact congrArg Char.toNat (dif_neg h)

theorem toNat_toUpper {d : Char} (h : 'a' ≤ d ∧ d ≤ 'z') : d.toUpper.toNat + 32 = d.toNat := by
  have hd : 97 ≤ d.toNat ∧ d.toNat ≤ 122 := h
  -- The difference of the cases is added modulo the width of the word.
  have hupper : d.toUpper.toNat = (d.toNat + (2 ^ 32 - 32)) % 2 ^ 32 := by
    delta Char.toUpper
    rw [dif_pos (show 'a'.val ≤ d.val ∧ d.val ≤ 'z'.val from h)]
    exact UInt32.toNat_add _ _
  omega

/-- A lower case letter is reached from itself and from its upper case. -/
theorem toLower_eq_iff {c d : Char} (h : d.isLower) : c.toLower = d ↔ c = d ∨ c = d.toUpper := by
  have hd : 97 ≤ d.toNat ∧ d.toNat ≤ 122 := isLower_iff.mp h
  have hupper := toNat_toUpper (isLower_iff.mp h)
  rw [← Char.toNat_inj, ← Char.toNat_inj, ← Char.toNat_inj, toNat_toLower]
  split <;> omega

/-- A text is a word in lower case once its letters are, if it spells the word. -/
theorem map_toLower_eq_iff {entry word : List Char} (h : ∀ d ∈ word, d.isLower) :
    entry.map Char.toLower = word ↔ Spells entry word := by
  induction word generalizing entry with
  | nil => simp [Spells]
  | cons d word ih =>
      rw [List.forall_mem_cons] at h
      cases entry with
      | nil => simp [Spells]
      | cons c entry =>
          rw [List.map_cons, List.cons_eq_cons, toLower_eq_iff h.1, ih h.2, Spells, Spells,
            List.forall₂_cons]

theorem names_iff {entry : List Char} :
    names entry ↔ Spells entry "closescope".toList ∨ Spells entry "all".toList := by
  have hlinter : "closescope".toList.all Char.isLower := by decide
  have hall : "all".toList.all Char.isLower := by decide
  rw [← map_toLower_eq_iff (List.all_eq_true.mp hlinter),
    ← map_toLower_eq_iff (List.all_eq_true.mp hall)]
  simp only [names, Bool.or_eq_true, beq_iff_eq]
  rfl

/-! ## Reading a directive -/

variable {start cs rest list : List Char} {p q : Parts}

theorem after?_eq_some_iff : after? start cs = some rest ↔ cs = start ++ rest := by
  rw [after?]
  constructor
  · intro h
    split at h
    · rename_i hprefix
      obtain ⟨tail, rfl⟩ := List.isPrefixOf_iff_prefix.mp hprefix
      simpa using h
    · cases h
  · rintro rfl
    simp

/-- A run of characters that cannot go on is what is taken. -/
theorem takeWhile_append_of_head? {test : Char → Bool} (h : ∀ c ∈ list, test c)
    (hrest : ∀ c ∈ rest.head?, ¬test c) : (list ++ rest).takeWhile test = list := by
  rw [List.takeWhile_append_of_pos h]
  cases rest with
  | nil => simp
  | cons c rest => simp [hrest c rfl]

/-- A text is divided in one way into a run of characters that cannot go on and what follows. -/
theorem append_inj_of_head? {test : Char → Bool} {list' rest' : List Char}
    (h : ∀ c ∈ list, test c) (hrest : ∀ c ∈ rest.head?, ¬test c) (h' : ∀ c ∈ list', test c)
    (hrest' : ∀ c ∈ rest'.head?, ¬test c) (htext : list ++ rest = list' ++ rest') :
    list = list' ∧ rest = rest' := by
  have hlist : list = list' := by
    rw [← takeWhile_append_of_head? h hrest, htext, takeWhile_append_of_head? h' hrest']
  subst hlist
  exact ⟨rfl, List.append_cancel_left htext⟩

namespace Parts.WellFormed

theorem isGap (h : p.WellFormed) : ∀ c ∈ p.gap, isGap c :=
  fun c hc => isGap_iff.mpr (h.gap c hc)

theorem isListChar (h : p.WellFormed) : ∀ c ∈ p.list, isListChar c :=
  fun c hc => isListChar_iff.mpr (h.list c hc)

theorem not_isListChar (h : p.WellFormed) : ∀ c ∈ p.rest.head?, ¬Directive.isListChar c :=
  fun c hc hlist => h.rest c hc (isListChar_iff.mp hlist)

/-- A directive is divided into its parts in one way. -/
theorem eq_of_text_eq (hp : p.WellFormed) (hq : q.WellFormed) (h : p.text = q.text) : p = q := by
  have hn : ∀ tail : List Char, ∀ c ∈ ("nolint:".toList ++ tail).head?, ¬Directive.isGap c := by
    rintro tail _ ⟨⟩
    decide
  obtain ⟨hgap, htail⟩ := append_inj_of_head? hp.isGap (hn _) hq.isGap (hn _)
    (List.append_cancel_left h)
  obtain ⟨hlist, hrest⟩ := append_inj_of_head? hp.isListChar hp.not_isListChar hq.isListChar
    hq.not_isListChar (List.append_cancel_left htail)
  cases p
  cases q
  simp_all

/-- The list of a directive is read from its text. -/
theorem list?_text (h : p.WellFormed) :
    list? p.text = if p.list = [] then none else some p.list := by
  have hstart : after? ['/', '/'] p.text =
      some (p.gap ++ ("nolint:".toList ++ (p.list ++ p.rest))) := after?_eq_some_iff.mpr rfl
  have hgap : (p.gap ++ ("nolint:".toList ++ (p.list ++ p.rest))).dropWhile Directive.isGap =
      "nolint:".toList ++ (p.list ++ p.rest) := by
    rw [List.dropWhile_append_of_pos h.isGap]
    rfl
  have hword : after? "nolint:".toList ("nolint:".toList ++ (p.list ++ p.rest)) =
      some (p.list ++ p.rest) := after?_eq_some_iff.mpr rfl
  simp only [list?, hstart, hgap, hword, takeWhile_append_of_head? h.isListChar h.not_isListChar]
  cases p.list with
  | nil => rfl
  | cons c list => rfl

end Parts.WellFormed

/-- What a list is read from is a directive. -/
theorem exists_parts_of_list? (h : list? cs = some list) :
    ∃ p : Parts, p.WellFormed ∧ cs = p.text := by
  rw [list?] at h
  split at h
  · cases h
  · rename_i body hstart
    split at h
    · cases h
    · rename_i tail hword
      split at h
      · cases h
      · rw [after?_eq_some_iff] at hstart hword
        refine ⟨⟨body.takeWhile isGap, tail.takeWhile isListChar, tail.dropWhile isListChar⟩,
          ⟨?_, ?_, ?_⟩, ?_⟩
        · exact fun c hc => isGap_iff.mp (List.mem_takeWhile_imp hc)
        · exact fun c hc => isListChar_iff.mp (List.mem_takeWhile_imp hc)
        · intro c hc hlist
          exact Text.not_of_mem_head?_dropWhile hc (isListChar_iff.mpr hlist)
        · rw [Parts.text, List.takeWhile_append_dropWhile, ← hword,
            List.takeWhile_append_dropWhile, hstart]
          rfl

end Directive

namespace Comment

open Directive

variable {c c' : Comment} {p : Parts}

/-- A directive silences the linter by its list. -/
theorem silences_iff_of_text (h : p.WellFormed) (htext : c.text.toList = p.text) :
    c.silences ↔ p.list ≠ [] ∧ ∃ entry ∈ p.list.splitOn ',',
      Spells entry "closescope".toList ∨ Spells entry "all".toList := by
  rw [silences, htext, h.list?_text]
  by_cases hlist : p.list = []
  · simp [hlist]
  · simp [hlist, Text.pieces_eq_splitOn, names_iff]

/-- **Directives are told by their grammar.**  A comment silences the linter exactly if it is `//`, a
gap of blanks, `nolint:`, a list of names that is not empty and goes on for as long as it can, and
anything after it, where the name of the linter or `all` is an entry of the list, in any letter case.
A text is divided in one way, and what follows the list does not matter. -/
theorem silences_iff_grammar (c : Comment) :
    (c.silences ↔ ∃ p : Parts, p.WellFormed ∧ p.list ≠ [] ∧ c.text.toList = p.text ∧
      ∃ entry ∈ p.list.splitOn ',',
        Spells entry "closescope".toList ∨ Spells entry "all".toList) ∧
    (∀ p q : Parts, p.WellFormed → q.WellFormed → c.text.toList = p.text →
      c.text.toList = q.text → p = q) ∧
    ∀ (p : Parts) (rest : List Char) (c' : Comment), p.WellFormed →
      (∀ x ∈ rest.head?, ¬InList x) → c.text.toList = p.text →
      c'.text.toList = { p with rest := rest }.text → c'.silences = c.silences := by
  refine ⟨?_, ?_, ?_⟩
  · constructor
    · intro hsilences
      cases hlist : list? c.text.toList with
      | none => simp [silences, hlist] at hsilences
      | some list =>
          obtain ⟨p, hp, htext⟩ := exists_parts_of_list? hlist
          obtain ⟨hne, hentry⟩ := (silences_iff_of_text hp htext).mp hsilences
          exact ⟨p, hp, hne, htext, hentry⟩
    · rintro ⟨p, hp, hne, htext, hentry⟩
      exact (silences_iff_of_text hp htext).mpr ⟨hne, hentry⟩
  · intro p q hp hq htext htext'
    exact hp.eq_of_text_eq hq (htext.symm.trans htext')
  · intro p rest c' hp hrest htext htext'
    have hp' : Parts.WellFormed { p with rest := rest } := ⟨hp.gap, hp.list, hrest⟩
    rw [Bool.eq_iff_iff, silences_iff_of_text hp htext, silences_iff_of_text hp' htext']

namespace Sample

/-- The parts of `//\t nolint:errcheck,CloseScope; none`. -/
def parts : Parts :=
  ⟨['\t', ' '], "errcheck,CloseScope".toList, ';' :: " none".toList⟩

theorem wellFormed_parts : parts.WellFormed where
  gap := by simp [parts]
  list c hc := isListChar_iff.mp (List.all_eq_true.mp (by decide) c hc)
  rest c hc := by
    cases hc
    rw [← isListChar_iff]
    decide

/-- The second name of the list silences the linter, whatever follows the semicolon, and the text can
be divided in no other way. -/
theorem silences_iff_grammar_second :
    parts.WellFormed ∧ (Comment.mk 36 "//\t nolint:errcheck,CloseScope; none").silences ∧
      (Comment.mk 36 "//\t nolint:errcheck,CloseScope; all").silences ∧
      ∀ q : Parts, q.WellFormed → parts.text = q.text → parts = q := by
  obtain ⟨-, hunique, hrest⟩ := silences_iff_grammar ⟨36, "//\t nolint:errcheck,CloseScope; none"⟩
  have hsilences : (Comment.mk 36 "//\t nolint:errcheck,CloseScope; none").silences := by
    decide +kernel
  refine ⟨wellFormed_parts, hsilences, ?_, ?_⟩
  · rw [hrest parts (';' :: " all".toList) _ wellFormed_parts wellFormed_parts.rest rfl rfl]
    exact hsilences
  · intro q hq htext
    exact hunique parts q wellFormed_parts hq rfl htext

end Sample

end Comment

end Unclosed
