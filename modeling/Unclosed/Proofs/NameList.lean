import Mathlib.Data.List.Basic
import Mathlib.Data.List.TakeWhile
import Unclosed.Flag

/-!
# Names between commas

A list of names is written with commas between the names, and read by cutting at the commas and
taking blanks away.  What is written is read again, unless a name is empty, holds a comma, or has
blanks at an end; no name that is read does.
-/

namespace Unclosed

namespace Text

/-- The pieces are those of the library's `splitOn`. -/
theorem pieces_eq_splitOn (sep : Char) (cs : List Char) : pieces sep cs = cs.splitOn sep := by
  induction cs with
  | nil => rfl
  | cons c cs ih =>
      rw [pieces, ih, List.splitOn_cons_eq_if_modifyHead]
      by_cases hc : c = sep
      · simp [hc]
      · simp only [hc, beq_iff_eq, if_false]
        cases hsplit : cs.splitOn sep with
        | nil => exact absurd hsplit (List.splitOn_ne_nil sep cs)
        | cons piece rest => rfl

/-- Texts that do not hold the separator are the pieces of what they are joined to. -/
theorem split_join {sep : Char} {texts : List String} (hne : texts ≠ [])
    (h : ∀ text ∈ texts, sep ∉ text.toList) : split sep (join sep texts) = texts := by
  have hpieces : ([sep].intercalate (texts.map String.toList)).splitOn sep =
      texts.map String.toList := by
    apply List.splitOn_intercalate
    · simpa using h
    · simpa using hne
  rw [split, join, String.toList_ofList, pieces_eq_splitOn, hpieces, List.map_map]
  simp [Function.comp_def]

theorem not_mem_of_mem_pieces {sep : Char} {cs piece : List Char} (h : piece ∈ pieces sep cs) :
    sep ∉ piece := by
  induction cs generalizing piece with
  | nil =>
      rw [pieces, List.mem_singleton] at h
      simp [h]
  | cons c cs ih =>
      rw [pieces_eq_splitOn, List.splitOn_cons_eq_if_modifyHead, ← pieces_eq_splitOn] at h
      by_cases hc : c = sep
      · simp only [hc, beq_self_eq_true, if_true, List.mem_cons] at h
        rcases h with rfl | h
        · exact List.not_mem_nil
        · exact ih h
      · simp only [hc, beq_iff_eq, if_false] at h
        cases hpieces : pieces sep cs with
        | nil => simp [hpieces] at h
        | cons first rest =>
            rw [hpieces] at ih h
            rcases List.mem_cons.mp h with rfl | h
            · exact List.not_mem_cons_of_ne_of_not_mem (Ne.symm hc) (ih List.mem_cons_self)
            · exact ih (List.mem_cons_of_mem _ h)

/-- The pieces of a text are the texts without the separator that it is joined from. -/
theorem split_eq_iff {sep : Char} {text : String} {texts : List String} :
    split sep text = texts ↔
      texts ≠ [] ∧ (∀ piece ∈ texts, sep ∉ piece.toList) ∧ text = join sep texts := by
  constructor
  · rintro rfl
    refine ⟨?_, ?_, ?_⟩
    · simp [split, pieces_eq_splitOn, List.splitOn_ne_nil]
    · intro piece hpiece
      obtain ⟨cs, hcs, rfl⟩ := List.mem_map.mp hpiece
      simpa using not_mem_of_mem_pieces hcs
    · simp [split, join, pieces_eq_splitOn, List.map_map, Function.comp_def,
        List.intercalate_splitOn]
  · rintro ⟨hne, hsep, rfl⟩
    exact split_join hne hsep

/-- What stands in a text between the blanks at its ends. -/
structure IsCore (core text : String) : Prop where
  between : ∃ before after : List Char, (∀ c ∈ before, isBlank c) ∧ (∀ c ∈ after, isBlank c) ∧
    text.toList = before ++ (core.toList ++ after)
  head : ∀ c ∈ core.toList.head?, ¬isBlank c
  last : ∀ c ∈ core.toList.getLast?, ¬isBlank c

theorem not_of_mem_head?_dropWhile {test : Char → Bool} {cs : List Char} {c : Char}
    (h : c ∈ (cs.dropWhile test).head?) : ¬test c := by
  have hstop := List.head?_dropWhile_not test cs
  rw [Option.mem_def.mp h] at hstop
  simpa using hstop

theorem isCore_trim (text : String) : IsCore (trim text) text := by
  have hfront := List.takeWhile_append_dropWhile (p := isBlank) (l := text.toList)
  generalize hrest : text.toList.dropWhile isBlank = rest at hfront
  have hback := List.takeWhile_append_dropWhile (p := isBlank) (l := rest.reverse)
  have htrim : (trim text).toList = (rest.reverse.dropWhile isBlank).reverse := by
    rw [trim, trimBlanks, String.toList_ofList, hrest]
  have hcore : rest = (trim text).toList ++ (rest.reverse.takeWhile isBlank).reverse := by
    rw [htrim, ← List.reverse_append, hback, List.reverse_reverse]
  refine ⟨⟨text.toList.takeWhile isBlank, (rest.reverse.takeWhile isBlank).reverse, ?_, ?_, ?_⟩,
    ?_, ?_⟩
  · exact fun c hc => List.mem_takeWhile_imp hc
  · exact fun c hc => List.mem_takeWhile_imp (List.mem_reverse.mp hc)
  · rw [← hcore]
    exact hfront.symm
  · -- The core is a beginning of the rest, so its first character, if any, is that of the rest.
    intro c hc
    have hhead : c ∈ (text.toList.dropWhile isBlank).head? := by
      rw [hrest, hcore]
      exact List.mem_head?_append_of_mem_head? hc
    exact not_of_mem_head?_dropWhile hhead
  · intro c hc
    rw [htrim, List.getLast?_reverse] at hc
    exact not_of_mem_head?_dropWhile hc

theorem IsCore.trim_eq {core text : String} (h : IsCore core text) : trim text = core := by
  obtain ⟨before, after, hbefore, hafter, htext⟩ := h.between
  rw [← String.toList_inj, trim, trimBlanks, String.toList_ofList, htext,
    List.dropWhile_append_of_pos hbefore]
  by_cases hcore : core.toList = []
  · rw [hcore, List.nil_append, List.dropWhile_eq_nil_iff.mpr hafter]
    rfl
  · have hfront : (core.toList ++ after).dropWhile isBlank = core.toList ++ after := by
      refine List.dropWhile_eq_self_iff.mpr fun hl => h.head _ ?_
      rw [← List.head?_append_of_ne_nil _ hcore, List.head?_eq_getElem?]
      exact List.getElem?_eq_getElem hl
    have hback : core.toList.reverse.dropWhile isBlank = core.toList.reverse := by
      refine List.dropWhile_eq_self_iff.mpr fun hl => h.last _ ?_
      rw [← List.head?_reverse, List.head?_eq_getElem?]
      exact List.getElem?_eq_getElem hl
    rw [hfront, List.reverse_append,
      List.dropWhile_append_of_pos fun c hc => hafter c (List.mem_reverse.mp hc), hback,
      List.reverse_reverse]

/-- The trimmed text is the core, which is unique. -/
theorem trim_eq_iff {text core : String} : trim text = core ↔ IsCore core text :=
  ⟨fun h => h ▸ isCore_trim text, IsCore.trim_eq⟩

/-- Nothing is taken away from a text that neither starts nor ends with a blank. -/
theorem trim_eq_self {text : String} (hhead : ∀ c ∈ text.toList.head?, ¬isBlank c)
    (hlast : ∀ c ∈ text.toList.getLast?, ¬isBlank c) : trim text = text :=
  IsCore.trim_eq ⟨⟨[], [], by simp⟩, hhead, hlast⟩

end Text

/-! ## Lists of names -/

/-- The names between the commas, without blanks around them and without empty ones. -/
def listedNames (text : String) : List String :=
  ((Text.split ',' text).map Text.trim).filter (· ≠ "")

/-- A name that can stand in a list: it is not empty, holds no comma, and has no blanks at an end. -/
structure Listable (name : String) : Prop where
  ne_empty : name ≠ ""
  no_comma : ',' ∉ name.toList
  head : ∀ c ∈ name.toList.head?, ¬Text.isBlank c
  last : ∀ c ∈ name.toList.getLast?, ¬Text.isBlank c

theorem listable_iff {name : String} :
    Listable name ↔ name ≠ "" ∧ ',' ∉ name.toList ∧ name.toList.head?.all (!Text.isBlank ·) ∧
      name.toList.getLast?.all (!Text.isBlank ·) := by
  simp only [Option.all_eq_true, Bool.not_eq_true', ← Bool.not_eq_true]
  exact ⟨fun h => ⟨h.ne_empty, h.no_comma, h.head, h.last⟩,
    fun ⟨hne, hcomma, hhead, hlast⟩ => ⟨hne, hcomma, hhead, hlast⟩⟩

instance (name : String) : Decidable (Listable name) :=
  decidable_of_iff _ listable_iff.symm

/-- A written list of names is read again. -/
theorem listedNames_join {names : List String} (h : ∀ name ∈ names, Listable name) :
    listedNames (Text.join ',' names) = names := by
  by_cases hne : names = []
  · rw [hne]
    decide
  · have htrim : ∀ name ∈ names, Text.trim name = id name := fun name hname =>
      Text.trim_eq_self (h name hname).head (h name hname).last
    rw [listedNames, Text.split_join hne fun name hname => (h name hname).no_comma,
      List.map_congr_left htrim, List.map_id, List.filter_eq_self]
    intro name hname
    exact decide_eq_true (h name hname).ne_empty

theorem listable_of_mem_listedNames {text name : String} (h : name ∈ listedNames text) :
    Listable name := by
  obtain ⟨hname, hne⟩ := List.mem_filter.mp h
  obtain ⟨piece, hpiece, rfl⟩ := List.mem_map.mp hname
  have hcore := Text.isCore_trim piece
  refine ⟨of_decide_eq_true hne, ?_, hcore.head, hcore.last⟩
  obtain ⟨before, after, -, -, htext⟩ := hcore.between
  obtain ⟨-, hcomma, -⟩ := Text.split_eq_iff.mp (Eq.refl (Text.split ',' text))
  have hno := hcomma piece hpiece
  rw [htext] at hno
  exact fun hmem => hno (List.mem_append_right _ (List.mem_append_left _ hmem))

/-! ## Setting the list -/

/-- The loop over the pieces ends at the first name that is not qualified, or else adds all names to
those that were read before.  In neither case does it change the configuration. -/
theorem run_readPieces (c : Config) (names pieces : List String) :
    (readPieces names pieces).run c =
      (((pieces.map Text.trim).filter (· ≠ "")).find? (!isQualified ·)).elim
        (.ok (names ++ (pieces.map Text.trim).filter (· ≠ "")) c)
        fun name => .error (.notQualified name) c := by
  induction pieces generalizing names with
  | nil => simp [readPieces]
  | cons piece pieces ih =>
      rw [readPieces, List.map_cons]
      by_cases hempty : Text.trim piece = ""
      · rw [if_pos hempty, ih, hempty]
        rfl
      · have hfilter : (Text.trim piece :: pieces.map Text.trim).filter (· ≠ "") =
            Text.trim piece :: (pieces.map Text.trim).filter (· ≠ "") :=
          List.filter_cons_of_pos (by simpa using hempty)
        rw [if_neg hempty, hfilter, List.find?_cons]
        by_cases hqualified : isQualified (Text.trim piece)
        · rw [if_pos hqualified, ih, hqualified, List.append_assoc]
          rfl
        · have hbad : isQualified (Text.trim piece) = false := by simpa using hqualified
          rw [if_neg hqualified, hbad]
          rfl

theorem run_readNames (c : Config) (text : String) :
    (readNames text).run c =
      ((listedNames text).find? (!isQualified ·)).elim
        (if listedNames text = [] then .error .noNames c else .ok (listedNames text) c)
        fun name => .error (.notQualified name) c := by
  rw [readNames, EStateM.run_bind, run_readPieces, List.nil_append, ← listedNames]
  cases (listedNames text).find? (!isQualified ·) with
  | some name => rfl
  | none =>
      by_cases hnil : listedNames text = []
      · rw [hnil]
        rfl
      · simp [hnil]

namespace Config

variable {c c' : Config} {text : String}

/-- The list is written last, when no name has been found that is not qualified. -/
theorem set_closer (c : Config) (text : String) :
    c.set .closer text =
      ((listedNames text).find? (!isQualified ·)).elim
        (if listedNames text = [] then .error .noNames c
          else .ok () { c with closers := listedNames text })
        fun name => .error (.notQualified name) c := by
  rw [set, Flag.update, if_neg (by decide), EStateM.run_bind, run_readNames]
  cases (listedNames text).find? (!isQualified ·) with
  | some name => rfl
  | none =>
      by_cases hnil : listedNames text = []
      · simp [hnil]
      · simp [hnil]

/-- A list is taken as a whole or not at all. -/
theorem set_closer_eq_ok_iff :
    c.set .closer text = .ok () c' ↔
      c' = { c with closers := listedNames text } ∧ listedNames text ≠ [] ∧
        ∀ name ∈ listedNames text, isQualified name := by
  rw [set_closer]
  cases hbad : (listedNames text).find? (!isQualified ·) with
  | some name =>
      have hname : ¬isQualified name := by simpa using List.find?_some hbad
      constructor
      · intro h
        cases h
      · rintro ⟨-, -, hgood⟩
        exact absurd (hgood name (List.mem_of_find?_eq_some hbad)) hname
  | none =>
      have hgood : ∀ name ∈ listedNames text, isQualified name := by simpa using hbad
      by_cases hnil : listedNames text = []
      · simp [hnil]
      · simp only [Option.elim_none, hnil, if_false, EStateM.Result.ok.injEq, true_and, ne_eq,
          not_false_eq_true]
        exact ⟨fun h => ⟨h.symm, hgood⟩, fun h => h.1.symm⟩

end Config

end Unclosed
