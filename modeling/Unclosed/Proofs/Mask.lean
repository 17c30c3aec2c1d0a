import Unclosed.Config

/-!
# The bits of a mask

What a mask answers is decided by which of its bits are on.  Setting a flag acts on the bits of the
flag and on no others, so flags without a common bit can share a mask.
-/

namespace Unclosed.Mask

variable {w : Nat} {m : Mask w} {flag other : BitVec w} {on : Bool} {i : Nat}

def isOn (m : Mask w) (i : Nat) : Bool :=
  m.bits.getLsbD i

/-! ## What the bits decide -/

theorem enabled_iff : m.enabled flag ↔ ∃ i, m.isOn i ∧ flag.getLsbD i := by
  have hzero : m.bits &&& flag = 0 ↔ ∀ i, (m.bits &&& flag).getLsbD i = false :=
    BitVec.zero_iff_eq_false
  simp only [enabled, bne_iff_ne, ne_eq, hzero, Classical.not_forall, BitVec.getLsbD_and,
    Bool.not_eq_false, Bool.and_eq_true, isOn]

theorem isEmpty_iff : m.isEmpty ↔ ∀ i, ¬m.isOn i := by
  have hzero : m.bits = 0 ↔ ∀ i, m.bits.getLsbD i = false := BitVec.zero_iff_eq_false
  simp only [isEmpty, beq_iff_eq, hzero, isOn, Bool.not_eq_true]

theorem isEmpty_iff_not_enabled : m.isEmpty ↔ ∀ flag, ¬m.enabled flag := by
  simp only [isEmpty_iff, enabled_iff, not_exists, not_and]
  constructor
  · intro h flag i hi
    exact absurd hi (h i)
  · intro h i hi
    exact h m.bits i hi hi

theorem eq_of_isOn_eq {m m' : Mask w} (h : ∀ i, m.isOn i = m'.isOn i) : m = m' := by
  obtain ⟨bits⟩ := m
  obtain ⟨bits'⟩ := m'
  rw [mk.injEq]
  exact BitVec.eq_of_getLsbD_eq fun i _ => h i

/-! ## Switching bits -/

/-- Setting a flag switches its bits and no others. -/
theorem isOn_set : (m.set flag on).isOn i = if flag.getLsbD i then on else m.isOn i := by
  -- Bits beyond the width are off, in the complement of a flag too.
  have hwidth : m.bits.getLsbD i → i < w := BitVec.lt_of_getLsbD
  cases on with
  | true => cases hflag : flag.getLsbD i <;> simp [isOn, set, hflag]
  | false =>
      cases hflag : flag.getLsbD i with
      | true => simp [isOn, set, hflag]
      | false => simpa [isOn, set, hflag] using hwidth

theorem isOn_ofFlags {flags : List (BitVec w)} :
    (ofFlags flags).isOn i = flags.any (·.getLsbD i) := by
  have hfold : ∀ bits : BitVec w, (flags.foldl (· ||| ·) bits).getLsbD i =
      (bits.getLsbD i || flags.any (·.getLsbD i)) := by
    induction flags with
    | nil => simp
    | cons flag flags ih =>
        intro bits
        rw [List.foldl_cons, ih, BitVec.getLsbD_or, List.any_cons, Bool.or_assoc]
  simpa [isOn, ofFlags] using hfold 0

/-- A flag that has a bit is enabled as it was set. -/
theorem enabled_set_self (h : flag ≠ 0) : (m.set flag on).enabled flag = on := by
  have hbit : ∃ i, flag.getLsbD i := by
    simpa using mt BitVec.zero_iff_eq_false.mpr h
  rw [Bool.eq_iff_iff, enabled_iff]
  constructor
  · rintro ⟨i, hon, hi⟩
    rwa [isOn_set, if_pos hi] at hon
  · intro hon
    obtain ⟨i, hi⟩ := hbit
    exact ⟨i, by rwa [isOn_set, if_pos hi], hi⟩

theorem not_getLsbD_of_and_eq_zero (h : flag &&& other = 0) (hi : other.getLsbD i) :
    ¬flag.getLsbD i := by
  intro hflag
  have hboth : (flag &&& other).getLsbD i = false := by simp [h]
  simp [hi, hflag] at hboth

/-- Setting a flag leaves flags alone that have no bit in common with it. -/
theorem enabled_set_of_and_eq_zero (h : flag &&& other = 0) :
    (m.set flag on).enabled other = m.enabled other := by
  rw [Bool.eq_iff_iff, enabled_iff, enabled_iff]
  constructor
  · rintro ⟨i, hon, hi⟩
    rw [isOn_set, if_neg (not_getLsbD_of_and_eq_zero h hi)] at hon
    exact ⟨i, hon, hi⟩
  · rintro ⟨i, hon, hi⟩
    exact ⟨i, by rwa [isOn_set, if_neg (not_getLsbD_of_and_eq_zero h hi)], hi⟩

/-- Flags without a bit in common can be set in any order. -/
theorem set_comm {on' : Bool} (h : flag &&& other = 0) :
    (m.set flag on).set other on' = (m.set other on').set flag on := by
  refine eq_of_isOn_eq fun i => ?_
  simp only [isOn_set]
  by_cases hi : other.getLsbD i
  · simp only [hi, not_getLsbD_of_and_eq_zero h hi, if_true, Bool.false_eq_true, if_false]
  · simp only [hi, Bool.false_eq_true, if_false]

/-- What is enabled after a flag was switched off was enabled before. -/
theorem enabled_of_enabled_set_false (h : (m.set flag false).enabled other) :
    m.enabled other := by
  obtain ⟨i, hon, hi⟩ := enabled_iff.mp h
  rw [isOn_set] at hon
  split at hon
  · cases hon
  · exact enabled_iff.mpr ⟨i, hon, hi⟩

/-- A flag is enabled in the mask of two lists of flags if one of the lists enables it. -/
theorem enabled_ofFlags_append {flags more : List (BitVec w)} :
    (ofFlags (flags ++ more)).enabled flag =
      ((ofFlags flags).enabled flag || (ofFlags more).enabled flag) := by
  rw [Bool.eq_iff_iff, Bool.or_eq_true]
  simp only [enabled_iff, isOn_ofFlags, List.any_append, Bool.or_eq_true, or_and_right, exists_or]

end Unclosed.Mask
