import Mathlib.Data.List.Induction
import Unclosed.Proofs.Mask

/-!
# Histories

Where each step of a history gives something a new value or keeps the one it has, the value after the
history is the one that was given last.

The bits of a mask are such things, and flags are not: the flags that are set in a mask may have no bit
or several, and may have bits in common, so a flag does not stay as it was last set.
-/

namespace Unclosed

/-- What each step gives a value or keeps has, after a list of steps, the value that was given last. -/
theorem reading_foldl {σ ε α : Type} (reading : σ → α) {step : σ → ε → σ} {given? : ε → Option α}
    (h : ∀ s e, reading (step s e) = (given? e).getD (reading s)) (s : σ) (es : List ε) :
    reading (es.foldl step s) = (es.filterMap given?).getLast?.getD (reading s) := by
  induction es using List.reverseRecOn with
  | nil => rfl
  | append_singleton es e ih =>
      rw [List.foldl_append, List.foldl_cons, List.foldl_nil, h, ih, List.filterMap_append]
      cases hgiven : given? e with
      | none => simp [hgiven]
      | some a => simp [hgiven]

namespace Mask

variable {w : Nat}

/-- A flag, and whether its bits are turned on or off. -/
structure Step (w : Nat) where
  flag : BitVec w
  on : Bool
  deriving DecidableEq, Repr

/-- What the step says of the bit, if its flag has the bit. -/
def Step.given? (step : Step w) (i : Nat) : Option Bool :=
  if step.flag.getLsbD i then some step.on else none

def after (m : Mask w) (steps : List (Step w)) : Mask w :=
  steps.foldl (fun m step => m.set step.flag step.on) m

/-- Whether the bit is to be on in a mask that is made from the flags and then goes through the steps:
as the last step says whose flag has the bit, or if there is none, if one of the first flags has it. -/
def leftOn (flags : List (BitVec w)) (steps : List (Step w)) (i : Nat) : Bool :=
  (steps.filterMap (·.given? i)).getLast?.getD (flags.any (·.getLsbD i))

/-- After a list of steps each bit is as the last step says whose flag has it. -/
theorem isOn_after (m : Mask w) (steps : List (Step w)) (i : Nat) :
    (m.after steps).isOn i = (steps.filterMap (·.given? i)).getLast?.getD (m.isOn i) := by
  apply reading_foldl (fun m : Mask w => m.isOn i)
  intro m step
  rw [isOn_set, Step.given?]
  split
  · rfl
  · rfl

/-- Flags make the same mask in any order and with any repetitions. -/
theorem ofFlags_congr {flags flags' : List (BitVec w)} (h : ∀ flag, flag ∈ flags' ↔ flag ∈ flags) :
    ofFlags flags' = ofFlags flags := by
  refine eq_of_isOn_eq fun i => ?_
  rw [isOn_ofFlags, isOn_ofFlags, Bool.eq_iff_iff]
  simp only [List.any_eq_true, h]

/-- **Each bit is as it was last set.**  However a mask of any width was made and set since then, a
flag is enabled if some bit of it was left on, and the mask is empty if no bit was.  A bit was left on
if the last step whose flag has the bit turned it on, or if there is no such step and one of the first
flags has it.  The order and the repetitions of the first flags make no difference. -/
theorem enabled_after_iff_leftOn (flags : List (BitVec w)) (steps : List (Step w)) :
    (∀ i, ((ofFlags flags).after steps).isOn i = leftOn flags steps i) ∧
      (∀ flag, ((ofFlags flags).after steps).enabled flag ↔
        ∃ i, flag.getLsbD i ∧ leftOn flags steps i) ∧
      (((ofFlags flags).after steps).isEmpty ↔ ∀ i, ¬leftOn flags steps i) ∧
      ∀ flags', (∀ flag, flag ∈ flags' ↔ flag ∈ flags) →
        (ofFlags flags').after steps = (ofFlags flags).after steps := by
  have hbits : ∀ i, ((ofFlags flags).after steps).isOn i = leftOn flags steps i := by
    intro i
    rw [isOn_after, isOn_ofFlags, leftOn]
  refine ⟨hbits, ?_, ?_, ?_⟩
  · intro flag
    simp only [enabled_iff, hbits, and_comm]
  · simp only [isEmpty_iff, hbits]
  · intro flags' h
    rw [ofFlags_congr h]

namespace Sample

/-- Flags with a bit in common. -/
def flags : List (BitVec 8) := [0b0100, 0b1100]

/-- Steps with flags of several bits that overlap, and one without a bit. -/
def steps : List (Step 8) := [⟨0b0110, false⟩, ⟨0b0011, true⟩, ⟨0, true⟩, ⟨0b1001, false⟩]

/-- Of the flag that was turned on, one bit has been turned off again, and the other keeps it enabled.
All other bits are off, by different steps. -/
theorem enabled_after_iff_leftOn_steps :
    ((ofFlags flags).after steps).enabled 0b0011 ∧ ¬((ofFlags flags).after steps).enabled 0b1101 ∧
      ¬((ofFlags flags).after steps).isEmpty ∧
      (∀ flag, flag ∈ flags ++ flags.reverse ↔ flag ∈ flags) ∧
      (ofFlags (flags ++ flags.reverse)).after steps = (ofFlags flags).after steps := by
  obtain ⟨-, henabled, hempty, hsame⟩ := enabled_after_iff_leftOn flags steps
  have hon : leftOn flags steps 1 := by decide
  have hoff : ∀ i < 8, (0b1101 : BitVec 8).getLsbD i → ¬leftOn flags steps i := by decide
  have hflags : ∀ flag, flag ∈ flags ++ flags.reverse ↔ flag ∈ flags := by simp
  refine ⟨(henabled _).mpr ⟨1, by decide, hon⟩, ?_, fun h => hempty.mp h 1 hon, hflags,
    hsame _ hflags⟩
  rw [henabled]
  rintro ⟨i, hflag, hi⟩
  exact hoff i (BitVec.lt_of_getLsbD hflag) hflag hi

end Sample

end Mask

end Unclosed
