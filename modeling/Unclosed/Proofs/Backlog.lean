import Mathlib.Data.List.DropRight
import Unclosed.Proofs.Canonical

/-!
# Histories of a backlog

A backlog that starts empty is called again and again, to add findings, to be read, and to be
flushed.  What waits in it after any history of calls is what was added since it was last flushed,
and each call replies accordingly.
-/

namespace Unclosed

namespace Finding

/-- What the canonical form of findings is to be: strictly increasing in the keys, with just the keys
that occur, and for each key the finding that came first. -/
structure IsCanonicalFor (fs canon : List Finding) : Prop where
  increasing : canon.Pairwise fun a b => a.key < b.key
  keys : ∀ k, (∃ f ∈ canon, f.key = k) ↔ ∃ f ∈ fs, f.key = k
  first : ∀ f ∈ canon, fs.find? (·.key = f.key) = some f

/-- The finding of a key that is in the canonical form came first. -/
theorem find?_of_mem_canonical {f : Finding} {fs : List Finding} (h : f ∈ canonical fs) :
    fs.find? (·.key = f.key) = some f := by
  rw [← find?_canonical]
  obtain ⟨g, hg⟩ : ∃ g, (canonical fs).find? (·.key = f.key) = some g := by
    rw [← Option.isSome_iff_exists, List.find?_isSome]
    exact ⟨f, h, by simp⟩
  have hkey : g.key = f.key := by simpa using List.find?_some hg
  have hgf : g = f :=
    List.inj_on_of_nodup_map (nodup_map_key_canonical fs) (List.mem_of_find?_eq_some hg) h hkey
  rw [hg, hgf]

theorem isCanonicalFor_canonical (fs : List Finding) : IsCanonicalFor fs (canonical fs) where
  increasing := pairwise_canonical fs
  keys k := by
    constructor
    · rintro ⟨f, hf, rfl⟩
      exact ⟨f, mem_of_mem_canonical hf, rfl⟩
    · rintro ⟨f, hf, rfl⟩
      exact exists_mem_canonical hf
  first _ := find?_of_mem_canonical

/-- A finding is told by its key and its rule. -/
theorem eq_of_key_eq {f g : Finding} (hkey : f.key = g.key) (hrule : f.rule = g.rule) : f = g := by
  have hspan := span_eq_of_key_eq hkey
  cases f
  cases g
  simp_all

/-- If the rule is told by the key, the canonical form does not depend on the order of findings. -/
theorem canonical_eq_of_perm {fs gs : List Finding} (h : fs.Perm gs)
    (hrules : ∀ f ∈ fs, ∀ g ∈ fs, f.key = g.key → f.rule = g.rule) :
    canonical fs = canonical gs := by
  have hkeys : ∀ f ∈ fs, ∀ g ∈ fs, f.key = g.key → f = g := by
    intro f hf g hg hkey
    exact eq_of_key_eq hkey (hrules f hf g hg hkey)
  have hkeys' : ∀ f ∈ gs, ∀ g ∈ gs, f.key = g.key → f = g := by
    intro f hf g hg
    exact hkeys f (h.mem_iff.mpr hf) g (h.mem_iff.mpr hg)
  have hperm : (canonical fs).Perm (canonical gs) := by
    apply (List.perm_ext_iff_of_nodup (nodup_canonical fs) (nodup_canonical gs)).mpr
    intro f
    rw [mem_canonical_iff hkeys, mem_canonical_iff hkeys', h.mem_iff]
  -- Two lists that are strictly increasing and have the same elements are the same.
  refine List.Perm.eq_of_pairwise ?_ (pairwise_canonical fs) (pairwise_canonical gs) hperm
  intro f g _ _ hlt hgt
  exact absurd hlt (lt_asymm hgt)

end Finding

namespace Backlog

/-! ## Calls -/

inductive Call where
  | add (fs : List Finding)
  | size
  | findings
  | flush (suppressed : Pos → Bool)

inductive Reply where
  | done
  | size (count : Nat)
  | findings (list : List Finding)
  | report (diagnostics : List Diagnostic)

def call (b : Backlog) : Call → Reply × Backlog
  | .add fs => (.done, b.add fs)
  | .size => (.size b.size, b)
  | .findings => (.findings b.findings, b)
  | .flush suppressed =>
    let (diagnostics, rest) := b.flush suppressed
    (.report diagnostics, rest)

def after (b : Backlog) (calls : List Call) : Backlog :=
  calls.foldl (fun b c => (b.call c).2) b

def replies (b : Backlog) : List Call → List Reply
  | [] => []
  | c :: calls => (b.call c).1 :: (b.call c).2.replies calls

/-- The reply to each call is that of the backlog as the calls before it have left it. -/
theorem getElem?_replies (b : Backlog) (calls : List Call) (i : Nat) :
    (b.replies calls)[i]? = calls[i]?.map fun c => ((b.after (calls.take i)).call c).1 := by
  induction calls generalizing b i with
  | nil => rfl
  | cons c calls ih =>
      cases i with
      | zero => rfl
      | succ i => exact ih (b.call c).2 i

/-! ## What waits after a history -/

def Call.isFlush : Call → Bool
  | .flush _ => true
  | _ => false

def Call.added : Call → List Finding
  | .add fs => fs
  | _ => []

/-- The findings that a history of calls has added since its last flush. -/
def pending (calls : List Call) : List Finding :=
  (calls.rtakeWhile fun c => !c.isFlush).flatMap Call.added

theorem pending_concat (calls : List Call) (c : Call) :
    pending (calls ++ [c]) = if c.isFlush then [] else pending calls ++ c.added := by
  rw [pending, List.rtakeWhile_concat]
  cases c.isFlush with
  | true => rfl
  | false => simp [pending]

/-- One call adds findings to the backlog, or leaves nothing in it. -/
theorem call_snd (b : Backlog) (c : Call) :
    (b.call c).2 = if c.isFlush then empty else b.add c.added := by
  cases c with
  | add fs => rfl
  | size => exact congrArg Backlog.mk (List.append_nil b.waiting).symm
  | findings => exact congrArg Backlog.mk (List.append_nil b.waiting).symm
  | flush suppressed => rfl

theorem after_concat (b : Backlog) (calls : List Call) (c : Call) :
    b.after (calls ++ [c]) = ((b.after calls).call c).2 := by
  rw [after, List.foldl_append]
  rfl

/-- After any history, what waits is what was added since the last flush. -/
theorem waiting_after_empty (calls : List Call) : (empty.after calls).waiting = pending calls := by
  induction calls using List.reverseRecOn with
  | nil => rfl
  | append_singleton calls c ih =>
      rw [after_concat, call_snd, pending_concat, ← ih]
      cases c.isFlush with
      | true => rfl
      | false => rfl

/-- What a call is to reply after a history of calls. -/
def Call.replyAfter (before : List Call) : Call → Reply
  | .add _ => .done
  | .size => .size (pending before).length
  | .findings => .findings (Finding.canonical (pending before))
  | .flush suppressed =>
    .report (((Finding.canonical (pending before)).filter fun f => !suppressed f.span.start).map
      Finding.diagnostic)

theorem getElem?_replies_empty (calls : List Call) (i : Nat) :
    (empty.replies calls)[i]? = calls[i]?.map (Call.replyAfter (calls.take i)) := by
  rw [getElem?_replies]
  congr 1
  funext c
  have hwaiting := waiting_after_empty (calls.take i)
  cases c with
  | add fs => rfl
  | size => rw [Call.replyAfter, ← hwaiting]; rfl
  | findings => rw [Call.replyAfter, ← hwaiting]; rfl
  | flush suppressed => rw [Call.replyAfter, ← hwaiting]; rfl

/-- **A backlog reports what was added since it was last flushed.**  The reply to each call of a
history is given by the findings that were added before it and after the last flush: their number,
their canonical form, or the report of the canonical form without what is suppressed.  A flush leaves
nothing waiting, and reading changes nothing.  The canonical form is strictly increasing, holds just
the keys that occur, and for each key the finding that came first; so the order in which findings
were added does not matter if the rule is told by the key. -/
theorem replies_history (calls : List Call) :
    (∀ i, (empty.replies calls)[i]? = calls[i]?.map (Call.replyAfter (calls.take i))) ∧
      (∀ suppressed, (empty.after (calls ++ [.flush suppressed])).size = 0) ∧
      empty.after (calls ++ [.size]) = empty.after calls ∧
      empty.after (calls ++ [.findings]) = empty.after calls ∧
      ∀ fs, Finding.IsCanonicalFor fs (Finding.canonical fs) ∧
        ∀ gs, fs.Perm gs → (∀ f ∈ fs, ∀ g ∈ fs, f.key = g.key → f.rule = g.rule) →
          Finding.canonical fs = Finding.canonical gs := by
  refine ⟨getElem?_replies_empty calls, ?_, ?_, ?_, ?_⟩
  · intro suppressed
    rw [after_concat]
    rfl
  · rw [after_concat]
    rfl
  · rw [after_concat]
    rfl
  · intro fs
    refine ⟨Finding.isCanonicalFor_canonical fs, ?_⟩
    intro gs
    exact Finding.canonical_eq_of_perm

/-- A finding is added and suppressed, and then added again and reported. -/
def Sample.flushes : List Call :=
  [.add [.unclosed ⟨30, 35⟩], .flush fun pos => pos = 30, .size, .add [.unclosed ⟨30, 35⟩],
    .flush fun _ => false]

/-- The second flush reports the finding, and the order of two findings makes no difference. -/
theorem replies_history_flushes :
    (empty.replies Sample.flushes)[4]? = some (.report [(Finding.unclosed ⟨30, 35⟩).diagnostic]) ∧
      Finding.canonical [.unclosed ⟨30, 35⟩, .unclosed ⟨10, 20⟩] =
        Finding.canonical [.unclosed ⟨10, 20⟩, .unclosed ⟨30, 35⟩] := by
  obtain ⟨hreplies, -, -, -, hcanonical⟩ := replies_history Sample.flushes
  constructor
  · have hcall : Sample.flushes[4]? = some (.flush fun _ => false) := rfl
    have hpending : pending (Sample.flushes.take 4) = [.unclosed ⟨30, 35⟩] := rfl
    rw [hreplies, hcall, Option.map_some, Call.replyAfter, hpending]
    simp [Finding.canonical, Finding.distinct, Finding.distinctAfter]
  · exact (hcanonical _).2 _ (.swap _ _ _) (by simp [Finding.unclosed])

end Backlog

end Unclosed
