import LiqRanger.Scanner.Properties

/-!
# The overlap guard

The guard of the loop asks for an empty join set, and a scan stays in the join set from its end
until the loop joins it. A block that is due and comes with no scan executing is scanned exactly
when no ended scan waits to be joined (`block_scanned_iff`), and the order of the events may be
another (`block_skipped`).
-/

namespace LiqRanger

open Transition

variable {ρ : Type} {readers : List ρ} {s s' : Scanner ρ} {k : ℕ}

namespace Scanner

/-- The loop takes the number of a block, from the stream or from the client. -/
inductive Receives (readers : List ρ) (s : Scanner ρ) (b : U64) : Scanner ρ → Prop where
  | block (hphase : s.phase = .selecting) : Receives readers s b (s.processBlock readers b)
  | tip (hphase : s.phase = .queryingTip) : Receives readers s b (s.processTip readers (.ok b))

lemma Receives.step {b : U64} (h : Receives readers s b s') : Step readers s s' := by
  cases h with
  | block hphase => exact .block s b hphase
  | tip hphase => exact .tip s (.ok b) hphase

/-- The scan with number `k` has ended. -/
def Ended (s : Scanner ρ) (k : ℕ) : Prop :=
  ∃ scan, s.scans[k]? = some scan ∧ scan.ended ≠ none

/-- A block is far enough from the last one that was scanned. -/
def Due (s : Scanner ρ) (b : U64) : Prop :=
  s.lastProcessedBlock.toNat + blockInterval.toNat ≤ b.toNat

instance (s : Scanner ρ) (b : U64) : Decidable (s.Due b) := inferInstanceAs (Decidable (_ ≤ _))

/-- A scan for the block is started. -/
def Starts (readers : List ρ) (s : Scanner ρ) (b : U64) (s' : Scanner ρ) : Prop :=
  s'.scans = s.scans ++ [.spawn readers b]

lemma ScanStep.length_scans (h : ScanStep k s s') : s'.scans.length = s.scans.length := by
  obtain ⟨scan, scan', -, -, hscans, -, -⟩ := h.scan
  rw [hscans, List.length_set]

/-- The join set holds scans that were started. -/
lemma tracker_lt_step :
    Preserves (Step readers) fun s : Scanner ρ => ∀ k ∈ s.tracker, k < s.scans.length := by
  intro s s' hstep h k hk
  rcases hstep.cases with ⟨j, hscan⟩ | hkeeps | hspawns
  · rw [hscan.length_scans]
    rw [hscan.loop.2.2] at hk
    exact h k hk
  · rw [hkeeps.scans]
    exact h k (hkeeps.tracker.subset hk)
  · rw [hspawns.tracker, List.mem_singleton] at hk
    simp [hspawns.scans, hk]

lemma tracker_lt (hrun : Run (Step readers) initial s) : ∀ k ∈ s.tracker, k < s.scans.length :=
  tracker_lt_step.run hrun (by simp [initial])

/-- A scan that was started executes or has ended. -/
lemma running_or_ended (hk : k < s.scans.length) : s.Running k ∨ s.Ended k := by
  by_cases hnone : (s.scans[k]).ended = none
  · exact Or.inl ⟨s.scans[k], List.getElem?_eq_getElem hk, hnone⟩
  · exact Or.inr ⟨s.scans[k], List.getElem?_eq_getElem hk, hnone⟩

/-- With no scan executing the join set holds ended scans only. -/
lemma tracker_eq_nil_iff (hrun : Run (Step readers) initial s) (hidle : ∀ k, ¬ s.Running k) :
    s.tracker = [] ↔ ∀ k ∈ s.tracker, ¬ s.Ended k := by
  constructor
  · intro hempty
    simp [hempty]
  · intro hjoined
    apply List.eq_nil_iff_forall_not_mem.mpr
    intro k hk
    rcases running_or_ended (tracker_lt hrun k hk) with hrunning | hended
    · exact hidle k hrunning
    · exact hjoined k hk hended

/-- The guard itself: a block that is due is scanned if the join set is empty. -/
lemma starts_processBlock_iff (readers : List ρ) {b : U64} (hdue : s.Due b) :
    Starts readers s b (s.processBlock readers b) ↔ s.tracker = [] := by
  have hdue' : s.lastProcessedBlock.toNat + 3 ≤ b.toNat := hdue
  have hlt : s.lastProcessedBlock < b := BitVec.lt_def.mpr (by omega)
  have hfar : ¬ (b ≤ s.lastProcessedBlock ∨ b - s.lastProcessedBlock < blockInterval) := by
    rw [not_or, BitVec.not_le, BitVec.not_lt]
    refine ⟨hlt, BitVec.le_def.mpr ?_⟩
    rw [BitVec.toNat_sub_of_le (BitVec.le_of_lt hlt)]
    exact Nat.le_sub_of_add_le' hdue
  rw [processBlock, if_neg hfar]
  split
  · next hbusy =>
    simp [Starts, List.ne_nil_of_length_pos hbusy]
  · next hempty =>
    simpa [Starts] using hempty

lemma Receives.starts_iff {b : U64} (h : Receives readers s b s') (hdue : s.Due b) :
    Starts readers s b s' ↔ s.tracker = [] := by
  cases h with
  | block hphase => exact starts_processBlock_iff readers hdue
  | tip hphase => exact starts_processBlock_iff (s := { s with phase := .selecting }) readers hdue

/-- In every state that a run reaches, a block that is due and is received while no scan executes is
scanned exactly if the loop has joined all scans that have ended. -/
theorem block_scanned_iff (readers : List ρ) (s s' : Scanner ρ) (b : U64)
    (hrun : Run (Step readers) initial s) (hreceives : Receives readers s b s') (hdue : s.Due b)
    (hidle : ∀ k, ¬ s.Running k) :
    Starts readers s b s' ↔ ∀ k ∈ s.tracker, ¬ s.Ended k := by
  rw [hreceives.starts_iff hdue, tracker_eq_nil_iff hrun hidle]

/-! ### A scan that ends before the next block -/

/-- Both readers fail, and the scan finishes. -/
def sampleFailed : Scan Protocol :=
  sampleScanOf (.failed "timeout") (.failed "timeout") (some .finished)

lemma sampleFailed_run :
    Run (Step [Protocol.aave, .morpho]) initial (sampleScanner sampleFailed []) := by
  have hstart : Step [Protocol.aave, .morpho] initial
      (sampleScanner (sampleScanOf .fetching .fetching none) []) := .block initial 3 rfl
  refine .head hstart ?_
  refine .head (sampleScanner_aave [] (.fetch (.error "timeout"))) ?_
  refine .head (sampleScanner_morpho [] "timeout") ?_
  apply Relation.ReflTransGen.single
  apply sampleScanner_ended
  simp [Scan.MayEnd, sampleScanOf, ScanProgress.fetched, ScanProgress.isReturned]

lemma sampleFailed_idle (tracker : List ℕ) (k : ℕ) :
    ¬ { sampleScanner sampleFailed [] with tracker := tracker }.Running k := by
  rintro ⟨scan, hscan, hnone⟩
  cases k with
  | zero =>
    obtain rfl : sampleFailed = scan := by simpa [sampleScanner] using hscan
    cases hnone
  | succ k => simp [sampleScanner] at hscan

/-- The loop joins the scan of block 3 before it receives block 6. -/
theorem block_scanned_sample :
    let joined := { sampleScanner sampleFailed [] with tracker := [] }
    Starts [.aave, .morpho] joined 6 (joined.processBlock [.aave, .morpho] 6) := by
  intro joined
  have hjoin : Step [Protocol.aave, .morpho] (sampleScanner sampleFailed []) joined :=
    .joinNext _ [] [] 0 sampleFailed (Or.inl rfl) rfl rfl (by simp [sampleFailed, sampleScanOf])
  exact (block_scanned_iff _ joined _ 6 (sampleFailed_run.tail hjoin) (.block rfl) (by decide)
    (sampleFailed_idle [])).mpr (by simp [joined])

/-- It receives block 6 first: the scan of block 3 has finished, and block 6 is skipped. -/
theorem block_skipped : ¬ ∀ (readers : List Protocol) (s s' : Scanner Protocol) (b : U64),
    Run (Step readers) initial s → Receives readers s b s' → s.Due b → (∀ k, ¬ s.Running k) →
    Starts readers s b s' := by
  intro h
  have hstarts := h _ _ _ 6 sampleFailed_run (.block rfl) (by decide) (sampleFailed_idle [0])
  exact absurd (congrArg List.length hstarts) (by decide)

end Scanner

end LiqRanger
