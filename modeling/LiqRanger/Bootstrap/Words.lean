import LiqRanger.Bootstrap.Ranges
import LiqRanger.Effect.Residual

/-!
# Bootstraps on machine words

The loop of a bootstrap as a release build compiles it: the heights have 64 bits, and their sums
wrap around. As long as the tip is a batch away from the last height, it makes the calls of the loop
over the natural numbers (`runWords_trace_iff`). Over a chain that has come to the last height it
ends only with an error (`scanWords_not_returned`).
-/

namespace LiqRanger

open Effect

variable {κ : Type} [DecidableEq κ] {config : BootstrapConfig κ}

namespace Bootstrap

/-- The last block of the batch from `startBlock` on. -/
def batchEnd (config : BootstrapConfig κ) (latestBlock startBlock : U64) : U64 :=
  let reached := startBlock + .ofNat 64 config.batchSize
  if reached ≤ latestBlock then reached else latestBlock

/-- The batches from `startBlock` up to `latestBlock`, at most `fuel` of them. -/
def scanWords (config : BootstrapConfig κ) (latestBlock : U64) :
    ℕ → U64 → BootstrapProgram κ Unit
  | 0, _ => Program.fail "out of fuel"
  | fuel + 1, startBlock =>
    if startBlock ≤ latestBlock then do
      let currentEnd := batchEnd config latestBlock startBlock
      let (borrows, repays, liqs) ← fetchBatch config startBlock.toNat currentEnd.toNat
      let entries := collect config liqs (collect config repays (collect config borrows ∅))
      let order ← drain entries
      order.forM trackEntry
      let saved ← BootstrapState.saveLastBlock currentEnd.toNat
      Program.ofExcept saved
      scanWords config latestBlock fuel (currentEnd + 1)
    else return ()

/-- Twenty blocks back, or the first block. -/
def rewind (block : U64) : U64 := if block < 20 then 0 else block - 20

def runWords (config : BootstrapConfig κ) (fuel : ℕ) : BootstrapProgram κ Unit := do
  let lastBlock ← Program.ofExcept (← BootstrapState.loadLastBlock)
  let latestBlock ← Program.ofExcept (← Provider.getBlockNumber)
  scanWords config (.ofNat 64 latestBlock) fuel
    (rewind (.ofNat 64 (lastBlock.getD config.deployBlock)))

/-! ### Far from the last height -/

omit [DecidableEq κ] in
lemma toNat_rewind {block : ℕ} (h : block < 2 ^ 64) :
    (rewind (.ofNat 64 block)).toNat = block - 20 := by
  have hblock : (BitVec.ofNat 64 block).toNat = block := by
    rw [BitVec.toNat_ofNat, Nat.mod_eq_of_lt h]
  rw [rewind]
  split
  · next hlt =>
    have hlt : block < 20 := by simpa [BitVec.lt_def, hblock] using hlt
    rw [Nat.sub_eq_zero_of_le hlt.le]
    rfl
  · next hge =>
    have hge : 20 ≤ block := by simpa [BitVec.lt_def, hblock] using hge
    rw [BitVec.toNat_sub_of_le (by simpa [BitVec.le_def, hblock] using hge), hblock]
    rfl

omit [DecidableEq κ] in
/-- The end of a batch that does not wrap around. -/
lemma toNat_batchEnd {latest start : U64} (hle : start.toNat ≤ latest.toNat)
    (hlatest : latest.toNat + config.batchSize + 1 < 2 ^ 64) :
    (batchEnd config latest start).toNat =
      min (start.toNat + config.batchSize) latest.toNat := by
  have hbatch : config.batchSize < 2 ^ 64 := by omega
  have hsum : (start + .ofNat 64 config.batchSize).toNat = start.toNat + config.batchSize := by
    rw [BitVec.toNat_add, BitVec.toNat_ofNat, Nat.mod_eq_of_lt hbatch, Nat.mod_eq_of_lt (by omega)]
  rw [batchEnd]
  split
  · next hreached =>
    rw [BitVec.le_def, hsum] at hreached
    rw [hsum, min_eq_left hreached]
  · next hreached =>
    rw [BitVec.le_def, hsum] at hreached
    exact (min_eq_right (Nat.le_of_not_le hreached)).symm

/-- Where no sum wraps around, the words are the natural numbers. -/
lemma scanWords_eq {latest start : U64} {fuel : ℕ}
    (hlatest : latest.toNat + config.batchSize + 1 < 2 ^ 64)
    (hfuel : latest.toNat + 1 - start.toNat < fuel) :
    scanWords config latest fuel start = scan config latest.toNat start.toNat := by
  induction fuel generalizing start with
  | zero => exact absurd hfuel (Nat.not_lt_zero _)
  | succ fuel ih =>
    rw [scanWords, scan]
    by_cases hle : start.toNat ≤ latest.toNat
    · have hend := toNat_batchEnd hle hlatest
      have hnext : (batchEnd config latest start + 1).toNat =
          (batchEnd config latest start).toNat + 1 := by
        have hone : (1 : U64).toNat = 1 := rfl
        rw [BitVec.toNat_add, hone, Nat.mod_eq_of_lt (by omega)]
      have hrest : scanWords config latest fuel (batchEnd config latest start + 1) =
          scan config latest.toNat (batchEnd config latest start + 1).toNat := ih (by omega)
      rw [hnext] at hrest
      rw [if_pos (show start ≤ latest from hle), dif_pos hle]
      simp only [hrest, hend]
    · rw [if_neg (show ¬ start ≤ latest from hle), dif_neg hle]

/-- The replies are heights of 64 bits; the tip is a batch away from the last of them, and no more
batches are needed than there is fuel. -/
def InWords (config : BootstrapConfig κ) (fuel : ℕ) (e : Event (bootstrapPorts κ)) : Prop :=
  match e with
  | ⟨.loadLastBlock, .ok (some last)⟩ => last < 2 ^ 64
  | ⟨.getBlockNumber, .ok tip⟩ => tip + config.batchSize + 1 < 2 ^ 64 ∧ tip + 1 < fuel
  | _ => True

lemma runWords_trace_iff (hdeploy : config.deployBlock < 2 ^ 64) {fuel : ℕ}
    {t : List (Event (bootstrapPorts κ))} {o : Except String Unit}
    (hwords : ∀ e ∈ t, InWords config fuel e) :
    (runWords config fuel).Trace t o ↔ (run config).Trace t o := by
  refine exists_congr fun last => exists_congr fun t₁ => and_congr_right fun ht => ?_
  obtain rfl := ht
  cases last with
  | error e => exact Iff.rfl
  | ok last =>
    refine exists_congr fun tip => exists_congr fun t₂ => and_congr_right fun ht => ?_
    obtain rfl := ht
    cases tip with
    | error e => exact Iff.rfl
    | ok tip =>
      have hlast : last.getD config.deployBlock < 2 ^ 64 := by
        cases last with
        | none => exact hdeploy
        | some last => exact hwords _ List.mem_cons_self
      have htip : tip + config.batchSize + 1 < 2 ^ 64 ∧ tip + 1 < fuel :=
        hwords _ (List.mem_cons_of_mem _ List.mem_cons_self)
      have htoNat : (BitVec.ofNat 64 tip).toNat = tip := by
        rw [BitVec.toNat_ofNat, Nat.mod_eq_of_lt (by omega)]
      have hscan : scanWords config (.ofNat 64 tip) fuel
          (rewind (.ofNat 64 (last.getD config.deployBlock))) =
            scan config (BitVec.ofNat 64 tip).toNat
              (rewind (.ofNat 64 (last.getD config.deployBlock))).toNat :=
        scanWords_eq (by omega) (by omega)
      rw [htoNat, toNat_rewind hlast] at hscan
      change (scanWords _ _ _ _).Trace t₂ o ↔ (scan _ _ _).Trace t₂ o
      rw [hscan]

/-! ### At the last height -/

/-- Over a chain that has come to the last height of 64 bits, no number of batches suffices: after
the last block comes the first one. -/
lemma scanWords_not_returned {fuel : ℕ} {start : U64} {t : List (Event (bootstrapPorts κ))} :
    ¬ (scanWords config (BitVec.allOnes 64) fuel start).Trace t (.ok ()) := by
  induction fuel generalizing start t with
  | zero =>
    rintro ⟨-, h⟩
    cases h
  | succ fuel ih =>
    intro h
    have hle : start ≤ BitVec.allOnes 64 := by
      rw [BitVec.le_def, BitVec.toNat_allOnes]
      exact Nat.le_sub_one_of_lt start.isLt
    rw [scanWords, if_pos hle] at h
    rcases (Program.trace_bind _ _ _ _).mp h with ⟨e, -, h⟩ | ⟨t₁, t₂, logs, -, -, h⟩
    · cases h
    · obtain ⟨order, t₃, -, h⟩ := h
      change (List.forM order trackEntry >>= _).Trace _ _ at h
      rcases (Program.trace_bind _ _ _ _).mp h with ⟨e, -, h⟩ | ⟨t₄, t₅, _, -, -, h⟩
      · cases h
      · obtain ⟨reply, t₆, -, h⟩ := h
        match reply with
        | .error e => cases h.2
        | .ok _ => exact ih h

/-- As long as the tip is more than a batch away from the last height, a bootstrap goes through the
same calls with words as with natural numbers, and to the same end. When the tip is the last height,
it does not end without an error. -/
theorem runWords_agrees (config : BootstrapConfig κ) (hdeploy : config.deployBlock < 2 ^ 64)
    (fuel : ℕ) (t : List (Event (bootstrapPorts κ))) (o : Except String Unit) :
    ((∀ e ∈ t, InWords config fuel e) →
      ((runWords config fuel).Trace t o ↔ (run config).Trace t o)) ∧
    ∀ last rest, t = loadEvent (.ok last) :: tipEvent (.ok (2 ^ 64 - 1)) :: rest →
      (runWords config fuel).Trace t o → o ≠ .ok () := by
  refine ⟨runWords_trace_iff hdeploy, ?_⟩
  rintro last rest rfl htrace rfl
  obtain ⟨reply, t₁, heq, htrace⟩ := htrace
  cases heq
  obtain ⟨reply, t₂, heq, htrace⟩ := htrace
  cases heq
  exact scanWords_not_returned htrace

/-- A first bootstrap of one batch, and one that finds the last height. -/
theorem runWords_agrees_sample : ∃ t, (runWords (aaveBootstrap .reference) 75000002).Trace
      (loadEvent (.ok none) :: tipEvent (.ok 75000000) :: t) (.ok ()) ∧
    ¬ (runWords (aaveBootstrap .reference) 75000002).Trace
      (loadEvent (.ok none) :: tipEvent (.ok (2 ^ 64 - 1)) :: t) (.ok ()) := by
  have hentries : (([] : List Text).forM trackEntry : BootstrapProgram Address PUnit).Trace []
      (.ok ⟨⟩) := ⟨rfl, rfl⟩
  have htrace : (run (aaveBootstrap .reference)).Trace
      (loadEvent (.ok none) :: tipEvent (.ok 75000000) :: _) (.ok ()) :=
    run_trace_single none ([], [], []) rfl (by decide) (by decide) hentries
  have hagrees t := runWords_agrees (aaveBootstrap .reference) (by decide) 75000002 t (.ok ())
  refine ⟨_, ((hagrees _).1 ?_).mpr htrace, fun h => (hagrees _).2 none _ rfl h rfl⟩
  rintro e (_ | ⟨_, _ | ⟨_, _ | ⟨_, _ | ⟨_, _ | ⟨_, ⟨⟩⟩⟩⟩⟩⟩)
  · trivial
  · exact ⟨by decide, by decide⟩
  · trivial
  · trivial
  · trivial

end Bootstrap

end LiqRanger
