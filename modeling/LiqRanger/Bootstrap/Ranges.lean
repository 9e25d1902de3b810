import LiqRanger.Bootstrap.Adapter

/-!
# Ranges of a bootstrap

Whatever the node and the disk answer, a bootstrap that returns without an error has scanned the
blocks from its start to the tip, range after range without a gap or an overlap (`run_tiles`).
-/

namespace LiqRanger

open Effect

variable {κ : Type} [DecidableEq κ] {config : BootstrapConfig κ}

/-! ### Events -/

def loadEvent (reply : Except String (Option ℕ)) : Event (bootstrapPorts κ) :=
  ⟨BootstrapOp.loadLastBlock, reply⟩

def tipEvent (reply : Except String ℕ) : Event (bootstrapPorts κ) :=
  ⟨BootstrapOp.getBlockNumber, reply⟩

/-- The range of a query that was answered. -/
def scannedRange? (e : Event (bootstrapPorts κ)) : Option (ℕ × ℕ) :=
  match e with
  | ⟨.query fromBlock toBlock, .ok _⟩ => some (fromBlock, toBlock)
  | _ => none

def scannedRanges (t : List (Event (bootstrapPorts κ))) : List (ℕ × ℕ) :=
  t.filterMap scannedRange?

/-- The ranges cover the blocks from `start` to `tip`, each beginning right after the one before
it ends. -/
def Tiles : ℕ → ℕ → List (ℕ × ℕ) → Prop
  | start, tip, [] => start = tip + 1
  | start, tip, (fromBlock, toBlock) :: rest =>
    fromBlock = start ∧ fromBlock ≤ toBlock ∧ toBlock ≤ tip ∧ Tiles (toBlock + 1) tip rest

omit [DecidableEq κ] in
lemma scannedRanges_append (t₁ t₂ : List (Event (bootstrapPorts κ))) :
    scannedRanges (t₁ ++ t₂) = scannedRanges t₁ ++ scannedRanges t₂ :=
  List.filterMap_append

omit [DecidableEq κ] in
/-- However many attempts a batch takes, its range is scanned once. -/
lemma fetchAttempt_scanned {startBlock endBlock retries : ℕ}
    {logs : List (PositionLog κ) × List (PositionLog κ) × List (PositionLog κ)}
    {t : List (Event (bootstrapPorts κ))}
    (h : (Bootstrap.fetchAttempt config startBlock endBlock retries).Trace t (.ok logs)) :
    scannedRanges t = [(startBlock, endBlock)] := by
  induction retries generalizing t with
  | zero =>
    obtain ⟨reply, t', rfl, h⟩ := h
    match reply with
    | .ok logs =>
      obtain ⟨rfl, -⟩ := h
      rfl
    | .error e => exact nomatch h.2
  | succ retries ih =>
    obtain ⟨reply, t', rfl, h⟩ := h
    match reply with
    | .ok logs =>
      obtain ⟨rfl, -⟩ := h
      rfl
    | .error e =>
      change scannedRanges t' = _
      exact ih h

omit [DecidableEq κ] in
lemma trackEntry_scanned {entry : Text} {t : List (Event (bootstrapPorts κ))}
    {o : Except String PUnit} (h : (Bootstrap.trackEntry entry).Trace t o) :
    scannedRanges t = [] := by
  obtain ⟨tracked, t', rfl, h⟩ := h
  match tracked with
  | true =>
    obtain ⟨rfl, -⟩ := h
    rfl
  | false =>
    obtain ⟨reply, t'', rfl, h⟩ := h
    match reply with
    | .ok _ =>
      obtain ⟨rfl, -⟩ := h
      rfl
    | .error e =>
      obtain ⟨rfl, -⟩ := h
      rfl

omit [DecidableEq κ] in
lemma trackEntries_scanned {order : List Text} {t : List (Event (bootstrapPorts κ))}
    {o : Except String PUnit} (h : (order.forM Bootstrap.trackEntry).Trace t o) :
    scannedRanges t = [] := by
  induction order generalizing t with
  | nil =>
    obtain ⟨rfl, -⟩ := h
    rfl
  | cons entry order ih =>
    change (Bootstrap.trackEntry entry >>= fun _ => order.forM Bootstrap.trackEntry).Trace t o at h
    rw [Program.trace_bind] at h
    rcases h with ⟨e, h, -⟩ | ⟨t₁, t₂, _, rfl, h₁, h₂⟩
    · exact trackEntry_scanned h
    · rw [scannedRanges_append, trackEntry_scanned h₁, ih h₂, List.append_nil]

/-- The batches from `start` on tile the blocks up to `latest`. -/
lemma scan_tiles {latest start : ℕ} {t : List (Event (bootstrapPorts κ))}
    (h : (Bootstrap.scan config latest start).Trace t (.ok ())) (hstart : start ≤ latest + 1) :
    Tiles start latest (scannedRanges t) := by
  induction hn : latest + 1 - start using Nat.strong_induction_on generalizing start t with
  | _ n ih =>
    rw [Bootstrap.scan] at h
    by_cases hle : start ≤ latest
    · rw [dif_pos hle] at h
      rcases (Program.trace_bind _ _ _ _).mp h with ⟨e, -, h⟩ | ⟨t₁, t₂, logs, rfl, h₁, h₂⟩
      · cases h
      · obtain ⟨order, t₃, rfl, h₃⟩ := h₂
        change (List.forM order Bootstrap.trackEntry >>= _).Trace _ _ at h₃
        rcases (Program.trace_bind _ _ _ _).mp h₃ with ⟨e, -, h⟩ | ⟨t₄, t₅, _, rfl, h₄, h₅⟩
        · cases h
        · obtain ⟨reply, t₆, rfl, h₆⟩ := h₅
          match reply with
          | .error e => exact nomatch h₆.2
          | .ok _ =>
            have hrest := ih _ (by omega) h₆ (by omega) rfl
            have hranges : scannedRanges (t₁ ++
                ⟨BootstrapOp.drain _, order⟩ :: (t₄ ++
                  ⟨BootstrapOp.saveLastBlock (min (start + config.batchSize) latest), .ok ()⟩
                    :: t₆)) =
                (start, min (start + config.batchSize) latest) :: scannedRanges t₆ := by
              rw [scannedRanges_append, fetchAttempt_scanned h₁]
              change [_] ++ scannedRanges (t₄ ++ _) = _
              rw [scannedRanges_append, trackEntries_scanned h₄]
              rfl
            refine hranges ▸ ⟨rfl, by omega, by omega, hrest⟩
    · rw [dif_neg hle] at h
      obtain ⟨rfl, -⟩ := h
      exact le_antisymm hstart (Nat.lt_of_not_le hle)

/-- Past the tip nothing is scanned. -/
lemma scan_scanned_of_lt {latest start : ℕ} {t : List (Event (bootstrapPorts κ))}
    {o : Except String Unit} (h : (Bootstrap.scan config latest start).Trace t o)
    (hlt : latest < start) : t = [] := by
  rw [Bootstrap.scan, dif_neg (Nat.not_le_of_lt hlt)] at h
  exact h.1

/-- A successful run reads the saved block, then the tip, and scans what lies between. -/
lemma run_scan {t : List (Event (bootstrapPorts κ))}
    (h : (Bootstrap.run config).Trace t (.ok ())) :
    ∃ last tip rest, t = loadEvent (.ok last) :: tipEvent (.ok tip) :: rest ∧
      (Bootstrap.scan config tip (last.getD config.deployBlock - 20)).Trace rest (.ok ()) := by
  obtain ⟨reply, t₁, rfl, h₁⟩ := h
  match reply with
  | .error e => exact nomatch h₁.2
  | .ok last =>
    obtain ⟨reply, t₂, rfl, h₂⟩ := h₁
    match reply with
    | .error e => exact nomatch h₂.2
    | .ok tip => exact ⟨last, tip, t₂, rfl, h₂⟩

/-- A successful run that starts at most one past the tip has scanned every block from its start
to the tip, in contiguous ranges that do not overlap. -/
theorem run_tiles {t : List (Event (bootstrapPorts κ))}
    (h : (Bootstrap.run config).Trace t (.ok ())) :
    ∃ last tip rest, t = loadEvent (.ok last) :: tipEvent (.ok tip) :: rest ∧
      (last.getD config.deployBlock - 20 ≤ tip + 1 →
        Tiles (last.getD config.deployBlock - 20) tip (scannedRanges t)) := by
  obtain ⟨last, tip, rest, rfl, hscan⟩ := run_scan h
  refine ⟨last, tip, rest, rfl, fun hstart => ?_⟩
  have htiles := scan_tiles hscan hstart
  exact htiles

/-- A trace of a run whose blocks fit into one batch. -/
lemma run_trace_single (last : Option ℕ) {start tip : ℕ}
    (logs : List (PositionLog κ) × List (PositionLog κ) × List (PositionLog κ))
    {order : List Text} {t : List (Event (bootstrapPorts κ))}
    (hstart : start = last.getD config.deployBlock - 20) (hle : start ≤ tip)
    (hbatch : tip ≤ start + config.batchSize)
    (ht : (order.forM Bootstrap.trackEntry).Trace t (.ok ⟨⟩)) :
    (Bootstrap.run config).Trace (loadEvent (.ok last) :: tipEvent (.ok tip) ::
      ⟨BootstrapOp.query start tip, .ok logs⟩ ::
      ⟨BootstrapOp.drain (Bootstrap.collect config logs.2.2 (Bootstrap.collect config logs.2.1
        (Bootstrap.collect config logs.1 ∅))), order⟩ ::
      (t ++ [⟨BootstrapOp.saveLastBlock tip, .ok ()⟩])) (.ok ()) := by
  have hend : min (start + config.batchSize) tip = tip := min_eq_right hbatch
  refine ⟨.ok last, _, rfl, .ok tip, _, rfl, ?_⟩
  change (Bootstrap.scan config tip (last.getD config.deployBlock - 20)).Trace _ _
  rw [← hstart, Bootstrap.scan, dif_pos hle, hend]
  refine ⟨.ok logs, _, rfl, order, _, rfl, ?_⟩
  change (List.forM order Bootstrap.trackEntry >>= _).Trace _ _
  refine (Program.trace_bind _ _ _ _).mpr (Or.inr ⟨t, _, ⟨⟩, rfl, ht, .ok (), [], rfl, ?_⟩)
  change (Bootstrap.scan config tip (tip + 1)).Trace _ _
  rw [Bootstrap.scan, dif_neg (Nat.not_succ_le_self tip)]
  exact ⟨rfl, rfl⟩

/-! ### Blocks of a tiling -/

/-- The blocks of a tiling are those from its start to its tip. -/
lemma Tiles.mem_iff {start tip block : ℕ} {ranges : List (ℕ × ℕ)} (h : Tiles start tip ranges) :
    (∃ range ∈ ranges, range.1 ≤ block ∧ block ≤ range.2) ↔ start ≤ block ∧ block ≤ tip := by
  induction ranges generalizing start with
  | nil =>
    have hstart : start = tip + 1 := h
    simp only [List.not_mem_nil, false_and, exists_false, false_iff]
    omega
  | cons range ranges ih =>
    obtain ⟨fromBlock, toBlock⟩ := range
    obtain ⟨rfl, hle, htip, hrest⟩ := h
    rw [List.exists_mem_cons_iff, ih hrest]
    dsimp only
    omega

/-- The blocks that a successful run scanned are those from its start to the tip. -/
theorem run_scanned_iff {t : List (Event (bootstrapPorts κ))}
    (h : (Bootstrap.run config).Trace t (.ok ())) :
    ∃ last tip rest, t = loadEvent (.ok last) :: tipEvent (.ok tip) :: rest ∧ ∀ block,
      (∃ range ∈ scannedRanges t, range.1 ≤ block ∧ block ≤ range.2) ↔
        last.getD config.deployBlock - 20 ≤ block ∧ block ≤ tip := by
  obtain ⟨last, tip, rest, rfl, hscan⟩ := run_scan h
  refine ⟨last, tip, rest, rfl, fun block => ?_⟩
  by_cases hstart : last.getD config.deployBlock - 20 ≤ tip + 1
  · have htiles := scan_tiles hscan hstart
    exact htiles.mem_iff
  · rw [scan_scanned_of_lt hscan (by omega)]
    constructor
    · rintro ⟨range, hrange, -⟩
      exact nomatch hrange
    · omega

end LiqRanger
