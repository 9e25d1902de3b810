import LiqRanger.Bootstrap.Adapter
import LiqRanger.Effect.Invariant

/-!
# Bootstrap in its world

The world of a bootstrap is its watchlist and its saved block, over a history of logs that does
not change. Any call may fail; a failed write leaves the disk as it was. A run is then a path
through such worlds, and a lifetime is a sequence of runs with a restart after each failed one.
-/

namespace LiqRanger

open Effect

variable {κ : Type} [DecidableEq κ]

structure BootstrapWorld (κ : Type) where
  list : WatchList κ
  saved : Option ℕ

/-- How the world answers the calls of a bootstrap, with the logs of `chain`. -/
def bootstrapWorld (K : ListKind κ) (T : EthersText) (chain : Chain κ) :
    Handler (bootstrapPorts κ) (BootstrapWorld κ)
  | w, .loadLastBlock, reply, w' => w' = w ∧ ∀ last, reply = .ok last → last = w.saved
  | w, .getBlockNumber, _, w' => w' = w
  | w, .query fromBlock toBlock, reply, w' => w' = w ∧ ∀ logs, reply = .ok logs →
      logs = (chain.logs .borrow fromBlock toBlock, chain.logs .repay fromBlock toBlock,
        chain.logs .liquidation fromBlock toBlock)
  | w, .drain entries, order, w' => w' = w ∧ order.Nodup ∧ order.toFinset = entries
  | w, .containsIdentity identity, tracked, w' =>
      w' = w ∧ tracked = w.list.containsIdentity K T identity
  | w, .add identity, reply, w' => ∃ sled,
      (reply, w') = ((w.list.add K T sled identity).1, { w with list :=
        (w.list.add K T sled identity).2 })
  | w, .saveLastBlock block, reply, w' =>
      (reply = .ok () ∧ w' = { w with saved := some block }) ∨ ((∃ e, reply = .error e) ∧ w' = w)

/-- The worlds between runs: a first start with nothing saved, the world that a successful run
left, and the restart after a run, failed or not, which loads the cache from the rows. -/
inductive Lifetimes (K : ListKind κ) (T : EthersText) (chain : Chain κ)
    (config : BootstrapConfig κ) : BootstrapWorld κ → Prop where
  | start (rows : MultiMap Address κ) : Lifetimes K T chain config ⟨.new rows, none⟩
  | ok {w w' : BootstrapWorld κ} {t : List (Event (bootstrapPorts κ))}
      (hw : Lifetimes K T chain config w) (ht : (Bootstrap.run config).Trace t (.ok ()))
      (hp : (bootstrapWorld K T chain).Path w t w') : Lifetimes K T chain config w'
  | restart {w w' : BootstrapWorld κ} {t : List (Event (bootstrapPorts κ))}
      {o : Except String Unit} (hw : Lifetimes K T chain config w)
      (ht : (Bootstrap.run config).Trace t o)
      (hp : (bootstrapWorld K T chain).Path w t w') :
      Lifetimes K T chain config ⟨.new w'.list.rows, w'.saved⟩

/-! ### Entries -/

section
variable {config : BootstrapConfig κ}

lemma mem_collect {logs : List (PositionLog κ)} {entries : Finset Text} {entry : Text} :
    entry ∈ Bootstrap.collect config logs entries ↔ entry ∈ entries ∨ ∃ log ∈ logs,
      log.market ∈ config.whitelist ∧ entry = config.identityText log.borrower log.market := by
  induction logs generalizing entries with
  | nil => simp [Bootstrap.collect]
  | cons log logs ih =>
    have hstep : Bootstrap.collect config (log :: logs) entries = Bootstrap.collect config logs
        (if log.market ∈ config.whitelist then
          insert (config.identityText log.borrower log.market) entries else entries) := rfl
    rw [hstep, ih, List.exists_mem_cons_iff, ← or_assoc]
    refine or_congr_left ?_
    by_cases hlist : log.market ∈ config.whitelist
    · simp [hlist, or_comm]
    · simp [hlist]

/-- The entries of a batch are the texts of its whitelisted logs, whatever their kind. -/
lemma mem_entries {chain : Chain κ} {fromBlock toBlock : ℕ} {entry : Text} :
    entry ∈ Bootstrap.collect config (chain.logs .liquidation fromBlock toBlock)
        (Bootstrap.collect config (chain.logs .repay fromBlock toBlock)
          (Bootstrap.collect config (chain.logs .borrow fromBlock toBlock) ∅)) ↔
      ∃ block, fromBlock ≤ block ∧ block ≤ toBlock ∧ ∃ log ∈ chain block,
        log.market ∈ config.whitelist ∧ entry = config.identityText log.borrower log.market := by
  simp only [mem_collect, Finset.notMem_empty, false_or, Chain.mem_logs]
  constructor
  · rintro ((⟨log, ⟨-, block, hfrom, hto, hlog⟩, hlist, htext⟩ |
      ⟨log, ⟨-, block, hfrom, hto, hlog⟩, hlist, htext⟩) |
      ⟨log, ⟨-, block, hfrom, hto, hlog⟩, hlist, htext⟩) <;>
    exact ⟨block, hfrom, hto, log, hlog, hlist, htext⟩
  · rintro ⟨block, hfrom, hto, log, hlog, hlist, htext⟩
    cases hkind : log.kind with
    | borrow => exact Or.inl (Or.inl ⟨log, ⟨hkind, block, hfrom, hto, hlog⟩, hlist, htext⟩)
    | repay => exact Or.inl (Or.inr ⟨log, ⟨hkind, block, hfrom, hto, hlog⟩, hlist, htext⟩)
    | liquidation => exact Or.inr ⟨log, ⟨hkind, block, hfrom, hto, hlog⟩, hlist, htext⟩

end

/-! ### Rules -/

section
variable {K : ListKind κ} {T : EthersText} {chain : Chain κ} {config : BootstrapConfig κ}
  {Inv : BootstrapWorld κ → Prop} {w : BootstrapWorld κ}

/-- A batch that arrives holds the logs of its range, and fetching changes nothing. -/
lemma fetchAttempt_holds {startBlock endBlock : ℕ} (hw : Inv w) (retries : ℕ) :
    (Bootstrap.fetchAttempt config startBlock endBlock retries).Holds
      (bootstrapWorld K T chain) Inv (fun o w' => w' = w ∧ ∀ logs, o = .ok logs →
        logs = (chain.logs .borrow startBlock endBlock, chain.logs .repay startBlock endBlock,
          chain.logs .liquidation startBlock endBlock)) w := by
  induction retries with
  | zero =>
    rintro reply w' ⟨rfl, hreply⟩
    refine ⟨hw, ?_⟩
    match reply with
    | .ok logs => exact ⟨rfl, fun logs' h => hreply logs' h⟩
    | .error e => exact ⟨rfl, fun logs h => nomatch h⟩
  | succ retries ih =>
    rintro reply w' ⟨rfl, hreply⟩
    refine ⟨hw, ?_⟩
    match reply with
    | .ok logs => exact ⟨rfl, fun logs' h => hreply logs' h⟩
    | .error e => exact ih

/-- The rule for a scan. `J start w` holds whenever the blocks from `start` on are what is left to
scan; it is enough that going through the entries of a batch and saving its end keep `J`. -/
theorem scan_holds_of {latest start : ℕ} (J : ℕ → BootstrapWorld κ → Prop)
    (Q : BootstrapWorld κ → Prop) (hinv : ∀ start w, J start w → Inv w)
    (hbatch : ∀ start w (order : List Text), start ≤ latest → J start w →
      (∀ entry, entry ∈ order ↔ ∃ block, start ≤ block ∧
        block ≤ min (start + config.batchSize) latest ∧ ∃ log ∈ chain block,
          log.market ∈ config.whitelist ∧
          entry = config.identityText log.borrower log.market) →
      (order.forM Bootstrap.trackEntry).Holds (bootstrapWorld K T chain) Inv
        (fun o w' => o = .ok ⟨⟩ → Inv w' ∧ J (min (start + config.batchSize) latest + 1)
          { w' with saved := some (min (start + config.batchSize) latest) }) w)
    (hend : ∀ start w, latest < start → J start w → Q w) (hJ : J start w) :
    (Bootstrap.scan config latest start).Holds (bootstrapWorld K T chain) Inv
      (fun o w' => o = .ok () → Q w') w := by
  induction hn : latest + 1 - start using Nat.strong_induction_on generalizing start w with
  | _ n ih =>
    rw [Bootstrap.scan]
    by_cases hle : start ≤ latest
    · rw [dif_pos hle, Program.holds_bind]
      refine (fetchAttempt_holds (hinv start w hJ) 4).mono fun o w₁ hfetch => ?_
      obtain ⟨rfl, hlogs⟩ := hfetch
      cases o with
      | error e => exact fun h => nomatch h
      | ok logs =>
        obtain rfl := hlogs logs rfl
        rintro (order : List Text) w₁ ⟨rfl, -, horder⟩
        refine ⟨hinv start w₁ hJ, ?_⟩
        change (order.forM Bootstrap.trackEntry >>= _).Holds _ _ _ _
        have hentries : ∀ entry, entry ∈ order ↔ _ := fun entry => by
          rw [← List.mem_toFinset, horder, mem_entries]
        refine Program.holds_bind.mpr
          ((hbatch start w₁ order hle hJ hentries).mono fun o w₂ hpost => ?_)
        cases o with
        | error e => exact fun h => nomatch h
        | ok =>
          obtain ⟨hinv₂, hJ₂⟩ := hpost rfl
          rintro reply w₃ (⟨rfl, rfl⟩ | ⟨⟨e, rfl⟩, rfl⟩)
          · exact ⟨hinv _ _ hJ₂, ih _ (by omega) hJ₂ rfl⟩
          · exact ⟨hinv₂, fun h => nomatch h⟩
    · rw [dif_neg hle]
      exact fun _ => hend start w (Nat.lt_of_not_le hle) hJ

/-- The rule for a run: it scans from the saved block, less the overlap, to some tip. -/
theorem run_holds_of {Q : BootstrapWorld κ → Prop} (hw : Inv w)
    (hscan : ∀ latest, (Bootstrap.scan config latest
      (w.saved.getD config.deployBlock - 20)).Holds (bootstrapWorld K T chain) Inv
        (fun o w' => o = .ok () → Q w') w) :
    (Bootstrap.run config).Holds (bootstrapWorld K T chain) Inv
      (fun o w' => o = .ok () → Q w') w := by
  rintro last w₁ ⟨rfl, hlast⟩
  refine ⟨hw, ?_⟩
  match last, hlast with
  | .error e, _ => exact fun h => nomatch h
  | .ok last, hlast =>
    obtain rfl := hlast last rfl
    rintro latest w₁ rfl
    refine ⟨hw, ?_⟩
    match latest with
    | .error e => exact fun h => nomatch h
    | .ok latest => exact hscan latest

end

end LiqRanger
