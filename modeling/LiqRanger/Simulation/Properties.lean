import LiqRanger.Effect.Responder
import LiqRanger.Simulation.World

/-!
# What a snapshot shows

An account in the cache by address was read for some snapshot and is put into every later one. So
the snapshots that a sequence of calls returns show their own blocks exactly when no account changed
that was taken from that cache (`snapshots_serve_iff`, `snapshot_stale`).
-/

namespace LiqRanger

open Effect Transition

variable {η : Type} {config : RevmConfig} {history : AccountHistory} {n : U64}
  {w : SnapshotCaches η}

/-! ### Every sequence of calls -/

/-- The caches, and every snapshot that was returned with the call that it answers. -/
structure SnapshotRun (η : Type) where
  caches : SnapshotCaches η
  returned : List (SnapshotRequest × BlockSnapshot η)

def SnapshotRun.initial : SnapshotRun η := ⟨.empty, []⟩

/-- One call. -/
inductive SnapshotStep (config : RevmConfig) (history : AccountHistory) :
    SnapshotRun η → SnapshotRun η → Prop where
  | returned (s : SnapshotRun η) (request : SnapshotRequest) (snapshot : BlockSnapshot η)
      (w' : SnapshotCaches η) (t : List (Event (snapshotPorts η)))
      (htrace : (RevmAdapter.buildSnapshot config request).Trace t (.ok snapshot))
      (hpath : (snapshotWorld history).Path s.caches t w') :
      SnapshotStep config history s ⟨w', s.returned ++ [(request, snapshot)]⟩
  | failed (s : SnapshotRun η) (request : SnapshotRequest) (e : SimulatorError)
      (w' : SnapshotCaches η) (t : List (Event (snapshotPorts η)))
      (htrace : (RevmAdapter.buildSnapshot config request).Trace t (.error e))
      (hpath : (snapshotWorld history).Path s.caches t w') :
      SnapshotStep config history s ⟨w', s.returned⟩

/-- The snapshot is of the block that was asked for, and the accounts put into it, apart from the
keeper, are those at its block. -/
structure Serves (config : RevmConfig) (history : AccountHistory) (request : SnapshotRequest)
    (snapshot : BlockSnapshot η) : Prop where
  block : request.blockNumber ≠ 0 → snapshot.blockNumber = request.blockNumber
  accounts : ∀ addr ≠ config.keeper, ∀ info, snapshot.accounts addr = some info →
    info = infoAt config history snapshot.blockNumber addr

/-- The accounts that a call for block `n` finds in the cache by address have not changed since they
were put there. -/
def Unchanged (config : RevmConfig) (history : AccountHistory) (w : SnapshotCaches η) (n : U64)
    (request : SnapshotRequest) : Prop :=
  ∀ addr ∈ request.warmTargets, addr ≠ config.keeper → ∀ info, w.accounts addr = some info →
    info = infoAt config history n addr

/-- The call returns a snapshot that was in the cache by block, or the accounts that it takes from
the other cache have not changed. -/
def TakesUnchanged (config : RevmConfig) (history : AccountHistory) (s s' : SnapshotRun η) : Prop :=
  ∀ request snapshot, s'.returned = s.returned ++ [(request, snapshot)] →
    s.caches.snapshots snapshot.blockNumber = none →
    Unchanged config history s.caches snapshot.blockNumber request

/-- A new snapshot shows its block exactly if the cached accounts are as they were. -/
lemma RevmAdapter.Built.serves_iff {request : SnapshotRequest} {snapshot : BlockSnapshot η}
    (h : Built config history w n request snapshot)
    (hblock : request.blockNumber ≠ 0 → n = request.blockNumber) :
    Serves config history request snapshot ↔ Unchanged config history w n request := by
  constructor
  · rintro ⟨-, haccounts⟩ addr htarget hkeeper info hinfo
    rw [← h.block]
    exact haccounts addr hkeeper info (h.cached addr htarget info hinfo)
  · intro hunchanged
    refine ⟨fun hne => h.block.trans (hblock hne), fun addr hkeeper info hinfo => ?_⟩
    rw [h.block]
    rcases h.nothingElse addr hkeeper info hinfo with ⟨htarget, hcached⟩ | hread
    · exact hunchanged addr htarget hkeeper info hcached
    · exact hread

/-- The cache by block holds snapshots that were returned, each at its block. -/
def CachesReturned (s : SnapshotRun η) : Prop :=
  ∀ n snapshot, s.caches.snapshots n = some snapshot →
    snapshot.blockNumber = n ∧ ∃ request, (request, snapshot) ∈ s.returned

variable {s s' : SnapshotRun η}

/-- A step returns a snapshot or fails. -/
lemma SnapshotStep.cases (h : SnapshotStep config history s s') :
    (∃ request snapshot, s'.returned = s.returned ++ [(request, snapshot)] ∧
      RevmAdapter.Returns config history s.caches request snapshot s'.caches) ∨
    (s'.returned = s.returned ∧ s'.caches.snapshots = s.caches.snapshots) := by
  cases h with
  | returned request snapshot w' t htrace hpath =>
    exact Or.inl ⟨request, snapshot, rfl,
      (RevmAdapter.buildSnapshot_holds request).outcome htrace hpath⟩
  | failed request e w' t htrace hpath =>
    exact Or.inr ⟨rfl, (RevmAdapter.buildSnapshot_holds request).outcome htrace hpath⟩

lemma cachesReturned_step :
    Preserves (SnapshotStep config history) (CachesReturned : SnapshotRun η → Prop) := by
  intro s s' hstep h n snapshot hcached
  rcases hstep.cases with ⟨request, new, hreturned, m, -, hreturns⟩ | ⟨hreturned, hsame⟩
  · rw [hreturned]
    have hold (hcached : s.caches.snapshots n = some snapshot) :
        snapshot.blockNumber = n ∧
          ∃ other, (other, snapshot) ∈ s.returned ++ [(request, new)] := by
      obtain ⟨hblock, other, hmem⟩ := h n snapshot hcached
      exact ⟨hblock, other, List.mem_append_left _ hmem⟩
    rcases hreturns with ⟨-, hsame⟩ | ⟨-, hbuilt, hnew⟩
    · rw [hsame] at hcached
      exact hold hcached
    · rcases hnew n snapshot hcached with hcached | ⟨rfl, rfl⟩
      · exact hold hcached
      · exact ⟨hbuilt.block, request, List.mem_append_right _ (List.mem_singleton_self _)⟩
  · rw [hreturned]
    rw [hsame] at hcached
    exact h n snapshot hcached

lemma cachesReturned_initial : CachesReturned (SnapshotRun.initial : SnapshotRun η) := by
  intro n snapshot hcached
  cases hcached

/-- All snapshots that were returned show their blocks. -/
def AllServed (config : RevmConfig) (history : AccountHistory) (s : SnapshotRun η) : Prop :=
  ∀ request snapshot, (request, snapshot) ∈ s.returned → Serves config history request snapshot

/-- A snapshot that a call finds was returned before. -/
lemma CachesReturned.serves_hit (h : CachesReturned s) (hserved : AllServed config history s)
    {request : SnapshotRequest} {snapshot : BlockSnapshot η}
    (hblock : request.blockNumber ≠ 0 → n = request.blockNumber)
    (hcached : s.caches.snapshots n = some snapshot) : Serves config history request snapshot := by
  obtain ⟨rfl, other, hmem⟩ := h n snapshot hcached
  exact ⟨hblock, (hserved other snapshot hmem).accounts⟩

lemma allServed_step (h : CachesReturned s) (hstep : SnapshotStep config history s s')
    (hcond : TakesUnchanged config history s s') (hserved : AllServed config history s) :
    AllServed config history s' := by
  intro request snapshot hmem
  rcases hstep.cases with ⟨request', new, hreturned, m, hblock, hreturns⟩ | ⟨hreturned, -⟩
  · rw [hreturned, List.mem_append, List.mem_singleton, Prod.mk.injEq] at hmem
    rcases hmem with hmem | ⟨rfl, rfl⟩
    · exact hserved request snapshot hmem
    · rcases hreturns with ⟨hhit, -⟩ | ⟨hmiss, hbuilt, -⟩
      · exact h.serves_hit hserved hblock hhit
      · obtain rfl := hbuilt.block
        exact (hbuilt.serves_iff hblock).mpr (hcond request snapshot hreturned hmiss)
  · rw [hreturned] at hmem
    exact hserved request snapshot hmem

lemma allServed_of_step (h : CachesReturned s) (hstep : SnapshotStep config history s s')
    (hserved : AllServed config history s') :
    AllServed config history s ∧ TakesUnchanged config history s s' := by
  rcases hstep.cases with ⟨request, snapshot, hreturned, m, hblock, hreturns⟩ | ⟨hreturned, -⟩
  · refine ⟨fun other old hmem => ?_, fun other new hother hmiss => ?_⟩
    · apply hserved
      rw [hreturned]
      exact List.mem_append_left _ hmem
    · rw [hreturned, List.append_cancel_left_eq, List.singleton_inj, Prod.mk.injEq] at hother
      obtain ⟨rfl, rfl⟩ := hother
      have hnow : Serves config history request snapshot := by
        apply hserved
        rw [hreturned]
        exact List.mem_append_right _ (List.mem_singleton_self _)
      rcases hreturns with ⟨hhit, -⟩ | ⟨-, hbuilt, -⟩
      · rw [(h m snapshot hhit).1, hhit] at hmiss
        cases hmiss
      · obtain rfl := hbuilt.block
        exact (hbuilt.serves_iff hblock).mp hnow
  · refine ⟨fun other old hmem => ?_, fun other new hother => ?_⟩
    · exact hserved other old (hreturned ▸ hmem)
    · simp [hreturned] at hother

/-- After any sequence of calls all snapshots that were returned show their blocks exactly if no
call for a new snapshot took an account from the cache by address that has changed. -/
theorem snapshots_serve_iff (config : RevmConfig) (history : AccountHistory) (s : SnapshotRun η)
    (hrun : Run (SnapshotStep config history) .initial s) :
    AllServed config history s ↔
      Run (Restrict (SnapshotStep config history) (TakesUnchanged config history)) .initial s :=
  run_restrict_iff cachesReturned_step (fun _ _ => allServed_step) (fun _ _ => allServed_of_step)
    cachesReturned_initial (fun _ _ hmem => by cases hmem) hrun

/-! ### Two calls -/

/-- A node that answers every call, in time. -/
def promptNode (history : AccountHistory) : Responder (snapshotPorts Unit) (SnapshotCaches Unit)
  | .getBlockNumber, w => (.ok 0, w)
  | .getBlock _, w => (.ok (some ()), w)
  | .getTransactionCount addr n, w => (.ok ((history n addr).nonce.setWidth 256), w)
  | .getCode addr n, w => (.ok (history n addr).code, w)
  | .getBalance addr n, w => (.ok (history n addr).balance, w)
  | .elapsed, w => (false, w)
  | .openDatabase _, w => (.ok (), w)
  | .cachedSnapshot n, w => (w.snapshots n, w)
  | .retainSnapshots oldest, w =>
    ((), { w with snapshots := fun n => if oldest ≤ n then w.snapshots n else none })
  | .insertSnapshot n snapshot, w =>
    ((), { w with snapshots := Function.update w.snapshots n (some snapshot) })
  | .cachedAccount addr, w => (w.accounts addr, w)
  | .insertAccount addr info, w =>
    ((), { w with accounts := Function.update w.accounts addr (some info) })

lemma promptNode_snapshotWorld (history : AccountHistory) (op : SnapshotOp Unit)
    (w : SnapshotCaches Unit) :
    snapshotWorld history w op (promptNode history op w).1 (promptNode history op w).2 := by
  cases op with
  | getTransactionCount addr n => exact ⟨rfl, fun _ h => (Except.ok.inj h).symm⟩
  | getCode addr n => exact ⟨rfl, fun _ h => (Except.ok.inj h).symm⟩
  | getBalance addr n => exact ⟨rfl, fun _ h => (Except.ok.inj h).symm⟩
  | cachedSnapshot n => exact ⟨rfl, rfl⟩
  | cachedAccount addr => exact ⟨rfl, rfl⟩
  | _ => rfl

def sampleRevm : RevmConfig := ⟨.ofNat 20 1, fun _ => .zero 32⟩

/-- The balance of each account is the number of the block. -/
def sampleHistory : AccountHistory := fun n _ => ⟨n.setWidth 256, 0, []⟩

def sampleRequest (n : U64) : SnapshotRequest := ⟨n, .zero 20, .zero 20, .zero 20⟩

def sampleCall (w : SnapshotCaches Unit) (n : U64) :
    Except SimulatorError (BlockSnapshot Unit) × SnapshotCaches Unit :=
  (RevmAdapter.buildSnapshot sampleRevm (sampleRequest n)).exec (promptNode sampleHistory) w

lemma sampleCall_step (s : SnapshotRun Unit) (n : U64) {snapshot : BlockSnapshot Unit}
    (h : (sampleCall s.caches n).1 = .ok snapshot) :
    SnapshotStep sampleRevm sampleHistory s
      ⟨(sampleCall s.caches n).2, s.returned ++ [(sampleRequest n, snapshot)]⟩ := by
  obtain ⟨t, htrace, hpath⟩ := exists_trace_of_exec (promptNode_snapshotWorld sampleHistory)
    (RevmAdapter.buildSnapshot sampleRevm (sampleRequest n)) s.caches
  exact .returned s (sampleRequest n) snapshot _ t (h ▸ htrace) hpath

lemma exists_ok_of_toOption {ε α : Type} {o : Except ε α} (h : o.toOption.isSome = true) :
    ∃ a, o = .ok a := by
  cases o with
  | error e => cases h
  | ok a => exact ⟨a, rfl⟩

/-- The first call finds both caches empty. -/
theorem snapshots_serve_iff_sample : ∃ snapshot,
    (sampleCall .empty 1).1 = .ok snapshot ∧
      AllServed sampleRevm sampleHistory
        ⟨(sampleCall .empty 1).2, [(sampleRequest 1, snapshot)]⟩ := by
  obtain ⟨snapshot, hreturns⟩ := exists_ok_of_toOption
    (show (sampleCall .empty 1).1.toOption.isSome = true by decide +kernel)
  have hstep := sampleCall_step .initial 1 hreturns
  refine ⟨snapshot, hreturns, (snapshots_serve_iff _ _ _ (.single hstep)).mpr (.single ⟨hstep, ?_⟩)⟩
  intro _ _ _ _ addr _ _ info hinfo
  cases hinfo

/-- The second call, for the next block, takes every account from the cache: the balances are those
of the block before. -/
theorem snapshot_stale : ¬ ∀ (config : RevmConfig) (history : AccountHistory)
    (s : SnapshotRun Unit), Run (SnapshotStep config history) .initial s →
    AllServed config history s := by
  intro h
  obtain ⟨first, hfirst⟩ := exists_ok_of_toOption
    (show (sampleCall .empty 1).1.toOption.isSome = true by decide +kernel)
  obtain ⟨second, hsecond⟩ := exists_ok_of_toOption
    (show (sampleCall (sampleCall .empty 1).2 2).1.toOption.isSome = true by decide +kernel)
  have hbalance : (second.accounts flashLiquidator).map AccountInfo.balance = some 1 := by
    have : ((sampleCall (sampleCall .empty 1).2 2).1.toOption.bind fun snapshot =>
        (snapshot.accounts flashLiquidator).map AccountInfo.balance) = some 1 := by decide +kernel
    rwa [hsecond] at this
  obtain ⟨info, hinfo, hone⟩ := Option.map_eq_some_iff.mp hbalance
  have hrun := (Relation.ReflTransGen.single (sampleCall_step .initial 1 hfirst)).tail
    (sampleCall_step _ 2 hsecond)
  have hserves := h _ _ _ hrun (sampleRequest 2) second (by simp)
  have htwo := hserves.accounts flashLiquidator (by decide) info hinfo
  rw [hserves.block (by decide)] at htwo
  rw [htwo] at hone
  exact absurd hone (by decide)

end LiqRanger
