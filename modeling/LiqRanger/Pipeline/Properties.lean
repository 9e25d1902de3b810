import LiqRanger.Pipeline.Broadcast

/-!
# Safety and coherence of a broadcast

What holds of every broadcast (`broadcast_safe`), and exactly when the broadcast job trades the
collateral it seizes and carries what the refresh answered.
-/

namespace LiqRanger

open Effect

variable {ρ : Type}

/-- The swap a job carries, as the quote it came from. -/
def LiquidationJob.swap (job : LiquidationJob) : MarketQuote :=
  ⟨job.swapTarget, job.swapProxy, job.swapData, job.minAmtOut⟩

/-- An event list with no broadcast before its last event has only one place to split at a
broadcast. -/
lemma split_at_broadcast {init before after : List (Event (ports ρ))} {e e' : Event (ports ρ)}
    (hquiet : ∀ x ∈ init, isBroadcast x = false) (he' : isBroadcast e' = true)
    (h : init ++ [e] = before ++ e' :: after) : before = init ∧ e' = e := by
  induction init generalizing before with
  | nil =>
    match before with
    | [] => simpa using (List.cons.inj h).1.symm
    | x :: xs => simp at h
  | cons y ys ih =>
    match before with
    | [] =>
      have hy := hquiet y List.mem_cons_self
      rw [List.nil_append, List.cons_append] at h
      rw [(List.cons.inj h).1, he'] at hy
      cases hy
    | x :: xs =>
      rw [List.cons_append, List.cons_append] at h
      obtain ⟨rfl, hrest⟩ := List.cons.inj h
      obtain ⟨rfl, rfl⟩ := ih (fun z hz => hquiet z (List.mem_cons_of_mem _ hz)) hrest
      exact ⟨rfl, rfl⟩

/-- The calls made before a broadcast: nothing is broadcast among them, the last simulation
returned the gas for this very job, and the position was refreshed after a simulation. -/
lemma BroadcastRun.before {payload : LiqPayload ρ} {refreshed : BorrowerProfile}
    {job : LiquidationJob} {gas : U64} {t : List (Event (ports ρ))}
    (h : BroadcastRun payload refreshed job gas t) :
    ∃ init reply, t = init ++ [executeEvent job (gasLimitOf gas) reply] ∧
      (∀ e ∈ init, isBroadcast e = false) ∧
      job.debtToCover ≤ job.minAmtOut ∧
      (∃ earlier blockNumber later,
        init = earlier ++ simulateEvent blockNumber job (.ok gas) :: later ∧
          ∀ e ∈ later, isRefresh e = true) ∧
      ∃ earlier blockNumber job₀ gas₀ later,
        init = earlier ++ simulateEvent blockNumber job₀ (.ok gas₀) ::
          refreshEvent payload.reader job.identity (.ok refreshed) :: later := by
  cases h with
  | unchanged quote gas reply hvalid hprofit hdebt hseize =>
    refine ⟨[_, _, _], reply, rfl, by simp, hprofit, ⟨[_], _, [_], rfl, by simp⟩, ?_⟩
    exact ⟨[_], _, _, _, [], rfl⟩
  | requoted quote newQuote gas newGas reply hvalid hprofit hchanged hnewProfit =>
    refine ⟨[_, _, _, _, _], reply, rfl, by simp, hnewProfit,
      ⟨[_, _, _, _], _, [], rfl, by simp⟩, ?_⟩
    exact ⟨[_], _, _, _, [_, _], rfl⟩

/-! ### Sample executions -/

/-- A scan that would repay 100 of token 2 and seize 120 of token 1. -/
def sampleScan : BorrowerProfile where
  address := .ofNat 20 1001
  repaidShares := some 100
  seizedAssets := some 0
  marketId := some (.ofNat 32 7)
  debtAsset := .ofNat 20 2
  debtToCover := 100
  collateralAsset := .ofNat 20 1
  seizeAmount := 120
  srcDecimals := 18
  destDecimals := 6
  protocol := .morpho
  identity := "morpho:7:1001".toList

def samplePayload : LiqPayload Unit := ⟨sampleScan, (), 500⟩

/-- A quote from a swap contract `target` that pays out `minAmtOut`. -/
def sampleQuote (target : ℕ) (minAmtOut : U256) : MarketQuote :=
  ⟨.ofNat 20 target, .ofNat 20 (target + 1), [0xab], minAmtOut⟩

/-- The refresh picks token 9 as the collateral, and seizes less of it. -/
def sampleDrift : BorrowerProfile :=
  { sampleScan with collateralAsset := .ofNat 20 9, seizeAmount := 95, debtToCover := 90 }

/-- The refresh moves to the mode that seizes collateral, with the amounts of the scan. -/
def sampleModeChange : BorrowerProfile :=
  { sampleScan with repaidShares := some 0, seizedAssets := some 120 }

def sampleJob : LiquidationJob := buildLiquidationJob sampleScan (sampleQuote 50 110)

def sampleDriftJob : LiquidationJob := sampleJob.revalidated sampleDrift (sampleQuote 60 92)

/-- The calls when the sample is quoted again after the refresh. -/
def sampleDriftCalls : List (Event (ports Unit)) :=
  [quoteEvent sampleScan (.ok (sampleQuote 50 110)), simulateEvent 500 sampleJob (.ok 200),
    refreshEvent () sampleScan.identity (.ok sampleDrift),
    quoteEvent sampleDrift (.ok (sampleQuote 60 92)), simulateEvent 0 sampleDriftJob (.ok 210),
    executeEvent sampleDriftJob (gasLimitOf 210) (.ok (.zero 32))]

/-- The calls when the sample is broadcast as it was scanned. -/
def sampleModeChangeCalls : List (Event (ports Unit)) :=
  [quoteEvent sampleScan (.ok (sampleQuote 50 110)), simulateEvent 500 sampleJob (.ok 200),
    refreshEvent () sampleScan.identity (.ok sampleModeChange),
    executeEvent sampleJob (gasLimitOf 200) (.ok (.zero 32))]

lemma sampleDrift_trace : (processPayload samplePayload).Trace sampleDriftCalls (.ok ()) := by
  have hrun : BroadcastRun samplePayload sampleDrift sampleDriftJob 210 sampleDriftCalls :=
    .requoted (sampleQuote 50 110) (sampleQuote 60 92) 200 210 _ (by decide) (by decide)
      (Or.inl (by decide)) (by decide)
  exact hrun.trace

lemma sampleModeChange_trace :
    (processPayload samplePayload).Trace sampleModeChangeCalls (.ok ()) := by
  have hrun : BroadcastRun samplePayload sampleModeChange sampleJob 200 sampleModeChangeCalls :=
    .unchanged (sampleQuote 50 110) 200 _ (by decide) (by decide) rfl rfl
  exact hrun.trace

lemma sampleDrift_broadcast :
    executeEvent sampleDriftJob (gasLimitOf 210) (.ok (.zero 32)) ∈ sampleDriftCalls := by
  simp [sampleDriftCalls]

lemma sampleDrift_refresh :
    refreshEvent samplePayload.reader samplePayload.profile.identity (.ok sampleDrift)
      ∈ sampleDriftCalls := by
  simp [sampleDriftCalls, samplePayload]

lemma sampleModeChange_broadcast :
    executeEvent sampleJob (gasLimitOf 200) (.ok (.zero 32)) ∈ sampleModeChangeCalls := by
  simp [sampleModeChangeCalls]

lemma sampleModeChange_refresh :
    refreshEvent samplePayload.reader samplePayload.profile.identity (.ok sampleModeChange)
      ∈ sampleModeChangeCalls := by
  simp [sampleModeChangeCalls, samplePayload]

/-! ### Safety -/

/-- A payload is broadcast at most once. A broadcast job covers its debt, its gas is what the
last simulation returned for this job, with nothing but the refresh in between, and the refresh
of its identity returned after a simulation had succeeded. -/
theorem broadcast_safe {payload : LiqPayload ρ} {t : List (Event (ports ρ))}
    {o : Except Empty Unit} (h : (processPayload payload).Trace t o) :
    t.countP isBroadcast ≤ 1 ∧
      ∀ before job gasLimit reply after,
        t = before ++ executeEvent job gasLimit reply :: after →
        job.debtToCover ≤ job.minAmtOut ∧
        (∃ earlier blockNumber gas later,
          before = earlier ++ simulateEvent blockNumber job (.ok gas) :: later ∧
            gasLimit = gasLimitOf gas ∧ ∀ e ∈ later, isRefresh e = true) ∧
        ∃ earlier blockNumber job₀ gas₀ refreshed later,
          before = earlier ++ simulateEvent blockNumber job₀ (.ok gas₀) ::
            refreshEvent payload.reader job.identity (.ok refreshed) :: later := by
  rcases processPayload_trace h with hquiet | ⟨refreshed, job, gas, hrun⟩
  · constructor
    · rw [List.countP_eq_zero.mpr fun e he => by simp [hquiet e he]]
      exact Nat.zero_le 1
    · rintro before job gasLimit reply after rfl
      have := hquiet (executeEvent job gasLimit reply) (by simp)
      simp at this
  · obtain ⟨init, reply, rfl, hquiet, hcovers, hgas, hrefresh⟩ := hrun.before
    constructor
    · rw [List.countP_append, List.countP_eq_zero.mpr fun e he => by simp [hquiet e he]]
      simp
    · intro before job' gasLimit reply' after hsplit
      obtain ⟨rfl, heq⟩ := split_at_broadcast hquiet (isBroadcast_executeEvent _ _ _) hsplit
      obtain ⟨rfl, rfl⟩ := executeEvent_inj heq
      refine ⟨hcovers, ?_, ?_⟩
      · obtain ⟨earlier, blockNumber, later, hinit, hlater⟩ := hgas
        exact ⟨earlier, blockNumber, gas, later, hinit, rfl, hlater⟩
      · obtain ⟨earlier, blockNumber, job₀, gas₀, later, hinit⟩ := hrefresh
        exact ⟨earlier, blockNumber, job₀, gas₀, refreshed, later, hinit⟩

/-- The re-quoted sample is broadcast once, and its new quote covers its debt. -/
theorem broadcast_safe_sample :
    sampleDriftCalls.countP isBroadcast ≤ 1 ∧
      sampleDriftJob.debtToCover ≤ sampleDriftJob.minAmtOut := by
  have hsafe := broadcast_safe sampleDrift_trace
  exact ⟨hsafe.1, (hsafe.2 [_, _, _, _, _] _ _ _ [] rfl).1⟩

/-- Exactly one refresh is answered in a broadcast run. -/
lemma BroadcastRun.refreshedProfiles {payload : LiqPayload ρ} {refreshed : BorrowerProfile}
    {job : LiquidationJob} {gas : U64} {t : List (Event (ports ρ))}
    (h : BroadcastRun payload refreshed job gas t) :
    t.filterMap refreshedProfile? = [refreshed] := by
  cases h <;> rfl

section
variable {payload : LiqPayload ρ} {t : List (Event (ports ρ))} {o : Except Empty Unit}
  {job : LiquidationJob} {gasLimit : U256} {reply : Except String H256}
  {refreshed : BorrowerProfile}

/-- An execution with a broadcast and a refresh is one of the two broadcast runs, for the job
that was broadcast and the profile that was refreshed. -/
lemma broadcastRun_of_mem (h : (processPayload payload).Trace t o)
    (hbroadcast : executeEvent job gasLimit reply ∈ t)
    (hrefresh : refreshEvent payload.reader payload.profile.identity (.ok refreshed) ∈ t) :
    ∃ gas, BroadcastRun payload refreshed job gas t := by
  rcases processPayload_trace h with hquiet | ⟨refreshed', job', gas, hrun⟩
  · have := hquiet _ hbroadcast
    simp at this
  · have hprofile : refreshed = refreshed' := by
      have hmem : refreshed ∈ t.filterMap refreshedProfile? :=
        List.mem_filterMap.mpr ⟨_, hrefresh, rfl⟩
      rwa [hrun.refreshedProfiles, List.mem_singleton] at hmem
    obtain ⟨init, reply', rfl, hquiet, -⟩ := hrun.before
    have hjob : job = job' := by
      rcases List.mem_append.mp hbroadcast with hmem | hmem
      · have := hquiet _ hmem
        simp at this
      · exact (executeEvent_inj (List.mem_singleton.mp hmem)).1
    subst hjob
    exact ⟨gas, hprofile ▸ hrun⟩

/-! ### The swap of a broadcast job -/

/-- The job's swap was quoted in `t` for the collateral it seizes, the debt it repays and the
amount it seizes. -/
def SwapTradesSeizure (job : LiquidationJob) (t : List (Event (ports ρ))) : Prop :=
  job.swap ∈ t.filterMap (quoteFor? job.collateralAsset job.debtAsset job.seizeAmount)

instance (job : LiquidationJob) (t : List (Event (ports ρ))) :
    Decidable (SwapTradesSeizure job t) :=
  inferInstanceAs (Decidable (_ ∈ _))

/-- The refresh leaves the swap coherent: neither compared amount moved, so that the job is not
quoted again; or both assets are those of the scan; or the second quote repeats the first for
the same seized amount. -/
def SwapStaysCoherent (scanned refreshed : BorrowerProfile) (t : List (Event (ports ρ))) : Prop :=
  (refreshed.debtToCover = scanned.debtToCover ∧ refreshed.seizeAmount = scanned.seizeAmount) ∨
  (refreshed.collateralAsset = scanned.collateralAsset ∧
    refreshed.debtAsset = scanned.debtAsset) ∨
  (refreshed.seizeAmount = scanned.seizeAmount ∧
    ∀ q ∈ t.filterMap anyQuote?, ∀ q' ∈ t.filterMap anyQuote?, q = q')

lemma BroadcastRun.swapTradesSeizure_iff {gas : U64}
    (h : BroadcastRun payload refreshed job gas t) :
    SwapTradesSeizure job t ↔ SwapStaysCoherent payload.profile refreshed t := by
  cases h with
  | unchanged quote gas reply hvalid hprofit hdebt hseize =>
    have htrades : SwapTradesSeizure (buildLiquidationJob payload.profile quote)
        [quoteEvent payload.profile (.ok quote),
          simulateEvent payload.blockNumber (buildLiquidationJob payload.profile quote) (.ok gas),
          refreshEvent payload.reader payload.profile.identity (.ok refreshed),
          executeEvent (buildLiquidationJob payload.profile quote) (gasLimitOf gas) reply] := by
      simp [SwapTradesSeizure, LiquidationJob.swap, buildLiquidationJob, Except.toOption]
    exact iff_of_true htrades (Or.inl ⟨hdebt, hseize⟩)
  | requoted quote newQuote gas newGas reply hvalid hprofit hchanged hnewProfit =>
    have hnot : ¬ (refreshed.debtToCover = payload.profile.debtToCover ∧
        refreshed.seizeAmount = payload.profile.seizeAmount) := by
      rwa [not_and_or]
    simp only [SwapStaysCoherent, hnot, false_or]
    simp only [SwapTradesSeizure, LiquidationJob.revalidated, buildLiquidationJob,
      LiquidationJob.swap, List.mem_filterMap, List.mem_cons, List.not_mem_nil, or_false,
      exists_eq_or_imp, quoteFor?_quoteEvent, true_and, Except.toOption,
      Option.ite_none_right_eq_some, Option.some.injEq, quoteFor?_simulateEvent, reduceCtorEq,
      quoteFor?_refreshEvent, and_true, ↓existsAndEq, quoteFor?_executeEvent, and_false,
      false_or, anyQuote?_quoteEvent, List.filterMap_cons_some, anyQuote?_simulateEvent,
      anyQuote?_refreshEvent, anyQuote?_executeEvent, forall_eq_or_imp, forall_eq']
    rw [or_comm]
    exact or_congr Iff.rfl (and_congr eq_comm ⟨fun h => ⟨h, h.symm⟩, And.left⟩)

/-- The swap of a broadcast job trades the token being seized exactly when the refresh left the
swap coherent with the scan. -/
theorem broadcast_swapTradesSeizure_iff (h : (processPayload payload).Trace t o)
    (hbroadcast : executeEvent job gasLimit reply ∈ t)
    (hrefresh : refreshEvent payload.reader payload.profile.identity (.ok refreshed) ∈ t) :
    SwapTradesSeizure job t ↔ SwapStaysCoherent payload.profile refreshed t := by
  obtain ⟨gas, hrun⟩ := broadcastRun_of_mem h hbroadcast hrefresh
  exact hrun.swapTradesSeizure_iff

/-- The sample that is broadcast as it was scanned trades the collateral it seizes. -/
theorem broadcast_swapTradesSeizure_iff_sample :
    SwapTradesSeizure sampleJob sampleModeChangeCalls :=
  (broadcast_swapTradesSeizure_iff sampleModeChange_trace sampleModeChange_broadcast
    sampleModeChange_refresh).mpr (Or.inl ⟨rfl, rfl⟩)

/-- The refresh picks another collateral: the job seizes token 1 with a swap quoted for token
9. -/
theorem broadcast_swap_of_other_collateral :
    ¬ ∀ (payload : LiqPayload Unit) (t : List (Event (ports Unit))) (o : Except Empty Unit)
      (job : LiquidationJob) (gasLimit : U256) (reply : Except String H256),
      (processPayload payload).Trace t o → executeEvent job gasLimit reply ∈ t →
        SwapTradesSeizure job t := by
  intro h
  have htrades := h samplePayload _ _ _ _ _ sampleDrift_trace sampleDrift_broadcast
  exact absurd htrades (by decide)

/-! ### The position of a broadcast job -/

/-- The job carries the position that was refreshed. -/
def CarriesRefresh (job : LiquidationJob) (refreshed : BorrowerProfile) : Prop :=
  job.debtToCover = refreshed.debtToCover ∧ job.seizeAmount = refreshed.seizeAmount ∧
  job.repaidShares = refreshed.repaidShares ∧ job.seizedAssets = refreshed.seizedAssets ∧
  job.collateralAsset = refreshed.collateralAsset ∧ job.debtAsset = refreshed.debtAsset ∧
  job.marketId = refreshed.marketId

/-- The refresh moved only what re-validation copies: the assets and the market are those of the
scan, and the shares to repay and the collateral to seize moved only together with one of the
two compared amounts. -/
def RefreshIsCopied (scanned refreshed : BorrowerProfile) : Prop :=
  (refreshed.collateralAsset = scanned.collateralAsset ∧
    refreshed.debtAsset = scanned.debtAsset ∧ refreshed.marketId = scanned.marketId) ∧
  (refreshed.debtToCover = scanned.debtToCover → refreshed.seizeAmount = scanned.seizeAmount →
    refreshed.repaidShares = scanned.repaidShares ∧ refreshed.seizedAssets = scanned.seizedAssets)

lemma BroadcastRun.carriesRefresh_iff {gas : U64} (h : BroadcastRun payload refreshed job gas t) :
    CarriesRefresh job refreshed ↔ RefreshIsCopied payload.profile refreshed := by
  cases h with
  | unchanged quote gas reply hvalid hprofit hdebt hseize =>
    simp only [CarriesRefresh, RefreshIsCopied, buildLiquidationJob, hdebt, hseize, true_and,
      true_imp_iff]
    constructor
    · rintro ⟨hshares, hassets, hcoll, hasset, hmarket⟩
      exact ⟨⟨hcoll.symm, hasset.symm, hmarket.symm⟩, hshares.symm, hassets.symm⟩
    · rintro ⟨⟨hcoll, hasset, hmarket⟩, hshares, hassets⟩
      exact ⟨hshares.symm, hassets.symm, hcoll.symm, hasset.symm, hmarket.symm⟩
  | requoted quote newQuote gas newGas reply hvalid hprofit hchanged hnewProfit =>
    simp only [CarriesRefresh, RefreshIsCopied, LiquidationJob.revalidated, buildLiquidationJob,
      true_and]
    constructor
    · rintro ⟨hcoll, hasset, hmarket⟩
      refine ⟨⟨hcoll.symm, hasset.symm, hmarket.symm⟩, fun hdebt hseize => ?_⟩
      rcases hchanged with hne | hne
      · exact absurd hdebt hne
      · exact absurd hseize hne
    · rintro ⟨⟨hcoll, hasset, hmarket⟩, -⟩
      exact ⟨hcoll.symm, hasset.symm, hmarket.symm⟩

/-- A broadcast job carries the refreshed position exactly when the refresh moved only what
re-validation copies. -/
theorem broadcast_carriesRefresh_iff (h : (processPayload payload).Trace t o)
    (hbroadcast : executeEvent job gasLimit reply ∈ t)
    (hrefresh : refreshEvent payload.reader payload.profile.identity (.ok refreshed) ∈ t) :
    CarriesRefresh job refreshed ↔ RefreshIsCopied payload.profile refreshed := by
  obtain ⟨gas, hrun⟩ := broadcastRun_of_mem h hbroadcast hrefresh
  exact hrun.carriesRefresh_iff

end

/-- The re-quoted sample does not carry its refresh: the collateral moved. -/
theorem broadcast_carriesRefresh_iff_sample : ¬ CarriesRefresh sampleDriftJob sampleDrift := by
  rw [broadcast_carriesRefresh_iff sampleDrift_trace sampleDrift_broadcast sampleDrift_refresh]
  rintro ⟨⟨hcoll, -⟩, -⟩
  exact absurd hcoll (by decide)

/-- The refresh changes the mode and neither compared amount: the job repays shares although the
refreshed position seizes collateral. -/
theorem broadcast_of_other_mode :
    ¬ ∀ (payload : LiqPayload Unit) (t : List (Event (ports Unit))) (o : Except Empty Unit)
      (job : LiquidationJob) (gasLimit : U256) (reply : Except String H256)
      (refreshed : BorrowerProfile),
      (processPayload payload).Trace t o → executeEvent job gasLimit reply ∈ t →
        refreshEvent payload.reader payload.profile.identity (.ok refreshed) ∈ t →
        CarriesRefresh job refreshed := by
  intro h
  obtain ⟨-, -, hshares, -⟩ := h samplePayload _ _ _ _ _ _ sampleModeChange_trace
    sampleModeChange_broadcast sampleModeChange_refresh
  exact absurd hshares (by decide)

end LiqRanger
