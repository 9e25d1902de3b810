import LiqRanger.Effect.Responder
import LiqRanger.Morpho.Sizing
import LiqRanger.Readers.Scan

/-!
# Scan and refresh

The two ways to the same evaluation: a scan, which on Aave finds the debt reserve itself, and a
refresh, which takes it from the identity. On one state of the chain, with every call answered, a
profile of a scan is what a refresh of its identity returns (`refresh_agrees`). The caches for
decimals and aTokens may change in between: a lookup enters only what the chain says.
-/

namespace LiqRanger

open Effect Transition

/-- What the contracts answer in one state of the chain. -/
structure ChainState where
  userAccountData : Address → U256 × U256 × U256 × U256 × U256 × U256
  userReservesData : Address → Address → List UserReserveData × UInt8
  balanceOf : Address → Address → U256
  configuration : Address → U256
  aTokenAddress : Address → Address
  assetPrice : Address → U256
  decimals : Address → UInt8
  position : H256 → Address → U256 × U128 × U128
  market : H256 → U128 × U128 × U128 × U128 × U128 × U128
  idToMarketParams : H256 → Address × Address × Address × Address × U256
  price : Address → U256

/-- The caches that all tasks share. -/
structure Caches where
  tokenDecimals : Address → Option UInt8
  atokensAddr : Address → Option Address

/-- A cached value, or what is fetched, which is entered into the cache. -/
def getOrFetch {V : Type} (cache : Address → Option V) (fetch : Address → V) (key : Address) :
    V × (Address → Option V) :=
  match cache key with
  | some value => (value, cache)
  | none => (fetch key, Function.update cache key (some (fetch key)))

/-- A lookup changes no other one. -/
lemma getOrFetch_after {V : Type} (cache : Address → Option V) (fetch : Address → V)
    (key key' : Address) :
    (getOrFetch (getOrFetch cache fetch key).2 fetch key').1 = (getOrFetch cache fetch key').1 := by
  cases hcache : cache key with
  | some value => simp [getOrFetch, hcache]
  | none =>
    by_cases hkey : key' = key
    · subst hkey
      simp [getOrFetch, hcache]
    · simp only [getOrFetch, hcache, Function.update_of_ne hkey]
      cases cache key' with
      | some value => rfl
      | none => rfl

namespace ChainState

variable (chain : ChainState)

def getTokenDecimals (token : Address) (caches : Caches) : UInt8 × Caches :=
  let (decimals, cache) := getOrFetch caches.tokenDecimals chain.decimals token
  (decimals, { caches with tokenDecimals := cache })

def resolveAtoken (asset : Address) (caches : Caches) : Address × Caches :=
  let (atoken, cache) := getOrFetch caches.atokensAddr chain.aTokenAddress asset
  (atoken, { caches with atokensAddr := cache })

/-- Every call succeeds. -/
def aave : Responder aaveCalls Caches
  | .getUserAccountData user, caches => (.ok (chain.userAccountData user), caches)
  | .getUserReservesData provider user, caches =>
    (.ok (chain.userReservesData provider user), caches)
  | .balanceOf token account, caches => (.ok (chain.balanceOf token account), caches)
  | .getConfiguration asset, caches => (.ok (chain.configuration asset), caches)
  | .resolveAtoken asset, caches =>
    let (atoken, caches') := chain.resolveAtoken asset caches
    (.ok atoken, caches')
  | .getAssetPrice asset, caches => (.ok (chain.assetPrice asset), caches)
  | .getTokenDecimals token, caches =>
    let (decimals, caches') := chain.getTokenDecimals token caches
    (.ok decimals, caches')

def morpho : Responder morphoCalls Caches
  | .position marketId borrower, caches => (some (chain.position marketId borrower), caches)
  | .market marketId, caches => (some (chain.market marketId), caches)
  | .idToMarketParams marketId, caches => (some (chain.idToMarketParams marketId), caches)
  | .price oracle, caches => (some (chain.price oracle), caches)
  | .getTokenDecimals token, caches =>
    let (decimals, caches') := chain.getTokenDecimals token caches
    (some decimals, caches')

/-- Some task makes a call. -/
def Called (caches caches' : Caches) : Prop :=
  (∃ op, caches' = (chain.aave op caches).2) ∨ ∃ op, caches' = (chain.morpho op caches).2

/-! ### What lookups answer -/

/-- What every lookup would answer now. -/
def view (caches : Caches) : (Address → UInt8) × (Address → Address) :=
  (fun token => (chain.getTokenDecimals token caches).1,
    fun asset => (chain.resolveAtoken asset caches).1)

variable {chain} {caches caches' : Caches}

lemma view_getTokenDecimals (token : Address) :
    chain.view (chain.getTokenDecimals token caches).2 = chain.view caches :=
  Prod.ext (funext fun _ => getOrFetch_after _ _ _ _) rfl

lemma view_resolveAtoken (asset : Address) :
    chain.view (chain.resolveAtoken asset caches).2 = chain.view caches :=
  Prod.ext rfl (funext fun _ => getOrFetch_after _ _ _ _)

/-- No call of any task changes what the lookups answer. -/
lemma view_called (h : chain.Called caches caches') : chain.view caches' = chain.view caches := by
  rcases h with ⟨op, rfl⟩ | ⟨op, rfl⟩
  · cases op with
    | resolveAtoken asset => exact view_resolveAtoken asset
    | getTokenDecimals token => exact view_getTokenDecimals token
    | _ => rfl
  · cases op with
    | getTokenDecimals token => exact view_getTokenDecimals token
    | _ => rfl

/-- And that is all of the caches that the readers see. -/
lemma aave_keeps : chain.aave.Keeps chain.Called := by
  intro caches caches' h
  have hview := view_called h
  funext op
  cases op with
  | resolveAtoken asset => exact congrArg Except.ok (congrFun (congrArg Prod.snd hview) asset)
  | getTokenDecimals token => exact congrArg Except.ok (congrFun (congrArg Prod.fst hview) token)
  | _ => rfl

lemma morpho_keeps : chain.morpho.Keeps chain.Called := by
  intro caches caches' h
  have hview := view_called h
  funext op
  cases op with
  | getTokenDecimals token => exact congrArg some (congrFun (congrArg Prod.fst hview) token)
  | _ => rfl

lemma aave_stable : chain.aave.Stable := fun op _ _ h => aave_keeps (Or.inl ⟨op, h⟩)

lemma morpho_stable : chain.morpho.Stable := fun op _ _ h => morpho_keeps (Or.inr ⟨op, h⟩)

end ChainState

/-! ### Aave -/

namespace AaveProtocolAdapter

variable {T : EthersText} {config : AaveConfig} {answer : (op : AaveOp) → op.Reply}
  {borrower reserve : Address} {hf : U256} {profile : BorrowerProfile}
  {targetReserve : Option Address}

/-- A profile names the borrower and the reserve that it was evaluated for. -/
lemma identity_of_evaluateReserve {collaterals : List UserReserveData}
    (h : (evaluateReserve T config borrower hf collaterals reserve).eval answer
      = .ok (some profile)) :
    profile.identity = (TrackerIdentity.aaveV3 borrower reserve).toStringId T := by
  rw [evaluateReserve] at h
  split at h
  · cases h
  · rw [Program.eval_bind_eq_ok_iff] at h
    obtain ⟨debtToCover, -, h⟩ := h
    cases debtToCover with
    | error e => cases h
    | ok debtToCover =>
      dsimp only at h
      split at h
      · cases h
      · rw [Program.eval_bind_eq_ok_iff] at h
        obtain ⟨candidate, -, h⟩ := h
        cases candidate with
        | error e => cases h
        | ok candidate =>
          dsimp only at h
          rw [Program.eval_bind_eq_ok_iff] at h
          obtain ⟨decimals, -, h⟩ := h
          cases decimals with
          | error e => cases h
          | ok decimals =>
            cases h
            rfl

/-- An evaluation that gives a profile: an unhealthy account with collateral, a reserve to repay,
and the evaluation of that reserve. -/
lemma eval_evaluateBorrower_iff :
    (evaluateBorrower T config borrower targetReserve).eval answer = .ok (some profile) ↔
      ∃ data userReserves n reserve, answer (.getUserAccountData borrower) = .ok data ∧
        ¬ wad ≤ data.2.2.2.2.2 ∧
        answer (.getUserReservesData config.poolAddressProvider borrower)
          = .ok (userReserves, n) ∧
        (collateralPositions userReserves).isEmpty = false ∧
        (debtReserve T config borrower targetReserve userReserves).eval answer
          = .ok (some reserve) ∧
        (evaluateReserve T config borrower data.2.2.2.2.2 (collateralPositions userReserves)
          reserve).eval answer = .ok (some profile) := by
  constructor
  · intro h
    rw [evaluateBorrower, Program.eval_bind_eq_ok_iff] at h
    obtain ⟨data, hdata, h⟩ := h
    cases data with
    | error e => cases h
    | ok data =>
      dsimp only at h
      split at h
      · cases h
      · next hhf =>
        rw [Program.eval_bind_eq_ok_iff] at h
        obtain ⟨reserves, hreserves, h⟩ := h
        cases reserves with
        | error e => cases h
        | ok reserves =>
          dsimp only at h
          split at h
          · cases h
          · next hcollateral =>
            rw [Program.eval_bind_eq_ok_iff] at h
            obtain ⟨reserve, hreserve, h⟩ := h
            cases reserve with
            | none => cases h
            | some reserve =>
              exact ⟨data, reserves.1, reserves.2, reserve, Except.ok.inj hdata, hhf,
                Except.ok.inj hreserves, Bool.not_eq_true _ ▸ hcollateral, hreserve, h⟩
  · rintro ⟨data, userReserves, n, reserve, hdata, hhf, hreserves, hcollateral, hreserve, h⟩
    rw [evaluateBorrower, Program.eval_bind]
    change (Except.ok (answer (.getUserAccountData borrower)) >>= _) = _
    rw [hdata]
    change (if wad ≤ data.2.2.2.2.2 then _ else _ : Program aaveCalls Panic _).eval answer = _
    rw [if_neg hhf, Program.eval_bind]
    change (Except.ok (answer (.getUserReservesData config.poolAddressProvider borrower)) >>= _) = _
    rw [hreserves]
    change (if (collateralPositions userReserves).isEmpty then _ else _ :
      Program aaveCalls Panic _).eval answer = _
    rw [hcollateral, if_neg Bool.false_ne_true, Program.eval_bind, hreserve]
    exact h

/-- What a scan finds for a borrower, a refresh finds again. -/
lemma refresh_of_evaluateTracked
    (h : (evaluateTracked T config borrower).eval answer = .ok (some profile)) :
    (refreshBorrower T config profile.identity).eval answer = .ok (.ok profile) := by
  obtain ⟨data, userReserves, n, reserve, hdata, hhf, hreserves, hcollateral, -, hprofile⟩ :=
    eval_evaluateBorrower_iff.mp h
  have hrefresh : (evaluateBorrower T config borrower (some reserve)).eval answer
      = .ok (some profile) :=
    eval_evaluateBorrower_iff.mpr
      ⟨data, userReserves, n, reserve, hdata, hhf, hreserves, hcollateral, rfl, hprofile⟩
  rw [identity_of_evaluateReserve hprofile, refreshBorrower, TrackerIdentity.fromStr_toStringId]
  dsimp only
  rw [Program.eval_bind, hrefresh]
  rfl

end AaveProtocolAdapter

/-! ### Morpho -/

namespace MorphoProtocolAdapter

variable {T : EthersText} {config : MorphoConfig} {answer : (op : MorphoOp) → op.Reply}
  {identity : Text} {profile : BorrowerProfile}

/-- A position that is fetched has borrow shares. -/
lemma shares_of_fetchPosition {marketId : H256} {borrower : Address}
    {fetched : Position × Market × (Address × Address × Address × Address × U256) × U256}
    (h : (fetchPosition marketId borrower).eval answer = .ok (some fetched)) :
    ∃ reply : U256 × U128 × U128, answer (.position marketId borrower) = some reply ∧
      reply.2.1 ≠ 0 := by
  rw [fetchPosition, Program.eval_bind_eq_ok_iff] at h
  obtain ⟨posRes, hposition, h⟩ := h
  rw [Program.eval_bind_eq_ok_iff] at h
  obtain ⟨marketRes, -, h⟩ := h
  rw [Program.eval_bind_eq_ok_iff] at h
  obtain ⟨paramsRes, -, h⟩ := h
  split at h
  · split at h
    · cases h
    · next hshares => exact ⟨_, Except.ok.inj hposition, hshares⟩
  · cases h

/-- A profile carries the text it was evaluated for, which names a position with borrow shares. -/
lemma identity_of_evaluateTarget
    (h : (evaluateTarget T config identity).eval answer = .ok (some profile)) :
    profile.identity = identity ∧ ∃ marketId borrower, ∃ reply : U256 × U128 × U128,
      TrackerIdentity.fromStr T identity = .ok (.morphoBlue marketId borrower) ∧
      answer (.position marketId borrower) = some reply ∧ reply.2.1 ≠ 0 := by
  rw [evaluateTarget] at h
  split at h
  · next marketId borrower hidentity =>
    rw [Program.eval_bind_eq_ok_iff] at h
    obtain ⟨fetched, hfetched, h⟩ := h
    cases fetched with
    | none => cases h
    | some fetched =>
      obtain ⟨reply, hreply, hshares⟩ := shares_of_fetchPosition hfetched
      refine ⟨?_, marketId, borrower, reply, hidentity, hreply, hshares⟩
      dsimp only at h
      rw [Program.eval_bind_eq_ok_iff] at h
      obtain ⟨target, -, h⟩ := h
      cases target with
      | none => cases h
      | some target =>
        dsimp only at h
        split at h
        · cases h
        · rw [Program.eval_bind_eq_ok_iff] at h
          obtain ⟨srcDecimals, -, h⟩ := h
          rw [Program.eval_bind_eq_ok_iff] at h
          obtain ⟨destDecimals, -, h⟩ := h
          split at h
          · cases h
            rfl
          · cases h
  · cases h

/-- What a scan finds for a position, a refresh finds again. -/
lemma refresh_of_evaluateTarget
    (h : (evaluateTarget T config identity).eval answer = .ok (some profile)) :
    (refreshBorrower T config profile.identity).eval answer = .ok (.ok profile) := by
  obtain ⟨hsame, marketId, borrower, reply, hidentity, hreply, hshares⟩ :=
    identity_of_evaluateTarget h
  have hrefresh : (refreshTarget T config identity).eval answer = .ok (.ok profile) := by
    rw [refreshTarget, Program.eval_bind, h]
    rfl
  rw [hsame, refreshBorrower, hidentity]
  dsimp only
  rw [Program.eval_bind]
  change (Except.ok (answer (.position marketId borrower)) >>= _) = _
  rw [hreply]
  change (if reply.2.1 = 0 then _ else _ : Program morphoCalls Panic _).eval answer = _
  rw [if_neg hshares]
  exact hrefresh

end MorphoProtocolAdapter

/-! ### Agreement -/

/-- A refresh that finds again what an evaluation finds, finds again what a scan has collected. -/
lemma refresh_of_collected {I : Interface} {W α : Type} {respond : Responder I W}
    {happens : W → W → Prop} {body : α → Program I Panic (Option BorrowerProfile)}
    {refresh : Text → Program I Panic (Except String BorrowerProfile)} {n : ℕ}
    {trackedIdentities : List Text} {order : List α}
    {pool : Pool I Panic α (Option BorrowerProfile)} {start end' later : W}
    (hstable : respond.Stable) (hkeeps : respond.Keeps happens)
    (hrefresh : ∀ answer a profile, (body a).eval answer = .ok (some profile) →
      (refresh profile.identity).eval answer = .ok (.ok profile))
    (hrun : Run (Pool.SharedStep respond happens body n)
      (fetchStart trackedIdentities order, start) (pool, end'))
    (hlater : Run happens end' later) {profile : BorrowerProfile}
    (hmem : profile ∈ collectCandidates pool) :
    ((refresh profile.identity).exec respond later).1 = .ok (.ok profile) := by
  obtain ⟨inputs, hinputs⟩ := exists_fetchStart trackedIdentities order
  obtain ⟨a, hfinished⟩ := mem_collectCandidates.mp hmem
  rw [hinputs] at hrun
  obtain ⟨hanswer, hresults⟩ := Pool.eval_of_finished hstable hkeeps hrun
  rw [exec_fst hstable, hkeeps.run hlater, hanswer]
  exact hrefresh _ a profile (hresults a _ hfinished)

/-- On one state of the chain with every call answered, and whatever other tasks look up meanwhile:
a profile that a scan of either reader has collected is what a later refresh of its identity
returns, in every field. -/
theorem refresh_agrees (T : EthersText) (chain : ChainState) :
    (∀ (config : AaveConfig) (trackedIdentities : List Text) (order : List Address)
      (pool : Pool aaveCalls Panic Address (Option BorrowerProfile)) (start end' later : Caches),
      Run (Pool.SharedStep chain.aave chain.Called
        (AaveProtocolAdapter.evaluateTracked T config) 10)
        (fetchStart trackedIdentities order, start) (pool, end') →
      Run chain.Called end' later → ∀ profile ∈ collectCandidates pool,
      ((AaveProtocolAdapter.refreshBorrower T config profile.identity).exec chain.aave later).1
        = .ok (.ok profile)) ∧
    ∀ (config : MorphoConfig) (trackedIdentities order : List Text)
      (pool : Pool morphoCalls Panic Text (Option BorrowerProfile)) (start end' later : Caches),
      Run (Pool.SharedStep chain.morpho chain.Called
        (MorphoProtocolAdapter.evaluateTarget T config) 10)
        (fetchStart trackedIdentities order, start) (pool, end') →
      Run chain.Called end' later → ∀ profile ∈ collectCandidates pool,
      ((MorphoProtocolAdapter.refreshBorrower T config profile.identity).exec chain.morpho later).1
        = .ok (.ok profile) := by
  constructor
  · intro config trackedIdentities order pool start end' later hrun hlater profile hmem
    exact refresh_of_collected ChainState.aave_stable ChainState.aave_keeps
      (fun _ _ _ => AaveProtocolAdapter.refresh_of_evaluateTracked) hrun hlater hmem
  · intro config trackedIdentities order pool start end' later hrun hlater profile hmem
    exact refresh_of_collected ChainState.morpho_stable ChainState.morpho_keeps
      (fun _ _ _ => MorphoProtocolAdapter.refresh_of_evaluateTarget) hrun hlater hmem

/-! ### One debtor on each protocol -/

/-- On Aave one reserve that is both debt and collateral. -/
def sampleChain : ChainState where
  userAccountData _ := (0, 0, 0, 0, 0, 1)
  userReservesData _ _ := ([⟨wpol, 1, true, 1⟩], 0)
  balanceOf _ _ := 1000
  configuration _ := 10500 <<< 32
  aTokenAddress _ := .zero 20
  assetPrice _ := 100
  decimals _ := 18
  position _ _ := (0, 1000000000000000000000000, 1100000000000000000)
  market _ := (2000000000000000000, 2000000000000000000000000, 1000000000000000000,
    1000000000000000000000000, 1, 0)
  idToMarketParams _ :=
    (.ofNat 20 2, .ofNat 20 1, .ofNat 20 3, .ofNat 20 4, 860000000000000000)
  price _ := oraclePriceScale

def sampleAaveConfig : AaveConfig := ⟨.zero 20, fun _ => some (.zero 20)⟩

def sampleAaveProfile : BorrowerProfile where
  address := .zero 20
  repaidShares := none
  seizedAssets := none
  marketId := none
  debtAsset := wpol
  debtToCover := 1000
  collateralAsset := wpol
  seizeAmount := 1000
  srcDecimals := 18
  destDecimals := 18
  protocol := .aave
  identity := (TrackerIdentity.aaveV3 (.zero 20) wpol).toStringId .reference

def sampleRepay : LiquidationMode :=
  .repayShares 1000000000000000000000000 1043841336116910229

def coldCaches : Caches := ⟨fun _ => none, fun _ => none⟩

/-- The evaluations of the two debtors in a scan. -/
def sampleAaveScan : Except Panic (Option BorrowerProfile) × Caches :=
  (AaveProtocolAdapter.evaluateTracked .reference sampleAaveConfig (.zero 20)).exec
    sampleChain.aave coldCaches

def sampleMorphoScan : Except Panic (Option BorrowerProfile) × Caches :=
  (MorphoProtocolAdapter.evaluateTarget .reference .load sampleMorphoIdentity).exec
    sampleChain.morpho coldCaches

lemma sampleAaveScan_fst : sampleAaveScan.1 = .ok (some sampleAaveProfile) := by
  rw [sampleAaveScan, exec_fst ChainState.aave_stable]
  rfl

lemma sampleMorphoScan_fst : sampleMorphoScan.1
    = .ok (some (sampleMorphoProfile sampleRepay 1000000000000000000)) := by
  have hanswer : sampleChain.morpho.answer coldCaches
      = (sampleReads 1000000000000000000000000 1100000000000000000).answer := by
    funext op
    cases op <;> rfl
  rw [sampleMorphoScan, exec_fst ChainState.morpho_stable, hanswer]
  exact sample_exact

theorem refresh_agrees_sample :
    ((AaveProtocolAdapter.refreshBorrower .reference sampleAaveConfig
        sampleAaveProfile.identity).exec sampleChain.aave sampleAaveScan.2).1
      = .ok (.ok sampleAaveProfile) ∧
    ((MorphoProtocolAdapter.refreshBorrower .reference .load
        sampleMorphoIdentity).exec sampleChain.morpho sampleMorphoScan.2).1
      = .ok (.ok (sampleMorphoProfile sampleRepay 1000000000000000000)) := by
  have haave : sampleAaveScan = (.ok (some sampleAaveProfile), sampleAaveScan.2) :=
    Prod.ext sampleAaveScan_fst rfl
  have hmorpho : sampleMorphoScan
      = (.ok (some (sampleMorphoProfile sampleRepay 1000000000000000000)), sampleMorphoScan.2) :=
    Prod.ext sampleMorphoScan_fst rfl
  constructor
  · apply (refresh_agrees .reference sampleChain).1 sampleAaveConfig [sampleAaveProfile.identity]
      [.zero 20] _ coldCaches _ _ (Pool.run_single (by simp) haave) .refl
    simp [collectCandidates]
  · exact (refresh_agrees .reference sampleChain).2 .load [sampleMorphoIdentity]
      [sampleMorphoIdentity] _ coldCaches _ _ (Pool.run_single (by simp) hmorpho) .refl
      (sampleMorphoProfile sampleRepay 1000000000000000000) (by simp [collectCandidates])

end LiqRanger
