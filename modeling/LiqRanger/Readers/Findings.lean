import LiqRanger.Readers.Readings

/-!
# What a scan has seen

A scan reads the list once, and the calls of its evaluations are kept in a log. Whatever is
answered, each profile that it returns stands for a position of that list, and the log shows why: on
Aave an account below a health factor of one and a debt in the asset of the profile, on Morpho a
position that was not healthy at the price it was read with (`Fetch.shown_aave`,
`Fetch.shown_morpho`).
-/

namespace LiqRanger

open Effect Transition

/-! ### Evidence -/

/-- The calls show an account that may be liquidated and that owes the asset. -/
structure AaveEvidence (config : AaveConfig) (calls : List (Event aaveCalls))
    (borrower debtAsset : Address) : Prop where
  unhealthy : ∃ data : U256 × U256 × U256 × U256 × U256 × U256,
    (⟨.getUserAccountData borrower, .ok data⟩ : Event aaveCalls) ∈ calls ∧ data.2.2.2.2.2 < wad
  owes : ∃ vDebt, config.vdebtTokens debtAsset = some vDebt ∧
    ∃ debt : U256, (⟨.balanceOf vDebt borrower, .ok debt⟩ : Event aaveCalls) ∈ calls ∧ debt ≠ 0

/-- The calls show a position that is not healthy, in a market with this loan asset. -/
def MorphoEvidence (calls : List (Event morphoCalls)) (marketId : H256)
    (borrower debtAsset : Address) : Prop :=
  ∃ position market collateralToken oracle irm lltv price,
    (⟨.position marketId borrower, some position⟩ : Event morphoCalls) ∈ calls ∧
    (⟨.market marketId, some market⟩ : Event morphoCalls) ∈ calls ∧
    (⟨.idToMarketParams marketId, some (debtAsset, collateralToken, oracle, irm, lltv)⟩ :
      Event morphoCalls) ∈ calls ∧
    (⟨.price oracle, some price⟩ : Event morphoCalls) ∈ calls ∧
    (Position.ofReply position).borrowShares ≠ 0 ∧
    (Position.ofReply position).isHealthy (Market.ofReply market) lltv price = .ok false

lemma AaveEvidence.mono {config : AaveConfig} {calls calls' : List (Event aaveCalls)}
    {borrower debtAsset : Address} (h : AaveEvidence config calls borrower debtAsset)
    (hcalls : calls ⊆ calls') : AaveEvidence config calls' borrower debtAsset := by
  obtain ⟨⟨data, hdata, hhf⟩, vDebt, hvDebt, debt, hbalance, hdebt⟩ := h
  exact ⟨⟨data, hcalls hdata, hhf⟩, vDebt, hvDebt, debt, hcalls hbalance, hdebt⟩

lemma MorphoEvidence.mono {calls calls' : List (Event morphoCalls)} {marketId : H256}
    {borrower debtAsset : Address} (h : MorphoEvidence calls marketId borrower debtAsset)
    (hcalls : calls ⊆ calls') : MorphoEvidence calls' marketId borrower debtAsset := by
  obtain ⟨position, market, _, oracle, _, lltv, price, hposition, hmarket, hparams, hprice,
    hhealth⟩ := h
  exact ⟨position, market, _, oracle, _, lltv, price, hcalls hposition, hcalls hmarket,
    hcalls hparams, hcalls hprice, hhealth⟩

/-- What an evaluation has read is evidence. -/
lemma AaveReading.evidence {T : EthersText} {config : AaveConfig} {calls : List (Event aaveCalls)}
    {borrower reserve : Address} {profile : BorrowerProfile}
    (h : AaveReading T config calls borrower reserve profile) :
    AaveEvidence config calls borrower profile.debtAsset := by
  obtain ⟨healthFactor, debt, haccount, -⟩ := h.sized
  obtain ⟨data, hdata, rfl⟩ := haccount.account
  obtain ⟨vDebt, hvDebt, hbalance⟩ := haccount.owes
  rw [h.debtAsset_eq]
  exact ⟨⟨data, hdata, haccount.unhealthy⟩, vDebt, hvDebt, debt, hbalance, haccount.debt_ne⟩

lemma MorphoReading.evidence {calls : List (Event morphoCalls)} {marketId : H256}
    {borrower : Address} {profile : BorrowerProfile}
    (h : MorphoReading calls marketId borrower profile) :
    MorphoEvidence calls marketId borrower profile.debtAsset := by
  obtain ⟨_, _, lltv, price, -, -, hposition, -⟩ := h.sized
  obtain ⟨position, rfl, hposRes⟩ := hposition.position_read
  obtain ⟨market, rfl, hmarketRes⟩ := hposition.market_read
  obtain ⟨collateralToken, oracle, irm, hparams, hprice⟩ := hposition.price_read
  exact ⟨position, market, collateralToken, oracle, irm, lltv, price, hposRes, hmarketRes, hparams,
    hprice, hposition.borrowShares_ne, hposition.unhealthy⟩

/-! ### Fetches -/

/-- A fetch under way: the list as it was read, the evaluations, and the calls so far. -/
structure Fetch (κ : Type) (I : Interface) (α : Type) where
  list : WatchList κ
  evaluations : Pool I Panic α (Option BorrowerProfile)
  calls : List (Event I)

/-- What the readers differ in. -/
structure ReaderConfig (κ : Type) (I : Interface) (α : Type) where
  /-- A list, and what a fetch that reads it starts with. -/
  Starts : WatchList κ → Pool I Panic α (Option BorrowerProfile) → Prop
  evaluate : α → Program I Panic (Option BorrowerProfile)

def aaveReader (T : EthersText) (config : AaveConfig) : ReaderConfig Address aaveCalls Address where
  Starts w start := ∃ entries order, Visits entries w.cache ∧
    Iterates order (AaveProtocolAdapter.uniqueBorrowers T (AaveWatchList.snapshot T entries)) ∧
    start = fetchStart (AaveWatchList.snapshot T entries) order
  evaluate := AaveProtocolAdapter.evaluateTracked T config

def morphoReader (T : EthersText) (config : MorphoConfig) : ReaderConfig H256 morphoCalls Text where
  Starts w start := ∃ entries order, Visits entries w.cache ∧
    Iterates order (MorphoProtocolAdapter.uniqueIdentities (MorphoWatchList.snapshot T entries)) ∧
    start = fetchStart (MorphoWatchList.snapshot T entries) order
  evaluate := MorphoProtocolAdapter.evaluateTarget T config

namespace Fetch

variable {κ α : Type} {I : Interface} {reader : ReaderConfig κ I α} {fetch fetch' : Fetch κ I α}
  {profile : BorrowerProfile}

/-- One move of its evaluations, ten at a time. -/
def Step (reader : ReaderConfig κ I α) (fetch fetch' : Fetch κ I α) : Prop :=
  fetch'.list = fetch.list ∧
    Pool.Step (.log I) reader.evaluate 10 (fetch.evaluations, fetch.calls)
      (fetch'.evaluations, fetch'.calls)

/-- It has read its list and gone on from there. -/
def Sound (reader : ReaderConfig κ I α) (fetch : Fetch κ I α) : Prop :=
  ∃ start, reader.Starts fetch.list start ∧
    Run (Pool.Step (.log I) reader.evaluate 10) (start, []) (fetch.evaluations, fetch.calls)

lemma Sound.step (h : fetch.Sound reader) (hstep : Step reader fetch fetch') :
    fetch'.Sound reader := by
  obtain ⟨start, hstarts, hrun⟩ := h
  obtain ⟨hlist, hmove⟩ := hstep
  refine ⟨start, ?_, hrun.tail hmove⟩
  rw [hlist]
  exact hstarts

lemma Step.candidates_subset (hstep : Step reader fetch fetch') :
    collectCandidates fetch.evaluations ⊆ collectCandidates fetch'.evaluations :=
  List.filterMap_subset _ hstep.2.finished_subset

/-- The calls of an evaluation that ended are in the log. -/
lemma trace_of_candidate {trackedIdentities : List Text} {order : List α}
    {evaluate : α → Program I Panic (Option BorrowerProfile)}
    (hrun : Run (Pool.Step (.log I) evaluate 10) (fetchStart trackedIdentities order, [])
      (fetch.evaluations, fetch.calls)) (hmem : profile ∈ collectCandidates fetch.evaluations) :
    ∃ a ∈ order, ∃ t, (evaluate a).Trace t (.ok (some profile)) ∧ t ⊆ fetch.calls := by
  obtain ⟨a, ha⟩ := mem_collectCandidates.mp hmem
  have hstarted : a ∈ fetch.evaluations.started := by
    rw [Pool.started, List.append_assoc]
    exact List.mem_append_left _ (List.mem_map_of_mem ha)
  rw [fetchStart] at hrun
  split at hrun
  · cases Pool.mem_of_mem_started hrun hstarted
  · exact ⟨a, Pool.mem_of_mem_started hrun hstarted, Pool.trace_of_finished_log hrun ha⟩

/-- A profile of an Aave fetch: its borrower has a reserve on the list. -/
theorem shown_aave {T : EthersText} {config : AaveConfig} {fetch : Fetch Address aaveCalls Address}
    (h : fetch.Sound (aaveReader T config))
    (hmem : profile ∈ collectCandidates fetch.evaluations) :
    (∃ reserve, fetch.list.contains profile.address reserve = true) ∧
      AaveEvidence config fetch.calls profile.address profile.debtAsset := by
  obtain ⟨_, ⟨entries, order, hvisits, horder, rfl⟩, hrun⟩ := h
  obtain ⟨borrower, hborrower, t, htrace, ht⟩ := trace_of_candidate hrun hmem
  obtain ⟨reserve, -, hreading⟩ := AaveProtocolAdapter.reading_of_evaluateBorrower htrace
  rw [← List.mem_toFinset, horder.toFinset_eq,
    AaveProtocolAdapter.mem_uniqueBorrowers T hvisits] at hborrower
  rw [hreading.address_eq]
  exact ⟨hborrower, hreading.evidence.mono ht⟩

/-- A profile of a Morpho fetch: its position is on the list. -/
theorem shown_morpho {T : EthersText} {config : MorphoConfig} {fetch : Fetch H256 morphoCalls Text}
    (h : fetch.Sound (morphoReader T config))
    (hmem : profile ∈ collectCandidates fetch.evaluations) :
    ∃ marketId, profile.marketId = some marketId ∧
      fetch.list.contains profile.address marketId = true ∧
      MorphoEvidence fetch.calls marketId profile.address profile.debtAsset := by
  obtain ⟨_, ⟨entries, order, hvisits, horder, rfl⟩, hrun⟩ := h
  obtain ⟨identity, hidentity, t, htrace, ht⟩ := trace_of_candidate hrun hmem
  obtain ⟨marketId, borrower, hidentified, -, hreading⟩ :=
    MorphoProtocolAdapter.reading_of_evaluateTarget htrace
  rw [← List.mem_toFinset, horder.toFinset_eq,
    MorphoProtocolAdapter.mem_uniqueIdentities T hvisits] at hidentity
  obtain ⟨b, m, hcontains, rfl⟩ := hidentity
  rw [ListKind.text, TrackerIdentity.fromStr_toStringId] at hidentified
  cases hidentified
  rw [hreading.address_eq]
  exact ⟨_, hreading.marketId_eq, hcontains, hreading.evidence.mono ht⟩

end Fetch

end LiqRanger
