import LiqRanger.Pipeline.Attribution

/-!
# The position of a transaction

The pipeline with the readers behind it. Between the first simulation and the transaction the
position was read again, and was then still one that may be liquidated. The amounts in the calldata
are those of what was read: on Aave the part of the debt that may be repaid, on Morpho all shares
or all collateral (`sent_reread`).
-/

namespace LiqRanger

open Effect

/-! ### The readers behind their port -/

abbrev readerCalls : Interface := aaveCalls.sum morphoCalls

/-- Everything that is called for a payload. -/
abbrev rereadPorts : Interface := readerCalls.sum (wiredPorts Protocol)

structure Readers where
  texts : EthersText
  aave : AaveConfig
  morpho : MorphoConfig

namespace Readers

def refreshBorrower (readers : Readers) (identity : Text) :
    Protocol → Program readerCalls Panic (Except String BorrowerProfile)
  | .aave =>
    (AaveProtocolAdapter.refreshBorrower readers.texts readers.aave identity).left morphoCalls
  | .morpho =>
    (MorphoProtocolAdapter.refreshBorrower readers.texts readers.morpho identity).right aaveCalls

/-- Only the port of the readers is carried out, the other calls are made as they are. -/
def adapter (readers : Readers) : (op : (wiredPorts Protocol).Op) →
    Program rereadPorts Panic ((wiredPorts Protocol).Reply op)
  | .inl (.refreshBorrower reader identity) =>
    (readers.refreshBorrower identity reader).left (wiredPorts Protocol)
  | .inl (.getSwapQuote srcToken destToken srcDecimals destDecimals amount) =>
    .call (.inr (.inl (.getSwapQuote srcToken destToken srcDecimals destDecimals amount))) .ret
  | .inr op => .call (.inr (.inr op)) .ret

def processPayload (readers : Readers) (deployment : Deployment) (payload : LiqPayload Protocol) :
    Program rereadPorts Panic (Except Panic (Except Empty Unit)) :=
  (deployment.processPayload payload).interpret readers.adapter

/-- An evaluation of the reader has found the profile. -/
def Finds (readers : Readers) (calls : List (Event readerCalls)) (profile : BorrowerProfile) :
    Protocol → Prop
  | .aave => ∃ borrower t, calls = t.map (Event.left morphoCalls) ∧
      (AaveProtocolAdapter.evaluateTracked readers.texts readers.aave borrower).Trace t
        (.ok (some profile))
  | .morpho => ∃ identity t, calls = t.map (Event.right aaveCalls) ∧
      (MorphoProtocolAdapter.evaluateTarget readers.texts readers.morpho identity).Trace t
        (.ok (some profile))

end Readers

/-! ### The refresh before a transaction -/

/-- The reader answered with a profile. -/
def refreshedEvent {ρ : Type} (reader : ρ) (identity : Text) (profile : BorrowerProfile) :
    Event (wiredPorts ρ) :=
  .left nodePorts (⟨.refreshBorrower reader identity, .ok profile⟩ : Event (scoutPorts ρ))

/-- Before a transaction the position was read again, after a simulation that went through. -/
lemma SentFor.refreshed {ρ : Type} {deployment : Deployment} {payload : LiqPayload ρ}
    {job : LiquidationJob} {t : List (Event (ports ρ))} {before : List (Event (wiredPorts ρ))}
    {tx : Eip1559TransactionRequest} (h : SentFor deployment payload job t before tx) :
    ∃ refreshed earlier later, SizedBy payload.profile refreshed job ∧
      before =
        earlier ++ refreshedEvent payload.reader payload.profile.identity refreshed :: later ∧
      ∃ env snapshot gas, executedEvent env snapshot (.ok (.success gas)) ∈ earlier := by
  obtain ⟨refreshed, gas, reply, hrun⟩ := h.run
  have hsized := hrun.sizedBy
  obtain ⟨init, reply', heq, -, -, -, first, blockNumber, job₀, gas₀, last, hinit⟩ := hrun.before
  obtain ⟨rfl, -⟩ := List.append_inj' heq rfl
  obtain ⟨_, fees, -, -, u, hcarries, rfl⟩ := h.broadcast
  rw [hinit, hsized.identity_eq, List.append_cons] at hcarries
  obtain ⟨u₁, v, u₂, rfl, h₁, hrefresh, -⟩ := hcarries.segment
  obtain ⟨_, _, rfl, rfl, hreply⟩ := hrefresh
  cases hreply
  obtain ⟨w, hsub, hsimulate⟩ := h₁.trace_of_mem (List.mem_append_right first List.mem_cons_self)
  obtain ⟨before, env, snapshot, -, rfl⟩ := adapter_simulates hsimulate
  refine ⟨refreshed, u₁, u₂ ++ [contractEvent (FlashLiquidatorAdapter.feesEvent fees)], hsized, ?_,
    env, snapshot, gas₀, hsub (List.mem_append_right _ List.mem_cons_self)⟩
  rw [List.append_assoc, List.append_assoc]
  rfl

/-! ### What a transaction says -/

/-- What a transaction on Aave says: to cover the part of a debt that may be repaid, which the calls
show, in the reserve of the profile, and to seize its collateral. -/
structure AaveOrder (config : AaveConfig) (calls : List (Event aaveCalls))
    (profile : BorrowerProfile) (flashAmount : U256) (params : LiquidationParams) : Prop where
  mode_eq : params.mode = 0
  debtAsset_eq : params.aaveDebtAsset = profile.debtAsset
  collateralAsset_eq : params.aaveCollateral = profile.collateralAsset
  debtToCover_eq : params.aaveDebtToCover = flashAmount
  morpho_eq : params.morphoRepaidShares = 0 ∧ params.morphoSeizedAssets = 0
  sized : ∃ healthFactor debt,
    AaveAccount config calls profile.address profile.debtAsset healthFactor debt ∧
      flashAmount = repayable debt healthFactor

/-- What a transaction on Morpho says: to borrow the debt, rounded down, of a position that the
calls show, and to take all shares or all collateral of that position as it was read now or in the
scan. -/
structure MorphoOrder (scanned calls : List (Event morphoCalls)) (profile : BorrowerProfile)
    (flashAmount : U256) (params : LiquidationParams) : Prop where
  mode_eq : params.mode = 1
  aave_eq : params.aaveDebtToCover = 0
  marketId_eq : profile.marketId = some params.morphoMarketId
  sized : ∃ loanToken position market lltv price,
    MorphoPosition calls params.morphoMarketId profile.address loanToken position market lltv
      price ∧
    flashAmount.toNat = Rounding.mulDivDown position.borrowShares.toNat
      (market.totalBorrowAssets.toNat + 1) (market.totalBorrowShares.toNat + 10 ^ 6)
  takes : ∃ read, (read = scanned ∨ read = calls) ∧ ∃ loanToken position market lltv price,
    MorphoPosition read params.morphoMarketId profile.address loanToken position market lltv
      price ∧
    TakesAll position params.morphoRepaidShares params.morphoSeizedAssets

/-- The node answered to a transaction that was sent. -/
def rereadSentEvent (tx : Eip1559TransactionRequest) (answer : Except String H256) :
    Event rereadPorts :=
  .right readerCalls (sentEvent tx answer)

namespace Readers

/-- What the calls of the refresh, and those of the scan, show of a transaction. -/
def Orders (readers : Readers) (scanned calls : List (Event readerCalls))
    (profile : BorrowerProfile) (flashAmount : U256) (params : LiquidationParams) :
    Protocol → Prop
  | .aave => ∃ t, calls = t.map (Event.left morphoCalls) ∧
      AaveOrder readers.aave t profile flashAmount params
  | .morpho => ∃ t₀ t, scanned = t₀.map (Event.right aaveCalls) ∧
      calls = t.map (Event.right aaveCalls) ∧ MorphoOrder t₀ t profile flashAmount params

variable {readers : Readers} {scanned : List (Event readerCalls)} {job : LiquidationJob}
  {profile refreshed : BorrowerProfile}

lemma delegates_adapter : Delegates (I := wiredPorts Protocol) (J := readerCalls)
    readers.adapter := by
  intro op
  match op with
  | .inl (.refreshBorrower ..) => exact Or.inl ⟨_, rfl⟩
  | .inl (.getSwapQuote ..) => exact Or.inr rfl
  | .inr op => exact Or.inr rfl

/-- On Aave the refresh is of the account and the reserve of the scan. -/
lemma aave_order {t : List (Event aaveCalls)} (hfinds : readers.Finds scanned profile .aave)
    (hsized : SizedBy profile refreshed job)
    (hrefresh : (AaveProtocolAdapter.refreshBorrower readers.texts readers.aave
      profile.identity).Trace t (.ok (.ok refreshed))) :
    AaveOrder readers.aave t profile job.debtToCover job.params ∧ job.debtToCover ≠ 0 := by
  obtain ⟨borrower, t₀, rfl, hfound⟩ := hfinds
  obtain ⟨reserve, -, hscan⟩ := AaveProtocolAdapter.reading_of_evaluateBorrower hfound
  obtain ⟨borrower', reserve', hidentity, hread⟩ :=
    AaveProtocolAdapter.reading_of_refreshBorrower hrefresh
  rw [hscan.identity_eq, TrackerIdentity.fromStr_toStringId] at hidentity
  cases hidentity
  have hprotocol : job.protocol = .aave := hsized.protocol_eq.trans hscan.protocol_eq
  have hnone : job.repaidShares = none ∧ job.seizedAssets = none := by
    rcases hsized.amounts with ⟨hrepaid, hseized⟩ | ⟨hrepaid, hseized⟩
    · exact ⟨hrepaid.trans hscan.repaidShares_eq, hseized.trans hscan.seizedAssets_eq⟩
    · exact ⟨hrepaid.trans hread.repaidShares_eq, hseized.trans hread.seizedAssets_eq⟩
  obtain ⟨healthFactor, debt, haccount, hdebt⟩ := hread.sized
  refine ⟨⟨?_, ?_, ?_, ?_, ?_, healthFactor, debt, ?_, hsized.debtToCover_eq.trans hdebt⟩, ?_⟩
  · simp [LiquidationJob.params, hprotocol]
  · simp [LiquidationJob.params, hprotocol, hsized.debtAsset_eq]
  · rw [job.params_aaveCollateral hprotocol, hsized.collateralAsset_eq]
  · simp [LiquidationJob.params, hprotocol]
  · simp [hnone]
  · rw [hscan.address_eq, hscan.debtAsset_eq]
    exact haccount
  · rw [hsized.debtToCover_eq]
    exact hread.debtToCover_ne

/-- On Morpho it is of the position of the scan. -/
lemma morpho_order {t₀ t : List (Event morphoCalls)} {identity : Text}
    (hfound : (MorphoProtocolAdapter.evaluateTarget readers.texts readers.morpho identity).Trace t₀
      (.ok (some profile)))
    (hsized : SizedBy profile refreshed job)
    (hrefresh : (MorphoProtocolAdapter.refreshBorrower readers.texts readers.morpho
      profile.identity).Trace t (.ok (.ok refreshed))) :
    MorphoOrder t₀ t profile job.debtToCover job.params ∧ job.debtToCover ≠ 0 := by
  obtain ⟨marketId, borrower, hscanned, hsame, hscan⟩ :=
    MorphoProtocolAdapter.reading_of_evaluateTarget hfound
  obtain ⟨marketId', borrower', hidentity, hread⟩ :=
    MorphoProtocolAdapter.reading_of_refreshBorrower hrefresh
  rw [hsame, hscanned] at hidentity
  cases hidentity
  have hprotocol : job.protocol = .morpho := hsized.protocol_eq.trans hscan.protocol_eq
  have hmarket : job.params.morphoMarketId = marketId := by
    rw [LiquidationJob.params_morphoMarketId, hsized.marketId_eq, hscan.marketId_eq,
      Option.getD_some]
  obtain ⟨position, market, lltv, price, -, -, hposition, hdebt, -⟩ := hread.sized
  refine ⟨⟨?_, ?_, ?_, ⟨refreshed.debtAsset, position, market, lltv, price, ?_, ?_⟩, ?_⟩, ?_⟩
  · simp [LiquidationJob.params, hprotocol]
  · simp [LiquidationJob.params, hprotocol]
  · rw [hscan.marketId_eq, hmarket]
  · rw [hmarket, hscan.address_eq]
    exact hposition
  · rw [hsized.debtToCover_eq]
    exact hdebt
  · rw [LiquidationJob.params_morphoRepaidShares, LiquidationJob.params_morphoSeizedAssets, hmarket,
      hscan.address_eq]
    rcases hsized.amounts with ⟨hrepaid, hseized⟩ | ⟨hrepaid, hseized⟩
    · obtain ⟨position, market, lltv, price, repaidShares, seizedAssets, hposition, -, hshares,
        hassets, htakes⟩ := hscan.sized
      rw [hrepaid, hseized, hshares, hassets]
      exact ⟨t₀, Or.inl rfl, _, position, market, lltv, price, hposition, htakes⟩
    · obtain ⟨position, market, lltv, price, repaidShares, seizedAssets, hposition, -, hshares,
        hassets, htakes⟩ := hread.sized
      rw [hrepaid, hseized, hshares, hassets]
      exact ⟨t, Or.inr rfl, _, position, market, lltv, price, hposition, htakes⟩
  · rw [hsized.debtToCover_eq]
    exact hread.debtToCover_ne

instance (op : rereadPorts.Op) : Nonempty (rereadPorts.Reply op) := by
  rcases op with (aave | morpho) | op
  · cases aave <;> exact ⟨.error ""⟩
  · cases morpho <;> exact ⟨none⟩
  · exact inferInstanceAs (Nonempty ((wiredPorts Protocol).Reply op))

/-- At any moment of the work on a payload that a scan has found, over the readers and the other
adapters and whatever is answered: before a transaction the position was read again, after a
simulation that went through, and these calls show that it may still be liquidated. The calldata
names the borrower, and its amounts are those of what was read. -/
theorem sent_reread (readers : Readers) (deployment : Deployment) (payload : LiqPayload Protocol)
    (scanned : List (Event readerCalls))
    (hfinds : readers.Finds scanned payload.profile payload.reader)
    (u : List (Event rereadPorts))
    (rest : Program rereadPorts Panic (Except Panic (Except Empty Unit)))
    (h : (readers.processPayload deployment payload).After u rest)
    (before : List (Event rereadPorts)) (tx : Eip1559TransactionRequest)
    (answer : Except String H256) (after : List (Event rereadPorts))
    (hu : u = before ++ rereadSentEvent tx answer :: after) :
    ∃ earlier calls later flashAmount params,
      before = earlier ++ calls.map (Event.left (wiredPorts Protocol)) ++ later ∧
      (∃ env snapshot gas,
        .right readerCalls (executedEvent env snapshot (.ok (.success gas))) ∈ earlier) ∧
      deployment.abi.decode tx.data = some (flashAmount, params) ∧ flashAmount ≠ 0 ∧
      params.borrower = payload.profile.address ∧ params.flashAsset = payload.profile.debtAsset ∧
      readers.Orders scanned calls payload.profile flashAmount params payload.reader := by
  obtain ⟨v, o, htrace⟩ := h.exists_trace
  rw [hu, List.append_assoc, List.cons_append] at htrace
  obtain ⟨t, t', o', hwired, hcarries⟩ := delegates_adapter.exists_outer htrace rfl
  obtain ⟨-, job, tp, hsent⟩ := exists_sentFor hwired rfl
  obtain ⟨refreshed, t₁, t₂, hsized, rfl, env, snapshot, gas, hexecuted⟩ := hsent.refreshed
  obtain ⟨_, _, -, htx, -⟩ := hsent.broadcast
  obtain ⟨earlier, w, later, rfl, h₁, hrefresh, -⟩ := hcarries.segment
  obtain ⟨calls, rfl, hcalls⟩ := Program.trace_left.mp hrefresh
  refine ⟨earlier, calls, later, job.debtToCover, job.params, rfl,
    ⟨env, snapshot, gas, h₁.mem_right hexecuted rfl⟩,
    deployment.abi.decode_encode _ _ _ htx.data_eq, ?_⟩
  rw [LiquidationJob.params_borrower, LiquidationJob.params_flashAsset, hsized.borrower_eq,
    hsized.debtAsset_eq]
  obtain ⟨profile, reader, blockNumber⟩ := payload
  cases reader with
  | aave =>
    obtain ⟨t, rfl, hread⟩ := Program.trace_left.mp hcalls
    obtain ⟨horder, hne⟩ := aave_order hfinds hsized hread
    exact ⟨hne, rfl, rfl, t, rfl, horder⟩
  | morpho =>
    obtain ⟨t, rfl, hread⟩ := Program.trace_right.mp hcalls
    obtain ⟨identity, t₀, rfl, hfound⟩ := hfinds
    obtain ⟨horder, hne⟩ := morpho_order hfound hsized hread
    exact ⟨hne, rfl, rfl, t₀, t, rfl, rfl, horder⟩

/-! ### A position that is read again -/

def sampleReaders : Readers := ⟨.reference, sampleAaveConfig, .load⟩

/-- It is not a reader that is called. -/
def isPassed (e : Event (wiredPorts Protocol)) : Bool :=
  match e.op with
  | .inl (.refreshBorrower ..) => false
  | _ => true

lemma adapter_of_passed {e : Event (wiredPorts Protocol)} (h : isPassed e = true) :
    readers.adapter e.op = .call (.inr e.op) .ret := by
  obtain ⟨op, r⟩ := e
  match op with
  | .inl (.refreshBorrower ..) => cases h
  | .inl (.getSwapQuote ..) => rfl
  | .inr op => rfl

lemma carriesOut_passed {t : List (Event (wiredPorts Protocol))} (h : t.all isPassed = true) :
    CarriesOut readers.adapter t (t.map (Event.right readerCalls)) :=
  carriesOut_right fun e he => adapter_of_passed (List.all_eq_true.mp h e he)

/-- The sample position is found, and read again. -/
lemma exists_sampleReread : ∃ t₀ t : List (Event morphoCalls),
    (MorphoProtocolAdapter.evaluateTarget .reference .load sampleMorphoIdentity).Trace t₀
      (.ok (some Ranger.sampleFound)) ∧
    (MorphoProtocolAdapter.refreshBorrower .reference .load sampleMorphoIdentity).Trace t
      (.ok (.ok Ranger.sampleFound)) := by
  obtain ⟨t₀, hfound, -⟩ := Program.exists_trace_eval
    (sampleReads 1000000000000000000000000 1100000000000000000).answer
    (MorphoProtocolAdapter.evaluateTarget .reference .load sampleMorphoIdentity)
  obtain ⟨t, hread, -⟩ := Program.exists_trace_eval
    (sampleReads 1000000000000000000000000 1100000000000000000).answer
    (MorphoProtocolAdapter.refreshBorrower .reference .load sampleMorphoIdentity)
  rw [sample_exact] at hfound
  have hrefresh := MorphoProtocolAdapter.refresh_of_evaluateTarget sample_exact
  change (MorphoProtocolAdapter.refreshBorrower .reference .load sampleMorphoIdentity).eval _ = _
    at hrefresh
  rw [hrefresh] at hread
  exact ⟨t₀, t, hfound, hread⟩

theorem sent_reread_sample : ∃ (scanned calls : List (Event readerCalls)) (flashAmount : U256)
    (params : LiquidationParams),
    sampleDeployment.abi.decode Ranger.samplePushTx.data = some (flashAmount, params) ∧
      sampleReaders.Orders scanned calls Ranger.sampleFound flashAmount params .morpho := by
  obtain ⟨t₀, t, hfound, hread⟩ := exists_sampleReread
  have hrefresh : (sampleReaders.adapter (.inl (.refreshBorrower .morpho
      sampleMorphoIdentity))).Trace ((t.map (Event.right aaveCalls)).map (Event.left
        (wiredPorts Protocol))) (.ok (.ok Ranger.sampleFound)) :=
    Program.trace_left.mpr ⟨_, rfl, Program.trace_right.mpr ⟨t, rfl, hread⟩⟩
  have hcarries : CarriesOut sampleReaders.adapter (Ranger.samplePushScouted ++ _ :: _) _ :=
    (carriesOut_passed rfl).append (.cons hrefresh (carriesOut_passed
      (t := .right (scoutPorts Protocol) (.right simulatorPorts Ranger.samplePushFees) ::
        sentEvent Ranger.samplePushTx (.ok (.zero 32)) :: Ranger.samplePushAfter) rfl))
  have htrace : (sampleReaders.processPayload sampleDeployment Ranger.samplePush).Trace _
      (.ok (.ok (.ok ()))) :=
    Program.trace_interpret.mpr (Or.inl ⟨_, _, Ranger.samplePush_trace, hcarries, rfl⟩)
  obtain ⟨-, calls, -, flashAmount, params, -, -, hdecode, -, -, -, horders⟩ :=
    sent_reread sampleReaders sampleDeployment Ranger.samplePush _
      ⟨sampleMorphoIdentity, t₀, rfl, hfound⟩ _ _ (.of_trace htrace)
      (Ranger.samplePushScouted.map (Event.right readerCalls) ++ (_ ++ [_])) Ranger.samplePushTx
      (.ok (.zero 32)) _ (by rw [List.append_assoc, List.append_assoc]; rfl)
  exact ⟨_, calls, flashAmount, params, hdecode, horders⟩

end Readers

end LiqRanger
