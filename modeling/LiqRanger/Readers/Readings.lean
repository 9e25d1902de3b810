import LiqRanger.Aave.Selection
import LiqRanger.Morpho.Sizing
import LiqRanger.Readers.Scan

/-!
# What an evaluation has read

A profile and the calls that led to it. On Aave they are those of an account below a health factor
of one with a debt in the reserve of the profile, of which half or all is to be covered
(`reading_of_evaluateBorrower`); on Morpho those of a position that was not healthy at the price it
was read with, of which all shares are to be repaid or all collateral is to be seized
(`reading_of_evaluateTarget`). A scan and a refresh read the same.
-/

namespace LiqRanger

open Effect

/-- A part that must return for the whole to return. -/
lemma trace_bind_returns {I : Interface} {α β : Type} {p : Program I Panic α}
    {f : α → Program I Panic β} {t : List (Event I)} {b : β} :
    (p >>= f).Trace t (.ok b) ↔
      ∃ t₁ t₂ a, t = t₁ ++ t₂ ∧ p.Trace t₁ (.ok a) ∧ (f a).Trace t₂ (.ok b) := by
  rw [Program.trace_bind]
  constructor
  · rintro (⟨e, -, he⟩ | h)
    · cases he
    · exact h
  · exact Or.inr

/-! ### The close factor -/

/-- What may be repaid of a debt: all of it below a health factor of 0.95, else half of it. -/
def repayable (debt healthFactor : U256) : U256 :=
  if healthFactor < 950000000000000000 then debt else debt / 2

lemma closeFactorBps_eq {healthFactor : U256} {factor : U128}
    (h : closeFactorBps healthFactor = .ok factor) :
    factor = if healthFactor < 950000000000000000 then bps else bps / 2 := by
  rw [closeFactorBps, Checked.bind_eq_ok_iff] at h
  obtain ⟨scaled, hscaled, h⟩ := h
  rw [Checked.bind_eq_ok_iff] at h
  obtain ⟨threshold, hthreshold, h⟩ := h
  rw [U256.mul_eq_ok_iff] at hscaled
  rw [U256.div_eq_ok_iff, hscaled] at hthreshold
  have hvalue : threshold = 950000000000000000 := BitVec.eq_of_toNat_eq hthreshold.2
  rw [hvalue] at h
  exact (Except.ok.inj h).symm

lemma applyCloseFactor_eq {debt healthFactor r : U256}
    (h : applyCloseFactor debt healthFactor = .ok r) : r = repayable debt healthFactor := by
  rw [applyCloseFactor, Checked.bind_eq_ok_iff] at h
  obtain ⟨factor, hfactor, h⟩ := h
  rw [Checked.bind_eq_ok_iff] at h
  obtain ⟨scaled, hscaled, h⟩ := h
  rw [U256.mul_eq_ok_iff] at hscaled
  rw [U256.div_eq_ok_iff, hscaled, closeFactorBps_eq hfactor] at h
  have hbps : (bps.setWidth 256 : U256).toNat = 10000 := by decide
  have hhalf : ((bps / 2).setWidth 256 : U256).toNat = 5000 := by decide
  rw [hbps] at h
  apply BitVec.eq_of_toNat_eq
  rw [h.2, repayable]
  split
  · rw [hbps, Nat.mul_div_cancel _ (by decide)]
  · rw [hhalf, BitVec.toNat_udiv]
    exact Nat.mul_div_mul_right debt.toNat 2 (by decide)

/-! ### Aave -/

/-- The calls show an account that may be liquidated, and what it owes in a reserve. -/
structure AaveAccount (config : AaveConfig) (calls : List (Event aaveCalls))
    (borrower reserve : Address) (healthFactor debt : U256) : Prop where
  account : ∃ data : U256 × U256 × U256 × U256 × U256 × U256,
    (⟨.getUserAccountData borrower, .ok data⟩ : Event aaveCalls) ∈ calls ∧
      data.2.2.2.2.2 = healthFactor
  unhealthy : healthFactor < wad
  owes : ∃ vDebt, config.vdebtTokens reserve = some vDebt ∧
    (⟨.balanceOf vDebt borrower, .ok debt⟩ : Event aaveCalls) ∈ calls
  debt_ne : debt ≠ 0

/-- The calls show why the profile asks for what it asks for. -/
structure AaveReading (T : EthersText) (config : AaveConfig) (calls : List (Event aaveCalls))
    (borrower reserve : Address) (profile : BorrowerProfile) : Prop where
  address_eq : profile.address = borrower
  debtAsset_eq : profile.debtAsset = reserve
  repaidShares_eq : profile.repaidShares = none
  seizedAssets_eq : profile.seizedAssets = none
  protocol_eq : profile.protocol = .aave
  identity_eq : profile.identity = (TrackerIdentity.aaveV3 borrower reserve).toStringId T
  debtToCover_ne : profile.debtToCover ≠ 0
  sized : ∃ healthFactor debt, AaveAccount config calls borrower reserve healthFactor debt ∧
    profile.debtToCover = repayable debt healthFactor

lemma AaveAccount.mono {config : AaveConfig} {calls calls' : List (Event aaveCalls)}
    {borrower reserve : Address} {healthFactor debt : U256}
    (h : AaveAccount config calls borrower reserve healthFactor debt) (hcalls : calls ⊆ calls') :
    AaveAccount config calls' borrower reserve healthFactor debt where
  account := h.account.imp fun _ hdata => ⟨hcalls hdata.1, hdata.2⟩
  unhealthy := h.unhealthy
  owes := h.owes.imp fun _ hvDebt => ⟨hvDebt.1, hcalls hvDebt.2⟩
  debt_ne := h.debt_ne

namespace AaveProtocolAdapter

variable {T : EthersText} {config : AaveConfig} {borrower reserve : Address} {hf : U256}
  {collaterals : List UserReserveData} {profile : BorrowerProfile} {t : List (Event aaveCalls)}

/-- A debt to cover is a part of a balance. -/
lemma sized_of_computeDebtToCover {vDebt : Address} {debtToCover : U256}
    (h : (computeDebtToCover borrower vDebt hf).run.Trace t (.ok (.ok debtToCover)))
    (hne : debtToCover ≠ 0) :
    ∃ debt : U256, (⟨.balanceOf vDebt borrower, .ok debt⟩ : Event aaveCalls) ∈ t ∧ debt ≠ 0 ∧
      debtToCover = repayable debt hf := by
  obtain ⟨t₁, t₂, debt, rfl, hbalance, h⟩ := AaveM.trace_bind_ok.mp h
  have hcall := AaveM.trace_call_ok.mp hbalance
  refine ⟨debt, by simp [hcall], ?_⟩
  by_cases hzero : debt = 0
  · simp only [if_pos hzero, AaveM.trace_pure, Except.ok.injEq] at h
    exact absurd h.2 hne
  · simp only [if_neg hzero] at h
    obtain ⟨-, happly⟩ := AaveM.trace_ofFallible.mp h
    cases hclose : applyCloseFactor debt hf with
    | error p =>
      rw [hclose] at happly
      cases happly
    | ok r =>
      rw [hclose] at happly
      cases happly
      exact ⟨hzero, applyCloseFactor_eq hclose⟩

/-- What is known of the profile of a reserve, for the health factor it was evaluated with. -/
lemma reading_of_evaluateReserve {data : U256 × U256 × U256 × U256 × U256 × U256}
    {calls : List (Event aaveCalls)} (ht : t ⊆ calls)
    (hdata : (⟨.getUserAccountData borrower, .ok data⟩ : Event aaveCalls) ∈ calls)
    (hhf : data.2.2.2.2.2 < wad)
    (h : (evaluateReserve T config borrower data.2.2.2.2.2 collaterals reserve).Trace t
      (.ok (some profile))) :
    AaveReading T config calls borrower reserve profile := by
  rw [evaluateReserve] at h
  split at h
  · cases h.2
  · next vDebt hvDebt =>
    obtain ⟨t₁, t₂, debtToCover, rfl, hdebt, h⟩ := trace_bind_returns.mp h
    cases debtToCover with
    | error e => cases h.2
    | ok debtToCover =>
      dsimp only at h
      split at h
      · cases h.2
      · next hne =>
        obtain ⟨debt, hbalance, hdebt, hsized⟩ := sized_of_computeDebtToCover hdebt hne
        obtain ⟨t₃, t₄, candidate, rfl, -, h⟩ := trace_bind_returns.mp h
        cases candidate with
        | error e => cases h.2
        | ok candidate =>
          obtain ⟨t₅, t₆, decimals, rfl, -, h⟩ := trace_bind_returns.mp h
          cases decimals with
          | error e => cases h.2
          | ok decimals =>
            obtain ⟨rfl, hprofile⟩ := h
            cases hprofile
            have haccount : AaveAccount config calls borrower reserve data.2.2.2.2.2 debt :=
              ⟨⟨data, hdata, rfl⟩, hhf, ⟨vDebt, hvDebt, ht (List.mem_append_left _ hbalance)⟩,
                hdebt⟩
            exact ⟨rfl, rfl, rfl, rfl, rfl, rfl, hne, _, debt, haccount, hsized⟩

/-- An evaluation that gives a profile, of the given reserve or of one that it finds. -/
theorem reading_of_evaluateBorrower {targetReserve : Option Address}
    (h : (evaluateBorrower T config borrower targetReserve).Trace t (.ok (some profile))) :
    ∃ reserve, (∀ target, targetReserve = some target → reserve = target) ∧
      AaveReading T config t borrower reserve profile := by
  rw [evaluateBorrower] at h
  obtain ⟨t₁, t₂, data, rfl, hdata, h⟩ := trace_bind_returns.mp h
  have hcall := AaveM.trace_call_ok.mp hdata
  cases data with
  | error e => cases h.2
  | ok data =>
    dsimp only at h
    split at h
    · cases h.2
    · next hhf =>
      obtain ⟨t₃, t₄, reserves, rfl, -, h⟩ := trace_bind_returns.mp h
      cases reserves with
      | error e => cases h.2
      | ok reserves =>
        dsimp only at h
        split at h
        · cases h.2
        · obtain ⟨t₅, t₆, found, rfl, hfound, h⟩ := trace_bind_returns.mp h
          cases found with
          | none => cases h.2
          | some reserve =>
            refine ⟨reserve, ?_, reading_of_evaluateReserve (fun e he => ?_) ?_
              (BitVec.not_le.mp hhf) h⟩
            · rintro target rfl
              cases hfound.2
              rfl
            · simp [he]
            · simp [hcall]

/-- A refresh evaluates the position that the identity names. -/
lemma reading_of_refreshBorrower {identity : Text}
    (h : (refreshBorrower T config identity).Trace t (.ok (.ok profile))) :
    ∃ borrower reserve, TrackerIdentity.fromStr T identity = .ok (.aaveV3 borrower reserve) ∧
      AaveReading T config t borrower reserve profile := by
  rw [refreshBorrower] at h
  split at h
  · next borrower reserve hidentity =>
    obtain ⟨t₁, t₂, found, rfl, hfound, h⟩ := trace_bind_returns.mp h
    cases found with
    | none => cases h.2
    | some found =>
      obtain ⟨rfl, hprofile⟩ := h
      cases hprofile
      obtain ⟨reserve', htarget, hreading⟩ := reading_of_evaluateBorrower hfound
      obtain rfl := htarget reserve rfl
      rw [List.append_nil]
      exact ⟨borrower, reserve', hidentity, hreading⟩
  · cases h.2

end AaveProtocolAdapter

/-! ### Morpho -/

def Position.ofReply (reply : U256 × U128 × U128) : Position := ⟨reply.2.1, reply.2.2⟩

def Market.ofReply (reply : U128 × U128 × U128 × U128 × U128 × U128) : Market :=
  ⟨reply.2.2.1, reply.2.2.2.1⟩

/-- The calls show a position with a debt that is not healthy, in a market with this loan asset. -/
structure MorphoPosition (calls : List (Event morphoCalls)) (marketId : H256)
    (borrower debtAsset : Address) (position : Position) (market : Market) (lltv price : U256) :
    Prop where
  position_read : ∃ reply, position = .ofReply reply ∧
    (⟨.position marketId borrower, some reply⟩ : Event morphoCalls) ∈ calls
  market_read : ∃ reply, market = .ofReply reply ∧
    (⟨.market marketId, some reply⟩ : Event morphoCalls) ∈ calls
  price_read : ∃ collateralToken oracle irm,
    (⟨.idToMarketParams marketId, some (debtAsset, collateralToken, oracle, irm, lltv)⟩ :
      Event morphoCalls) ∈ calls ∧
    (⟨.price oracle, some price⟩ : Event morphoCalls) ∈ calls
  borrowShares_ne : position.borrowShares ≠ 0
  unhealthy : position.isHealthy market lltv price = .ok false

lemma MorphoPosition.mono {calls calls' : List (Event morphoCalls)} {marketId : H256}
    {borrower debtAsset : Address} {position : Position} {market : Market} {lltv price : U256}
    (h : MorphoPosition calls marketId borrower debtAsset position market lltv price)
    (hcalls : calls ⊆ calls') :
    MorphoPosition calls' marketId borrower debtAsset position market lltv price where
  position_read := h.position_read.imp fun _ hreply => ⟨hreply.1, hcalls hreply.2⟩
  market_read := h.market_read.imp fun _ hreply => ⟨hreply.1, hcalls hreply.2⟩
  price_read := by
    obtain ⟨collateralToken, oracle, irm, hparams, hprice⟩ := h.price_read
    exact ⟨collateralToken, oracle, irm, hcalls hparams, hcalls hprice⟩
  borrowShares_ne := h.borrowShares_ne
  unhealthy := h.unhealthy

/-- All shares are to be repaid, or all collateral is to be seized. -/
def TakesAll (position : Position) (repaidShares seizedAssets : U256) : Prop :=
  (repaidShares = position.borrowShares.setWidth 256 ∧ repaidShares ≠ 0 ∧ seizedAssets = 0) ∨
    (repaidShares = 0 ∧ seizedAssets = position.collateral.setWidth 256 ∧ seizedAssets ≠ 0)

/-- The calls show why the profile asks for what it asks for. -/
structure MorphoReading (calls : List (Event morphoCalls)) (marketId : H256) (borrower : Address)
    (profile : BorrowerProfile) : Prop where
  address_eq : profile.address = borrower
  marketId_eq : profile.marketId = some marketId
  protocol_eq : profile.protocol = .morpho
  debtToCover_ne : profile.debtToCover ≠ 0
  sized : ∃ position market lltv price repaidShares seizedAssets,
    MorphoPosition calls marketId borrower profile.debtAsset position market lltv price ∧
    profile.debtToCover.toNat = Rounding.mulDivDown position.borrowShares.toNat
      (market.totalBorrowAssets.toNat + 1) (market.totalBorrowShares.toNat + 10 ^ 6) ∧
    profile.repaidShares = some repaidShares ∧ profile.seizedAssets = some seizedAssets ∧
    TakesAll position repaidShares seizedAssets

lemma MorphoReading.mono {calls calls' : List (Event morphoCalls)} {marketId : H256}
    {borrower : Address} {profile : BorrowerProfile}
    (h : MorphoReading calls marketId borrower profile) (hcalls : calls ⊆ calls') :
    MorphoReading calls' marketId borrower profile where
  address_eq := h.address_eq
  marketId_eq := h.marketId_eq
  protocol_eq := h.protocol_eq
  debtToCover_ne := h.debtToCover_ne
  sized := by
    obtain ⟨position, market, lltv, price, repaidShares, seizedAssets, hposition, hrest⟩ := h.sized
    exact ⟨position, market, lltv, price, repaidShares, seizedAssets, hposition.mono hcalls, hrest⟩

namespace MorphoProtocolAdapter

variable {T : EthersText} {config : MorphoConfig} {identity : Text} {profile : BorrowerProfile}
  {t : List (Event morphoCalls)}

/-- The four calls of a position that is fetched. -/
lemma calls_of_fetchPosition {marketId : H256} {borrower : Address} {position : Position}
    {market : Market} {params : Address × Address × Address × Address × U256} {price : U256}
    (h : (fetchPosition marketId borrower).Trace t (.ok (some (position, market, params, price)))) :
    position.borrowShares ≠ 0 ∧ ∃ posRes marketRes, position = .ofReply posRes ∧
      market = .ofReply marketRes ∧
      t = [⟨.position marketId borrower, some posRes⟩, ⟨.market marketId, some marketRes⟩,
        ⟨.idToMarketParams marketId, some params⟩, ⟨.price params.2.2.1, some price⟩] := by
  obtain ⟨posRes, _, rfl, marketRes, _, rfl, paramsRes, _, rfl, h⟩ := h
  rcases posRes with _ | posRes
  · cases h.2
  rcases marketRes with _ | marketRes
  · cases h.2
  rcases paramsRes with _ | params'
  · cases h.2
  change (if posRes.2.1 = 0 then _ else _ : Program morphoCalls Panic _).Trace _ _ at h
  split at h
  · cases h.2
  · next hshares =>
    obtain ⟨reply, _, rfl, h⟩ := h
    cases reply with
    | none => cases h.2
    | some price =>
      obtain ⟨rfl, hfetched⟩ := h
      cases hfetched
      exact ⟨hshares, posRes, marketRes, rfl, rfl, rfl⟩

/-- The mode takes all of one or all of the other. -/
lemma takesAll_of_liquidationTarget {position : Position} {market : Market}
    {lltv price debt : U256} {mode : LiquidationMode}
    (h : liquidationTarget config position market lltv price = .ok (some (debt, mode)))
    (hshares : position.borrowShares ≠ 0) (hswap : mode.collateralForSwap ≠ 0) :
    TakesAll position mode.amounts.1 mode.amounts.2 := by
  obtain ⟨-, -, hdebt, hmode⟩ := liquidationTarget_eq h
  obtain ⟨-, -, required, -, -, ⟨-, rfl⟩ | ⟨-, rfl⟩⟩ := liquidationMode_eq hdebt hmode
  · refine Or.inl ⟨rfl, fun hzero => hshares (BitVec.eq_of_toNat_eq ?_), rfl⟩
    have hwide : (position.borrowShares.setWidth 256 : U256).toNat = (0 : U256).toNat :=
      congrArg BitVec.toNat hzero
    rwa [toNat_widen] at hwide
  · exact Or.inr ⟨rfl, rfl, hswap⟩

/-- An evaluation that gives a profile, of the position that the identity names. -/
theorem reading_of_evaluateTarget
    (h : (evaluateTarget T config identity).Trace t (.ok (some profile))) :
    ∃ marketId borrower, TrackerIdentity.fromStr T identity = .ok (.morphoBlue marketId borrower) ∧
      profile.identity = identity ∧ MorphoReading t marketId borrower profile := by
  rw [evaluateTarget] at h
  split at h
  · next marketId borrower hidentity =>
    obtain ⟨t₁, t₂, fetched, rfl, hfetched, hrest⟩ := trace_bind_returns.mp h
    cases fetched with
    | none => cases hrest.2
    | some fetched =>
      obtain ⟨position, market, ⟨loanToken, collateralToken, oracle, irm, lltv⟩, price⟩ := fetched
      obtain ⟨hshares, posRes, marketRes, rfl, rfl, rfl⟩ := calls_of_fetchPosition hfetched
      obtain ⟨t₃, t₄, target, rfl, htarget, hjob⟩ := trace_bind_returns.mp hrest
      cases target with
      | none => cases hjob.2
      | some target =>
        obtain ⟨debt, mode⟩ := target
        have hresult : liquidationTarget config (.ofReply posRes) (.ofReply marketRes) lltv price
            = .ok (some (debt, mode)) := by
          cases hresult : liquidationTarget config (.ofReply posRes) (.ofReply marketRes) lltv
            price with
          | error p =>
            rw [hresult] at htarget
            cases htarget.2
          | ok result =>
            rw [hresult] at htarget
            cases htarget.2
            rfl
        dsimp only at hjob
        split at hjob
        · cases hjob.2
        · next hswap =>
          obtain ⟨srcDecimals, _, rfl, destDecimals, _, rfl, hprofile⟩ := hjob
          rcases srcDecimals with _ | srcDecimals
          · cases hprofile.2
          rcases destDecimals with _ | destDecimals
          · cases hprofile.2
          obtain ⟨-, hprofile⟩ := hprofile
          cases hprofile
          obtain ⟨hhealth, hne, hdebt, -⟩ := liquidationTarget_eq hresult
          have hexact := toNat_of_toAssetsDown hdebt
          rw [toNat_widen, toNat_widen, toNat_widen] at hexact
          refine ⟨marketId, borrower, hidentity, rfl, rfl, rfl, rfl, hne, _, _, lltv, price, _, _,
            ?_, hexact, rfl, rfl, takesAll_of_liquidationTarget hresult hshares hswap⟩
          exact ⟨⟨posRes, rfl, .head _⟩, ⟨marketRes, rfl, .tail _ (.head _)⟩,
            ⟨collateralToken, oracle, irm, .tail _ (.tail _ (.head _)),
              .tail _ (.tail _ (.tail _ (.head _)))⟩, hshares, hhealth⟩
  · cases h.2

/-- A refresh evaluates the same position. -/
lemma reading_of_refreshBorrower
    (h : (refreshBorrower T config identity).Trace t (.ok (.ok profile))) :
    ∃ marketId borrower, TrackerIdentity.fromStr T identity = .ok (.morphoBlue marketId borrower) ∧
      MorphoReading t marketId borrower profile := by
  have htarget : ∃ t', t' ⊆ t ∧ (refreshTarget T config identity).Trace t' (.ok (.ok profile)) := by
    rw [refreshBorrower] at h
    split at h
    · next marketId borrower hidentity =>
      obtain ⟨reply, t', rfl, h⟩ := h
      rcases reply with _ | reply
      · cases h.2
      change (if reply.2.1 = 0 then _ else _ : Program morphoCalls Panic _).Trace _ _ at h
      split at h
      · cases h.2
      · exact ⟨t', List.subset_cons_self _ _, h⟩
    · exact ⟨t, List.Subset.refl t, h⟩
  obtain ⟨t', hsub, htarget⟩ := htarget
  rw [refreshTarget] at htarget
  obtain ⟨t₁, t₂, found, rfl, hfound, hreturn⟩ := trace_bind_returns.mp htarget
  cases found with
  | none => cases hreturn.2
  | some found =>
    obtain ⟨rfl, hprofile⟩ := hreturn
    cases hprofile
    obtain ⟨marketId, borrower, hidentity, -, hreading⟩ := reading_of_evaluateTarget hfound
    rw [List.append_nil] at hsub
    exact ⟨marketId, borrower, hidentity, hreading.mono hsub⟩

end MorphoProtocolAdapter

end LiqRanger
