import LiqRanger.Morpho.Adapter
import LiqRanger.Morpho.Exact

/-!
# The amounts of a Morpho profile

When `evaluateTarget` yields a profile, its amounts are those of exact liquidation terms: the
debt is rounded down, and the mode is chosen by comparing the collateral with what repaying all
shares seizes.
-/

namespace LiqRanger

open Effect

/-- Everything an evaluation reads from the chain. -/
structure MorphoReads where
  supplyShares : U256
  borrowShares : U128
  collateral : U128
  totalSupplyAssets : U128
  totalSupplyShares : U128
  totalBorrowAssets : U128
  totalBorrowShares : U128
  lastUpdate : U128
  fee : U128
  loanToken : Address
  collateralToken : Address
  oracle : Address
  irm : Address
  lltv : U256
  price : U256
  decimals : Address → Option UInt8

namespace MorphoReads

variable (reads : MorphoReads)

/-- The chain answers each call with what is read from it. -/
def answer : (op : MorphoOp) → op.Reply
  | .position .. => some (reads.supplyShares, reads.borrowShares, reads.collateral)
  | .market .. => some (reads.totalSupplyAssets, reads.totalSupplyShares, reads.totalBorrowAssets,
      reads.totalBorrowShares, reads.lastUpdate, reads.fee)
  | .idToMarketParams .. =>
      some (reads.loanToken, reads.collateralToken, reads.oracle, reads.irm, reads.lltv)
  | .price .. => some reads.price
  | .getTokenDecimals token => reads.decimals token

def position : Position := ⟨reads.borrowShares, reads.collateral⟩

def market : Market := ⟨reads.totalBorrowAssets, reads.totalBorrowShares⟩

/-- The exact terms of a liquidation at the rates that were read. -/
def terms (config : MorphoConfig) (hscale : 0 < config.oraclePriceScale.toNat)
    (hprice : 0 < reads.price.toNat) : LiquidationTerms where
  assets := reads.totalBorrowAssets.toNat + 1
  shares := reads.totalBorrowShares.toNat + 10 ^ 6
  lif := exactIncentive reads.lltv.toNat
  one := 10 ^ 18
  scale := config.oraclePriceScale.toNat
  price := reads.price.toNat
  assets_pos := Nat.succ_pos _
  shares_pos := Nat.add_pos_right _ (by decide)
  lif_pos := Nat.lt_of_lt_of_le (by decide) (exactIncentive_bounds _).1
  one_pos := by decide
  scale_pos := hscale
  price_pos := hprice

end MorphoReads

/-! ### The helpers in exact terms -/

@[simp] lemma toNat_widen (x : U128) : (x.setWidth 256 : U256).toNat = x.toNat :=
  BitVec.toNat_setWidth_of_le (by decide)

/-- A total of a market leaves room for a virtual amount. -/
lemma toNat_widen_add_lt (x : U128) {n : ℕ} (hn : n ≤ 10 ^ 6) :
    (x.setWidth 256 : U256).toNat + n < 2 ^ 256 := by
  rw [toNat_widen]
  exact (Nat.add_lt_add_of_lt_of_le x.isLt hn).trans (by decide)

section
variable {amount : U256} {totalAssets totalShares : U128}

/-! At the totals of a market a conversion returns when its product fits. -/

lemma toAssetsDown_widen_of_lt (hfits : amount.toNat * (totalAssets.toNat + 1) < 2 ^ 256) :
    ∃ r, toAssetsDown amount (totalAssets.setWidth 256) (totalShares.setWidth 256) = .ok r := by
  apply toAssetsDown_of_lt (toNat_widen_add_lt _ (by decide)) (toNat_widen_add_lt _ (Nat.le_refl _))
  rwa [toNat_widen]

lemma toAssetsUp_widen_of_lt
    (hfits : amount.toNat * (totalAssets.toNat + 1) + (totalShares.toNat + 10 ^ 6) < 2 ^ 256) :
    ∃ r, toAssetsUp amount (totalAssets.setWidth 256) (totalShares.setWidth 256) = .ok r := by
  apply toAssetsUp_of_lt (toNat_widen_add_lt _ (by decide)) (toNat_widen_add_lt _ (Nat.le_refl _))
  rwa [toNat_widen, toNat_widen]

lemma toSharesUp_widen_of_lt
    (hfits : amount.toNat * (totalShares.toNat + 10 ^ 6) + (totalAssets.toNat + 1) < 2 ^ 256) :
    ∃ r, toSharesUp amount (totalAssets.setWidth 256) (totalShares.setWidth 256) = .ok r := by
  apply toSharesUp_of_lt (toNat_widen_add_lt _ (by decide)) (toNat_widen_add_lt _ (Nat.le_refl _))
  rwa [toNat_widen, toNat_widen]

end

section
variable {config : MorphoConfig} {reads : MorphoReads} {amount r : U256}

lemma toNat_of_toAssetsDown {totalAssets totalShares : U256}
    (h : toAssetsDown amount totalAssets totalShares = .ok r) :
    r.toNat = Rounding.mulDivDown amount.toNat (totalAssets.toNat + 1)
      (totalShares.toNat + 10 ^ 6) := by
  obtain ⟨n, d, hn, hd, hr⟩ := convert_eq_ok_iff.mp h
  rw [(mulDivDown_eq_ok_iff.mp hr).2.2, hn, hd, toNat_virtualAssets, toNat_virtualShares]

lemma toNat_of_toAssetsUp {totalAssets totalShares : U256}
    (h : toAssetsUp amount totalAssets totalShares = .ok r) :
    r.toNat = Rounding.mulDivUp amount.toNat (totalAssets.toNat + 1)
      (totalShares.toNat + 10 ^ 6) := by
  obtain ⟨n, d, hn, hd, hr⟩ := convert_eq_ok_iff.mp h
  rw [toNat_of_mulDivUp hr, hn, hd, toNat_virtualAssets, toNat_virtualShares]

lemma toNat_of_toSharesUp {totalAssets totalShares : U256}
    (h : toSharesUp amount totalAssets totalShares = .ok r) :
    r.toNat = Rounding.mulDivUp amount.toNat (totalShares.toNat + 10 ^ 6)
      (totalAssets.toNat + 1) := by
  obtain ⟨n, d, hn, hd, hr⟩ := convert_eq_ok_iff.mp h
  rw [toNat_of_mulDivUp hr, hn, hd, toNat_virtualAssets, toNat_virtualShares]

/-- The collateral that a debt of `debt` seizes, and the price it was computed at. -/
lemma toNat_of_seized {debt lif lltv scale price value : U256}
    (hlif : incentiveFactor lltv = .ok lif) (hvalue : wmulDown debt lif = .ok value)
    (h : mulDivDown value scale price = .ok r) :
    0 < price.toNat ∧ r.toNat = Rounding.mulDivDown
      (Rounding.mulDivDown debt.toNat (exactIncentive lltv.toNat) (10 ^ 18)) scale.toNat
      price.toNat := by
  obtain ⟨-, hprice, hr⟩ := mulDivDown_eq_ok_iff.mp h
  rw [wmulDown, mulDivDown_eq_ok_iff, toNat_of_incentiveFactor hlif, toNat_wad] at hvalue
  exact ⟨hprice, by rw [hr, hvalue.2.2]⟩

end

/-! ### The target -/

/-- The mode chosen for a debt: all shares, when the collateral they seize is there, else all
the collateral. -/
lemma liquidationMode_eq {config : MorphoConfig}
    {shares totalAssets totalShares debt collateral lltv price : U256} {mode : LiquidationMode}
    (hdebt : toAssetsDown shares totalAssets totalShares = .ok debt)
    (h : liquidationMode config shares totalAssets totalShares debt collateral lltv price
      = .ok (some mode)) :
    0 < price.toNat ∧ (∃ lif, incentiveFactor lltv = .ok lif) ∧ ∃ required : U256,
      seizedAssetsFromRepaidShares shares totalAssets totalShares lltv config.oraclePriceScale
        price = .ok required ∧
      required.toNat = Rounding.mulDivDown
        (Rounding.mulDivDown debt.toNat (exactIncentive lltv.toNat) (10 ^ 18))
        config.oraclePriceScale.toNat price.toNat ∧
      ((required ≤ collateral ∧ mode = .repayShares shares required) ∨
        (collateral < required ∧ mode = .seizeCollateral collateral)) := by
  rw [liquidationMode, Checked.bind_eq_ok_iff] at h
  obtain ⟨lif, hlif, h⟩ := h
  rw [Checked.bind_eq_ok_iff] at h
  obtain ⟨value, hvalue, h⟩ := h
  rw [Checked.bind_eq_ok_iff] at h
  obtain ⟨required, hrequired, h⟩ := h
  obtain ⟨hprice, hexact⟩ := toNat_of_seized hlif hvalue hrequired
  -- the helper repeats the computation of the threshold on the same debt
  have hseized : seizedAssetsFromRepaidShares shares totalAssets totalShares lltv
      config.oraclePriceScale price = .ok required := by
    simp only [seizedAssetsFromRepaidShares, hdebt, hlif, hvalue, bind, Except.bind]
    exact hrequired
  refine ⟨hprice, ⟨lif, hlif⟩, required, hseized, hexact, ?_⟩
  by_cases hle : required ≤ collateral
  · rw [if_pos hle, hseized] at h
    simp only [bind, Except.bind] at h
    by_cases hzero : required = 0
    · rw [if_pos hzero] at h
      cases h
    · rw [if_neg hzero] at h
      cases h
      exact Or.inl ⟨hle, rfl⟩
  · rw [if_neg hle] at h
    cases h
    exact Or.inr ⟨BitVec.not_le.mp hle, rfl⟩

/-- A target is an unhealthy position with a debt and a mode. -/
lemma liquidationTarget_eq {config : MorphoConfig} {position : Position} {market : Market}
    {lltv price debt : U256} {mode : LiquidationMode}
    (h : liquidationTarget config position market lltv price = .ok (some (debt, mode))) :
    position.isHealthy market lltv price = .ok false ∧ debt ≠ 0 ∧
      toAssetsDown (position.borrowShares.setWidth 256) (market.totalBorrowAssets.setWidth 256)
        (market.totalBorrowShares.setWidth 256) = .ok debt ∧
      liquidationMode config (position.borrowShares.setWidth 256)
        (market.totalBorrowAssets.setWidth 256) (market.totalBorrowShares.setWidth 256) debt
        (position.collateral.setWidth 256) lltv price = .ok (some mode) := by
  rw [liquidationTarget, Checked.bind_eq_ok_iff] at h
  obtain ⟨healthy, hhealthy, h⟩ := h
  cases healthy with
  | true => cases h
  | false =>
    simp only [Bool.false_eq_true, if_false] at h
    rw [Checked.bind_eq_ok_iff] at h
    obtain ⟨debt', hdebt, h⟩ := h
    by_cases hzero : debt' = 0
    · rw [if_pos hzero] at h
      cases h
    · rw [if_neg hzero, Checked.bind_eq_ok_iff] at h
      obtain ⟨mode', hmode, h⟩ := h
      cases mode' with
      | none => cases h
      | some mode' =>
        cases h
        exact ⟨hhealthy, hzero, hdebt, hmode⟩

/-- The reads of an evaluation; nothing without borrow shares. -/
lemma eval_fetchPosition (reads : MorphoReads) (marketId : H256) (borrower : Address) :
    (fetchPosition marketId borrower).eval reads.answer = .ok
      (if reads.borrowShares = 0 then none else
        some (reads.position, reads.market,
          (reads.loanToken, reads.collateralToken, reads.oracle, reads.irm, reads.lltv),
          reads.price)) := by
  simp only [fetchPosition, IMorphoBlue.position, IMorphoBlue.market,
    IMorphoBlue.idToMarketParams, Program.call_bind, Program.ret_bind, Program.eval_call,
    MorphoReads.answer]
  by_cases hzero : reads.borrowShares = 0
  · rw [if_pos hzero, if_pos hzero]
    rfl
  · rw [if_neg hzero, if_neg hzero]
    rfl

/-- A profile carries the debt and the mode of a target. -/
lemma evaluateTarget_eq {T : EthersText} {config : MorphoConfig} {identity : Text}
    {reads : MorphoReads} {profile : BorrowerProfile}
    (h : (MorphoProtocolAdapter.evaluateTarget T config identity).eval reads.answer
      = .ok (some profile)) :
    ∃ mode, liquidationTarget config reads.position reads.market reads.lltv reads.price
        = .ok (some (profile.debtToCover, mode)) ∧
      mode.collateralForSwap ≠ 0 ∧ profile.seizeAmount = mode.collateralForSwap ∧
      profile.repaidShares = some mode.amounts.1 ∧
      profile.seizedAssets = some mode.amounts.2 := by
  rw [MorphoProtocolAdapter.evaluateTarget] at h
  split at h
  · rw [Program.eval_bind, eval_fetchPosition] at h
    by_cases hzero : reads.borrowShares = 0
    · rw [if_pos hzero] at h
      cases h
    · rw [if_neg hzero] at h
      change (Program.ofExcept _ >>= _).eval _ = _ at h
      rw [Program.eval_bind, Program.eval_ofExcept, Checked.bind_eq_ok_iff] at h
      obtain ⟨target, htarget, h⟩ := h
      cases target with
      | none => cases h
      | some target =>
        obtain ⟨debt, mode⟩ := target
        by_cases hswap : mode.collateralForSwap = 0
        · simp [hswap] at h
        · simp only [if_neg hswap, getTokenDecimals, Program.call_bind, Program.ret_bind,
            Program.eval_call, MorphoReads.answer] at h
          split at h
          · cases h
            exact ⟨mode, htarget, hswap, rfl, rfl, rfl⟩
          · cases h
  · cases h

/-- A target with collateral to swap and known decimals is a profile. -/
lemma evaluateTarget_of_target {T : EthersText} {config : MorphoConfig} {reads : MorphoReads}
    {debt : U256} {mode : LiquidationMode} {srcDecimals destDecimals : UInt8} (marketId : H256)
    (borrower : Address)
    (htarget : liquidationTarget config reads.position reads.market reads.lltv reads.price
      = .ok (some (debt, mode)))
    (hshares : reads.borrowShares ≠ 0) (hswap : mode.collateralForSwap ≠ 0)
    (hsrc : reads.decimals reads.collateralToken = some srcDecimals)
    (hdest : reads.decimals reads.loanToken = some destDecimals) :
    (MorphoProtocolAdapter.evaluateTarget T config
      ((TrackerIdentity.morphoBlue marketId borrower).toStringId T)).eval reads.answer
      = .ok (some {
        address := borrower
        repaidShares := some mode.amounts.1
        seizedAssets := some mode.amounts.2
        marketId := some marketId
        debtAsset := reads.loanToken
        debtToCover := debt
        collateralAsset := reads.collateralToken
        seizeAmount := mode.collateralForSwap
        srcDecimals := srcDecimals
        destDecimals := destDecimals
        protocol := .morpho
        identity := (TrackerIdentity.morphoBlue marketId borrower).toStringId T }) := by
  simp only [MorphoProtocolAdapter.evaluateTarget, TrackerIdentity.fromStr_toStringId]
  rw [Program.eval_bind, eval_fetchPosition, if_neg hshares]
  change (Program.ofExcept _ >>= _).eval _ = _
  rw [Program.eval_bind, Program.eval_ofExcept, htarget]
  change (if mode.collateralForSwap = 0 then _ else _ : Program morphoCalls Panic _).eval _ = _
  rw [if_neg hswap]
  simp only [getTokenDecimals, Program.call_bind, Program.ret_bind, Program.eval_call,
    MorphoReads.answer, hsrc, hdest]
  rfl

/-- A health check that ran has computed the debt, rounded up. -/
lemma toAssetsUp_of_isHealthy {position : Position} {market : Market} {lltv price : U256}
    {healthy : Bool} (h : position.isHealthy market lltv price = .ok healthy) :
    ∃ r, toAssetsUp (position.borrowShares.setWidth 256)
      (market.totalBorrowAssets.setWidth 256) (market.totalBorrowShares.setWidth 256)
        = .ok r := by
  simp only [Position.isHealthy, Checked.bind_eq_ok_iff] at h
  obtain ⟨-, -, -, -, -, -, -, -, r, hr, -⟩ := h
  exact ⟨r, hr⟩

/-! ### Sample reads -/

/-- A market where a million shares are one loan asset, at a price of one. -/
def sampleReads (borrowShares collateral : U128) : MorphoReads where
  supplyShares := 0
  borrowShares := borrowShares
  collateral := collateral
  totalSupplyAssets := 2000000000000000000
  totalSupplyShares := 2000000000000000000000000
  totalBorrowAssets := 1000000000000000000
  totalBorrowShares := 1000000000000000000000000
  lastUpdate := 1
  fee := 0
  loanToken := .ofNat 20 2
  collateralToken := .ofNat 20 1
  oracle := .ofNat 20 3
  irm := .ofNat 20 4
  lltv := 860000000000000000
  price := oraclePriceScale
  decimals := fun _ => some 18

def sampleMorphoIdentity : Text :=
  (TrackerIdentity.morphoBlue (.ofNat 32 7) (.ofNat 20 1001)).toStringId .reference

def sampleMorphoProfile (mode : LiquidationMode) (debt : U256) : BorrowerProfile where
  address := .ofNat 20 1001
  repaidShares := some mode.amounts.1
  seizedAssets := some mode.amounts.2
  marketId := some (.ofNat 32 7)
  debtAsset := .ofNat 20 2
  debtToCover := debt
  collateralAsset := .ofNat 20 1
  seizeAmount := mode.collateralForSwap
  srcDecimals := 18
  destDecimals := 18
  protocol := .morpho
  identity := sampleMorphoIdentity

/-- Shares worth a whole number of loan assets. -/
lemma sample_exact : (MorphoProtocolAdapter.evaluateTarget .reference .load
      sampleMorphoIdentity).eval
      (sampleReads 1000000000000000000000000 1100000000000000000).answer
    = .ok (some (sampleMorphoProfile
        (.repayShares 1000000000000000000000000 1043841336116910229) 1000000000000000000)) :=
  evaluateTarget_of_target _ _ rfl (by decide) (by decide) rfl rfl

/-- One share less: its fraction of a loan asset is rounded away. -/
lemma sample_rounded : (MorphoProtocolAdapter.evaluateTarget .reference .load
      sampleMorphoIdentity).eval
      (sampleReads 999999999999999999999999 1100000000000000000).answer
    = .ok (some (sampleMorphoProfile
        (.repayShares 999999999999999999999999 1043841336116910227) 999999999999999999)) :=
  evaluateTarget_of_target _ _ rfl (by decide) (by decide) rfl rfl

end LiqRanger
