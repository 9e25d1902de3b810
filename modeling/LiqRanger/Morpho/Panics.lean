import LiqRanger.Morpho.Sizing

/-!
# When a Morpho evaluation panics

Of all the checked operations of an evaluation only three can fail on what the chain returns:
the product of the collateral and the price, the debt rounded up, and the division by the price.
`evaluateTarget_returns_iff` gives the exact condition on the values read.
-/

namespace LiqRanger

open Effect

/-! ### The incentive returns -/

/-- The incentive is defined for every threshold up to one. -/
lemma incentiveFactor_returns {lltv : U256} (h : lltv ≤ wad) :
    ∃ lif, incentiveFactor lltv = .ok lif := by
  have hlltv : lltv.toNat ≤ 10 ^ 18 := toNat_wad ▸ BitVec.le_def.mp h
  have hgap : (wad - lltv).toNat + lltv.toNat = 10 ^ 18 := by
    rw [BitVec.toNat_sub_of_le h, toNat_wad]
    exact Nat.sub_add_cancel hlltv
  obtain ⟨discount, hdiscount⟩ : ∃ r, mulDivDown liquidationCursor (wad - lltv) wad = .ok r := by
    rw [mulDivDown_returns_iff, toNat_liquidationCursor, toNat_wad]
    omega
  have hle : discount.toNat ≤ 3 * 10 ^ 17 := by
    rw [(mulDivDown_eq_ok_iff.mp hdiscount).2.2, toNat_liquidationCursor, toNat_wad]
    refine Rounding.mulDivDown_le_left ?_
    exact Nat.le_of_add_right_le hgap.le
  have hdiscount' : discount ≤ wad := by
    rw [BitVec.le_def, toNat_wad]
    omega
  obtain ⟨factor, hfactor⟩ : ∃ r, mulDivDown wad wad (wad - discount) = .ok r := by
    rw [mulDivDown_returns_iff, BitVec.toNat_sub_of_le hdiscount', toNat_wad]
    omega
  refine ⟨U256.min maxLiquidationIncentiveFactor factor, ?_⟩
  simp only [incentiveFactor, wmulDown, wdivDown, Checked.bind_eq_ok_iff, U256.sub_eq_ok_iff]
  refine ⟨wad - lltv, by rw [hgap, toNat_wad], discount, hdiscount, wad - discount, ?_, factor,
    hfactor, rfl⟩
  rw [BitVec.toNat_sub_of_le hdiscount']
  exact Nat.sub_add_cancel hdiscount'

/-! ### The evaluation returns -/

/-- The operations that could fail on these values do not: the collateral is priced within a
word, the debt is rounded up within a word, and only a debt of less than one loan asset meets a
price of zero. -/
structure ArithmeticFits (reads : MorphoReads) : Prop where
  collateral : reads.collateral.toNat * reads.price.toNat < 2 ^ 256
  debt : reads.borrowShares.toNat * (reads.totalBorrowAssets.toNat + 1)
    + (reads.totalBorrowShares.toNat + 10 ^ 6) < 2 ^ 256
  price : reads.price = 0 → reads.borrowShares.toNat * (reads.totalBorrowAssets.toNat + 1)
    < reads.totalBorrowShares.toNat + 10 ^ 6

section
variable {reads : MorphoReads}

/-- The debt rounded up is computed exactly when it fits. -/
lemma toAssetsUp_returns_iff (hpos : 0 < reads.borrowShares.toNat) :
    (∃ r, toAssetsUp (reads.position.borrowShares.setWidth 256)
      (reads.market.totalBorrowAssets.setWidth 256)
      (reads.market.totalBorrowShares.setWidth 256) = .ok r) ↔
    reads.borrowShares.toNat * (reads.totalBorrowAssets.toNat + 1)
      + (reads.totalBorrowShares.toNat + 10 ^ 6) < 2 ^ 256 := by
  constructor
  · rintro ⟨r, hr⟩
    obtain ⟨n, d, hn, hd, hr⟩ := convert_eq_ok_iff.mp hr
    rw [toNat_widen, toNat_virtualAssets] at hn
    rw [toNat_widen, toNat_virtualShares] at hd
    have hproduct : 0 < (reads.position.borrowShares.setWidth 256 : U256).toNat * n.toNat := by
      rw [toNat_widen, hn]
      exact Nat.mul_pos hpos (Nat.succ_pos _)
    have hfits := (lt_of_mulDivUp hr hproduct).2
    rwa [hn, hd, toNat_widen] at hfits
  · intro hfits
    apply toAssetsUp_widen_of_lt
    rw [toNat_widen]
    exact hfits

/-- The health check compares the debt, rounded up, with what the collateral may borrow. -/
lemma isHealthy_eq_ok_iff {lltv price : U256} {position : Position} {market : Market}
    {healthy : Bool} :
    position.isHealthy market lltv price = .ok healthy ↔
      ∃ collateralValue : U256, (position.collateral.toNat * price.toNat < 2 ^ 256 ∧
        collateralValue.toNat = position.collateral.toNat * price.toNat / 10 ^ 36) ∧
      ∃ maxBorrow : U256, (collateralValue.toNat * lltv.toNat < 2 ^ 256 ∧
        maxBorrow.toNat = collateralValue.toNat * lltv.toNat / 10 ^ 18) ∧
      ∃ borrowed : U256, toAssetsUp (position.borrowShares.setWidth 256)
        (market.totalBorrowAssets.setWidth 256) (market.totalBorrowShares.setWidth 256)
          = .ok borrowed ∧
        decide (borrowed ≤ maxBorrow) = healthy := by
  have hassoc : position.isHealthy market lltv price =
      ((U256.mul (position.collateral.setWidth 256) price >>= fun n =>
          U256.div n oraclePriceScale) >>= fun collateralValue =>
        (U256.mul collateralValue lltv >>= fun n => U256.div n wad) >>= fun maxBorrow =>
        toAssetsUp (position.borrowShares.setWidth 256)
          (market.totalBorrowAssets.setWidth 256) (market.totalBorrowShares.setWidth 256) >>=
        fun borrowed => pure (decide (borrowed ≤ maxBorrow))) := by
    simp only [Position.isHealthy, bind_assoc]
  have hscale : 0 < oraclePriceScale.toNat := by simp [toNat_oraclePriceScale]
  have hwad : 0 < wad.toNat := by simp [toNat_wad]
  rw [hassoc, Checked.bind_eq_ok_iff]
  simp only [U256.mul_div_eq_ok_iff hscale, toNat_widen, toNat_oraclePriceScale]
  refine exists_congr fun collateralValue => and_congr_right fun _ => ?_
  rw [Checked.bind_eq_ok_iff]
  simp only [U256.mul_div_eq_ok_iff hwad, toNat_wad]
  refine exists_congr fun maxBorrow => and_congr_right fun _ => ?_
  rw [Checked.bind_eq_ok_iff]
  refine exists_congr fun borrowed => and_congr_right fun _ => ?_
  simp [pure, Except.pure]

/-- A health check on the values read returns when its two products fit. -/
lemma isHealthy_returns_iff (hpos : 0 < reads.borrowShares.toNat) (hlltv : reads.lltv < wad) :
    (∃ healthy, reads.position.isHealthy reads.market reads.lltv reads.price = .ok healthy) ↔
      reads.collateral.toNat * reads.price.toNat < 2 ^ 256 ∧
      reads.borrowShares.toNat * (reads.totalBorrowAssets.toNat + 1)
        + (reads.totalBorrowShares.toNat + 10 ^ 6) < 2 ^ 256 := by
  rw [← toAssetsUp_returns_iff hpos]
  simp only [isHealthy_eq_ok_iff]
  constructor
  · rintro ⟨healthy, value, ⟨hcollateral, -⟩, limit, -, borrowed, hborrowed, -⟩
    exact ⟨hcollateral, borrowed, hborrowed⟩
  · rintro ⟨hcollateral, borrowed, hborrowed⟩
    have hvalue : reads.collateral.toNat * reads.price.toNat / 10 ^ 36 < 2 ^ 137 := by
      rw [Nat.div_lt_iff_lt_mul (by decide)]
      exact hcollateral.trans (by decide)
    -- a threshold below one leaves room for the value of any collateral
    have hproduct : reads.collateral.toNat * reads.price.toNat / 10 ^ 36 * reads.lltv.toNat
        < 2 ^ 256 := by
      have hlltv' : reads.lltv.toNat ≤ 10 ^ 18 := toNat_wad ▸ (BitVec.lt_def.mp hlltv).le
      exact Nat.lt_of_le_of_lt (Nat.mul_le_mul hvalue.le hlltv') (by decide)
    have hfits : reads.collateral.toNat * reads.price.toNat / 10 ^ 36 < 2 ^ 256 :=
      hvalue.trans (by decide)
    have hlimit : reads.collateral.toNat * reads.price.toNat / 10 ^ 36 * reads.lltv.toNat
        / 10 ^ 18 < 2 ^ 256 := (Nat.div_le_self _ _).trans_lt hproduct
    refine ⟨_, .ofNatLT _ hfits, ⟨hcollateral, ?_⟩, .ofNatLT _ hlimit, ⟨?_, ?_⟩, borrowed,
      hborrowed, rfl⟩
    · rw [BitVec.toNat_ofNatLT]
      rfl
    · rw [BitVec.toNat_ofNatLT]
      exact hproduct
    · rw [BitVec.toNat_ofNatLT, BitVec.toNat_ofNatLT]

/-- At a price of zero a position with a debt is not healthy. -/
lemma not_isHealthy_of_price (hpos : 0 < reads.borrowShares.toNat) (hprice : reads.price = 0)
    {healthy : Bool}
    (h : reads.position.isHealthy reads.market reads.lltv reads.price = .ok healthy) :
    healthy = false := by
  obtain ⟨value, ⟨-, hvalue⟩, limit, ⟨-, hlimit⟩, borrowed, hborrowed, rfl⟩ :=
    isHealthy_eq_ok_iff.mp h
  have hzero : limit.toNat = 0 := by
    rw [hlimit, hvalue, hprice]
    simp
  have hdebt : 0 < borrowed.toNat := by
    rw [toNat_of_toAssetsUp hborrowed, toNat_widen]
    exact Rounding.mulDivUp_pos (Nat.mul_pos hpos (Nat.succ_pos _)) (Nat.succ_pos _)
  rw [decide_eq_false_iff_not, BitVec.le_def, hzero]
  exact Nat.not_le.mpr hdebt

/-- A debt rounded down is computed whenever it fits rounded up, and is at most the assets of
the market. -/
lemma toAssetsDown_returns (hle : reads.borrowShares ≤ reads.totalBorrowShares)
    (hfits : reads.borrowShares.toNat * (reads.totalBorrowAssets.toNat + 1) < 2 ^ 256) :
    ∃ debt, toAssetsDown (reads.position.borrowShares.setWidth 256)
        (reads.market.totalBorrowAssets.setWidth 256)
        (reads.market.totalBorrowShares.setWidth 256) = .ok debt ∧
      debt.toNat ≤ 2 ^ 128 := by
  obtain ⟨debt, hdebt⟩ : ∃ debt, toAssetsDown (reads.position.borrowShares.setWidth 256)
      (reads.market.totalBorrowAssets.setWidth 256)
      (reads.market.totalBorrowShares.setWidth 256) = .ok debt := by
    apply toAssetsDown_widen_of_lt
    rw [toNat_widen]
    exact hfits
  refine ⟨debt, hdebt, ?_⟩
  rw [toNat_of_toAssetsDown hdebt, toNat_widen, toNat_widen, toNat_widen]
  refine Nat.div_le_of_le_mul (Nat.mul_le_mul ?_ reads.totalBorrowAssets.isLt)
  exact (BitVec.le_def.mp hle).trans (Nat.le_add_right _ _)

/-- The collateral a debt of the market seizes is computed at every price but zero. -/
lemma seizedFor_returns_iff {debt lif lltv : U256} (price : U256) (hdebt : debt.toNat ≤ 2 ^ 128)
    (hlif : incentiveFactor lltv = .ok lif) :
    ∃ value, wmulDown debt lif = .ok value ∧
      ((∃ r, mulDivDown value oraclePriceScale price = .ok r) ↔ 0 < price.toNat) := by
  have hbound := (exactIncentive_bounds lltv.toNat).2
  have hproduct : debt.toNat * lif.toNat ≤ 2 ^ 128 * (115 * 10 ^ 16) := by
    rw [toNat_of_incentiveFactor hlif]
    exact Nat.mul_le_mul hdebt hbound
  obtain ⟨value, hvalue⟩ : ∃ r, mulDivDown debt lif wad = .ok r := by
    rw [mulDivDown_returns_iff, toNat_wad]
    exact ⟨hproduct.trans_lt (by decide), by decide⟩
  have hle : value.toNat ≤ 2 ^ 129 := by
    rw [(mulDivDown_eq_ok_iff.mp hvalue).2.2, toNat_wad]
    exact Nat.div_le_of_le_mul (hproduct.trans (by decide))
  have hscaled : value.toNat * oraclePriceScale.toNat < 2 ^ 256 := by
    rw [toNat_oraclePriceScale]
    exact (Nat.mul_le_mul_right _ hle).trans_lt (by decide)
  exact ⟨value, hvalue, by rw [mulDivDown_returns_iff, and_iff_right hscaled]⟩

/-- A mode is chosen for a debt of the market at every price but zero. -/
lemma liquidationMode_returns_iff {shares totalAssets totalShares debt collateral lltv price : U256}
    (hdown : toAssetsDown shares totalAssets totalShares = .ok debt) (hdebt : debt.toNat ≤ 2 ^ 128)
    (hlltv : lltv < wad) :
    (∃ mode, liquidationMode .load shares totalAssets totalShares debt collateral lltv price
      = .ok mode) ↔ 0 < price.toNat := by
  obtain ⟨lif, hlif⟩ := incentiveFactor_returns (BitVec.le_of_lt hlltv)
  obtain ⟨value, hvalue, hseized⟩ := seizedFor_returns_iff price hdebt hlif
  -- the repayment of all shares repeats the computation of the threshold
  have hrepaid : seizedAssetsFromRepaidShares shares totalAssets totalShares lltv oraclePriceScale
      price = mulDivDown value oraclePriceScale price := by
    rw [seizedAssetsFromRepaidShares, hdown, Checked.ok_bind, hlif, Checked.ok_bind, hvalue,
      Checked.ok_bind]
  rw [← hseized, liquidationMode, hlif, Checked.ok_bind, hvalue, Checked.ok_bind,
    MorphoConfig.load, hrepaid]
  cases hrequired : mulDivDown value oraclePriceScale price with
  | error e => simp [Checked.error_bind]
  | ok required =>
    simp only [Checked.ok_bind]
    split_ifs <;> simp [pure, Except.pure]

/-- The target of a position is computed exactly when the arithmetic fits. -/
lemma liquidationTarget_returns_iff (hpos : 0 < reads.borrowShares.toNat)
    (hle : reads.borrowShares ≤ reads.totalBorrowShares) (hlltv : reads.lltv < wad) :
    (∃ target, liquidationTarget .load reads.position reads.market reads.lltv reads.price
      = .ok target) ↔ ArithmeticFits reads := by
  rw [liquidationTarget]
  constructor
  · rintro ⟨target, h⟩
    rw [Checked.bind_eq_ok_iff] at h
    obtain ⟨healthy, hhealthy, h⟩ := h
    obtain ⟨hcollateral, hfits⟩ := (isHealthy_returns_iff hpos hlltv).mp ⟨healthy, hhealthy⟩
    refine ⟨hcollateral, hfits, fun hprice => ?_⟩
    cases not_isHealthy_of_price hpos hprice hhealthy
    obtain ⟨debt, hdebt, hbound⟩ := toAssetsDown_returns hle (Nat.lt_of_add_right_lt hfits)
    simp only [Bool.false_eq_true, if_false, hdebt, Checked.ok_bind] at h
    by_cases hzero : debt = 0
    · -- no debt is left to price
      have hquotient := toNat_of_toAssetsDown hdebt
      rw [hzero, Rounding.mulDivDown, toNat_widen, toNat_widen, toNat_widen] at hquotient
      exact (Nat.div_eq_zero_iff_lt (add_virtualShares_pos _)).mp hquotient.symm
    · rw [if_neg hzero, Checked.bind_eq_ok_iff] at h
      obtain ⟨mode, hmode, -⟩ := h
      have hpos' := (liquidationMode_returns_iff hdebt hbound hlltv).mp ⟨mode, hmode⟩
      simp [hprice] at hpos'
  · intro hfits
    obtain ⟨healthy, hhealthy⟩ := (isHealthy_returns_iff hpos hlltv).mpr
      ⟨hfits.collateral, hfits.debt⟩
    rw [hhealthy, Checked.ok_bind]
    cases healthy with
    | true => exact ⟨none, rfl⟩
    | false =>
      obtain ⟨debt, hdebt, hbound⟩ := toAssetsDown_returns hle (Nat.lt_of_add_right_lt hfits.debt)
      simp only [Bool.false_eq_true, if_false, hdebt, Checked.ok_bind]
      by_cases hzero : debt = 0
      · exact ⟨none, if_pos hzero⟩
      · have hprice : 0 < reads.price.toNat := by
          refine Nat.pos_of_ne_zero fun h0 => hzero (BitVec.eq_of_toNat_eq ?_)
          rw [toNat_of_toAssetsDown hdebt]
          exact Nat.div_eq_of_lt (hfits.price (BitVec.eq_of_toNat_eq h0))
        obtain ⟨mode, hmode⟩ := (liquidationMode_returns_iff hdebt hbound hlltv).mpr hprice
        rw [if_neg hzero, hmode]
        exact ⟨_, rfl⟩

/-- An evaluation of a position with a debt returns when its target is computed. -/
lemma evaluateTarget_returns_iff_target {T : EthersText} {config : MorphoConfig}
    {marketId : H256} {borrower : Address} (hshares : reads.borrowShares ≠ 0) :
    (∃ result, (MorphoProtocolAdapter.evaluateTarget T config
      ((TrackerIdentity.morphoBlue marketId borrower).toStringId T)).eval reads.answer
        = .ok result) ↔
    ∃ target, liquidationTarget config reads.position reads.market reads.lltv reads.price
      = .ok target := by
  simp only [MorphoProtocolAdapter.evaluateTarget, TrackerIdentity.fromStr_toStringId]
  rw [Program.eval_bind, eval_fetchPosition, if_neg hshares, Checked.ok_bind]
  dsimp only
  rw [Program.eval_bind, Program.eval_ofExcept]
  cases htarget : liquidationTarget config reads.position reads.market reads.lltv reads.price with
  | error e => simp [Checked.error_bind]
  | ok target =>
    simp only [Checked.ok_bind, Except.ok.injEq, exists_eq', iff_true]
    cases target with
    | none => exact ⟨none, rfl⟩
    | some target =>
      obtain ⟨debt, mode⟩ := target
      by_cases hswap : mode.collateralForSwap = 0
      · exact ⟨none, by simp [hswap]⟩
      · simp only [if_neg hswap, getTokenDecimals, Program.call_bind, Program.ret_bind,
          Program.eval_call, MorphoReads.answer]
        split
        · exact ⟨_, rfl⟩
        · exact ⟨_, rfl⟩

/-- The evaluation of a position with a debt returns exactly when the arithmetic fits the values
that were read. -/
theorem evaluateTarget_returns_iff (T : EthersText) (marketId : H256) (borrower : Address)
    (hpos : 0 < reads.borrowShares) (hle : reads.borrowShares ≤ reads.totalBorrowShares)
    (hlltv : reads.lltv < wad) :
    (∃ result, (MorphoProtocolAdapter.evaluateTarget T .load
      ((TrackerIdentity.morphoBlue marketId borrower).toStringId T)).eval reads.answer
        = .ok result) ↔ ArithmeticFits reads := by
  have hpos' : 0 < reads.borrowShares.toNat := BitVec.lt_def.mp hpos
  have hshares : reads.borrowShares ≠ 0 := by
    rintro h
    simp [h] at hpos'
  rw [evaluateTarget_returns_iff_target hshares, liquidationTarget_returns_iff hpos' hle hlltv]

end

/-- At a price of one the arithmetic of the sample fits. -/
theorem evaluateTarget_returns_iff_sample :
    ∃ result, (MorphoProtocolAdapter.evaluateTarget .reference .load
      ((TrackerIdentity.morphoBlue (.ofNat 32 7) (.ofNat 20 1001)).toStringId .reference)).eval
        (sampleReads 1000000000000000000000000 1100000000000000000).answer = .ok result :=
  (evaluateTarget_returns_iff _ _ _ (by decide) (by decide) (by decide)).mpr
    ⟨by decide, by decide, by decide⟩

/-- At a price of zero the evaluation of the sample panics. -/
theorem evaluateTarget_panics :
    ¬ ∀ (T : EthersText) (marketId : H256) (borrower : Address) (reads : MorphoReads),
      0 < reads.borrowShares → reads.borrowShares ≤ reads.totalBorrowShares → reads.lltv < wad →
      ∃ result, (MorphoProtocolAdapter.evaluateTarget T .load
        ((TrackerIdentity.morphoBlue marketId borrower).toStringId T)).eval reads.answer
          = .ok result := by
  intro h
  have hreturns := h .reference (.ofNat 32 7) (.ofNat 20 1001)
    { sampleReads 1000000000000000000000000 1100000000000000000 with price := 0 }
    (by decide) (by decide) (by decide)
  rw [evaluateTarget_returns_iff_target (by decide),
    liquidationTarget_returns_iff (by decide) (by decide) (by decide)] at hreturns
  exact absurd (hreturns.price rfl) (by decide)

end LiqRanger
