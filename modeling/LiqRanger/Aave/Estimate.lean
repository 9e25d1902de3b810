import LiqRanger.Aave.Math

/-!
# The seize estimate

Each product of the estimate is checked, and the powers of ten between them are not. The estimate is
the exact quotient, or an error where a product does not fit or the divisor is zero, exactly when no
power of ten that it comes to is too large (`estimate_exact_iff`).
-/

namespace LiqRanger

open Checked (mul_cases)

/-! ### The estimate -/

section
variable (debtToCover collateralPrice debtPrice : U256) (collDecimals debtDecimals : UInt8)
  (liquidationBonusBps : UInt16)

/-- Every product fits in 256 bits, and the divisor is not zero. -/
structure EstimateFits : Prop where
  value : debtToCover.toNat * debtPrice.toNat < 2 ^ 256
  scaled : debtToCover.toNat * debtPrice.toNat * 10 ^ collDecimals.toNat < 2 ^ 256
  numerator : debtToCover.toNat * debtPrice.toNat * 10 ^ collDecimals.toNat *
    liquidationBonusBps.toNat < 2 ^ 256
  price : collateralPrice.toNat * bps.toNat < 2 ^ 256
  denominator : collateralPrice.toNat * bps.toNat * 10 ^ debtDecimals.toNat < 2 ^ 256
  divisor : collateralPrice.toNat * bps.toNat * 10 ^ debtDecimals.toNat ≠ 0

/-- The quotient, rounded down. -/
def exactEstimate : ℕ :=
  debtToCover.toNat * debtPrice.toNat * 10 ^ collDecimals.toNat * liquidationBonusBps.toNat /
    (collateralPrice.toNat * bps.toNat * 10 ^ debtDecimals.toNat)

/-- What is asked of the estimate: the exact quotient where it can be computed, and an error
elsewhere. -/
structure EstimateExact : Prop where
  ok : EstimateFits debtToCover collateralPrice debtPrice collDecimals debtDecimals
    liquidationBonusBps → ∃ q, (estimateSeizableCollateralAmount debtToCover collateralPrice
      debtPrice collDecimals debtDecimals liquidationBonusBps).run = .ok (.ok q) ∧
    q.toNat = exactEstimate debtToCover collateralPrice debtPrice collDecimals debtDecimals
      liquidationBonusBps
  error : ¬ EstimateFits debtToCover collateralPrice debtPrice collDecimals debtDecimals
    liquidationBonusBps → ∃ e, (estimateSeizableCollateralAmount debtToCover collateralPrice
      debtPrice collDecimals debtDecimals liquidationBonusBps).run = .ok (.error e)

/-- No power of ten is too large where the estimate comes to it: the collateral's after the first
product, the debt's after the numerator and the price. -/
structure PowersFit : Prop where
  collateral : debtToCover.toNat * debtPrice.toNat < 2 ^ 256 → collDecimals.toNat ≤ 77
  debt : debtToCover.toNat * debtPrice.toNat < 2 ^ 256 →
    debtToCover.toNat * debtPrice.toNat * 10 ^ collDecimals.toNat < 2 ^ 256 →
    debtToCover.toNat * debtPrice.toNat * 10 ^ collDecimals.toNat *
      liquidationBonusBps.toNat < 2 ^ 256 →
    collateralPrice.toNat * bps.toNat < 2 ^ 256 → debtDecimals.toNat ≤ 77

/-- How an estimate ends. -/
inductive EstimateEnd : Except Panic (Except String U256) → Prop where
  | exact (q : U256)
      (hfits : EstimateFits debtToCover collateralPrice debtPrice collDecimals debtDecimals
        liquidationBonusBps)
      (hpowers : PowersFit debtToCover collateralPrice debtPrice collDecimals debtDecimals
        liquidationBonusBps)
      (hq : q.toNat = exactEstimate debtToCover collateralPrice debtPrice collDecimals debtDecimals
        liquidationBonusBps) : EstimateEnd (.ok (.ok q))
  | error (e : String)
      (hfits : ¬ EstimateFits debtToCover collateralPrice debtPrice collDecimals debtDecimals
        liquidationBonusBps)
      (hpowers : PowersFit debtToCover collateralPrice debtPrice collDecimals debtDecimals
        liquidationBonusBps) : EstimateEnd (.ok (.error e))
  | panic (p : Panic)
      (hpowers : ¬ PowersFit debtToCover collateralPrice debtPrice collDecimals debtDecimals
        liquidationBonusBps) : EstimateEnd (.error p)

lemma toNat_bonus (bonus : UInt16) : (BitVec.ofNat 256 bonus.toNat).toNat = bonus.toNat :=
  U256.toNat_ofNat_of_lt (bonus.toNat_lt.trans (by decide))

lemma toNat_bps : (bps.setWidth 256).toNat = bps.toNat := rfl

section
variable {α : Type} {motive : Except Panic (Except String α) → Prop} {f : U256 → Fallible α}
  {m n : ℕ}

/-- A checked product goes on with the product, or ends in the error. -/
lemma okOrElse_mul_bind {e : String} {x y : U256} (hx : x.toNat = m) (hy : y.toNat = n)
    (hok : ∀ z : U256, z.toNat = m * n → m * n < 2 ^ 256 → motive (f z).run)
    (herror : ¬ m * n < 2 ^ 256 → motive (.ok (.error e))) :
    motive (okOrElse e (Checked.mul x y) >>= f).run := by
  subst hx hy
  rcases mul_cases x y with ⟨z, hmul, hz⟩ | ⟨hmul, hlarge⟩
  · rw [hmul, okOrElse_some_bind]
    exact hok z hz (hz ▸ z.isLt)
  · rw [hmul, okOrElse_none_bind]
    exact herror hlarge

/-- A power of ten goes on with the power, or panics. -/
lemma exp10_bind (hok : ∀ x : U256, x.toNat = 10 ^ n → n ≤ 77 → motive (f x).run)
    (hpanic : ∀ p, ¬ n ≤ 77 → motive (.error p)) :
    motive ((liftM (U256.exp10 n) : Fallible U256) >>= f).run := by
  by_cases hn : n ≤ 77
  · obtain ⟨x, hpower, hx⟩ := U256.exp10_returns hn
    rw [hpower, liftM_ok_bind]
    exact hok x hx hn
  · obtain ⟨p, hp⟩ := U256.exp10_panics (Nat.lt_of_not_le hn)
    rw [hp, liftM_error_bind]
    exact hpanic p hn

end

lemma estimate_end :
    EstimateEnd debtToCover collateralPrice debtPrice collDecimals debtDecimals liquidationBonusBps
      (estimateSeizableCollateralAmount debtToCover collateralPrice debtPrice collDecimals
        debtDecimals liquidationBonusBps).run := by
  rw [estimateSeizableCollateralAmount]
  refine okOrElse_mul_bind rfl rfl ?_ fun hlarge => ?_
  swap
  · exact .error _ (fun h => hlarge h.value) ⟨fun h => absurd h hlarge, fun h => absurd h hlarge⟩
  intro value hvalue hvalueFits
  refine exp10_bind ?_ fun p hcoll => .panic p fun h => hcoll (h.collateral hvalueFits)
  intro collPower hcollPower hcoll
  refine okOrElse_mul_bind hvalue hcollPower ?_ fun hlarge => ?_
  swap
  · exact .error _ (fun h => hlarge h.scaled) ⟨fun _ => hcoll, fun _ h => absurd h hlarge⟩
  intro scaled hscaled hscaledFits
  refine okOrElse_mul_bind hscaled (toNat_bonus _) ?_ fun hlarge => ?_
  swap
  · exact .error _ (fun h => hlarge h.numerator) ⟨fun _ => hcoll, fun _ _ h => absurd h hlarge⟩
  intro numerator hnumerator hnumeratorFits
  refine okOrElse_mul_bind rfl toNat_bps ?_ fun hlarge => ?_
  swap
  · exact .error _ (fun h => hlarge h.price) ⟨fun _ => hcoll, fun _ _ _ h => absurd h hlarge⟩
  intro price hprice hpriceFits
  refine exp10_bind ?_ fun p hdebt =>
    .panic p fun h => hdebt (h.debt hvalueFits hscaledFits hnumeratorFits hpriceFits)
  intro debtPower hdebtPower hdebt
  have hpowers : PowersFit debtToCover collateralPrice debtPrice collDecimals debtDecimals
      liquidationBonusBps := ⟨fun _ => hcoll, fun _ _ _ _ => hdebt⟩
  refine okOrElse_mul_bind hprice hdebtPower ?_ fun hlarge =>
    .error _ (fun h => hlarge h.denominator) hpowers
  intro denominator hdenominator hdenominatorFits
  -- all products are there, and what is left is the division
  by_cases hzero : denominator = 0
  · rw [if_pos hzero]
    refine .error _ (fun h => h.divisor ?_) hpowers
    rw [← hdenominator, hzero]
    rfl
  · have hpos : 0 < denominator.toNat := BitVec.toNat_pos_of_ne_zero hzero
    have hquotient : U256.div numerator denominator = .ok (numerator / denominator) :=
      U256.div_eq_ok_iff.mpr ⟨hpos, BitVec.toNat_udiv⟩
    rw [if_neg hzero, hquotient]
    refine .exact _ ⟨hvalueFits, hscaledFits, hnumeratorFits, hpriceFits, hdenominatorFits, ?_⟩
      hpowers ?_
    · exact hdenominator ▸ hpos.ne'
    · rw [BitVec.toNat_udiv, hnumerator, hdenominator, exactEstimate]

/-- The estimate is the exact quotient where that can be computed and an error elsewhere, exactly if
no power of ten is too large. -/
theorem estimate_exact_iff :
    EstimateExact debtToCover collateralPrice debtPrice collDecimals debtDecimals
      liquidationBonusBps ↔
    PowersFit debtToCover collateralPrice debtPrice collDecimals debtDecimals
      liquidationBonusBps := by
  have hend := estimate_end debtToCover collateralPrice debtPrice collDecimals debtDecimals
    liquidationBonusBps
  constructor
  · rintro ⟨hok, herror⟩
    by_contra hpowers
    generalize hrun : ExceptT.run _ = o at hend
    cases hend with
    | exact q hfits hpowers' hq => exact hpowers hpowers'
    | error e hfits hpowers' => exact hpowers hpowers'
    | panic p hpowers' =>
      by_cases hfits : EstimateFits debtToCover collateralPrice debtPrice collDecimals debtDecimals
          liquidationBonusBps
      · obtain ⟨q, hq, -⟩ := hok hfits
        rw [hrun] at hq
        cases hq
      · obtain ⟨e, he⟩ := herror hfits
        rw [hrun] at he
        cases he
  · intro hpowers
    generalize hrun : ExceptT.run _ = o at hend
    cases hend with
    | exact q hfits hpowers' hq => exact ⟨fun _ => ⟨q, hrun, hq⟩, fun h => absurd hfits h⟩
    | error e hfits hpowers' => exact ⟨fun h => absurd h hfits, fun _ => ⟨e, hrun⟩⟩
    | panic p hpowers' => exact absurd hpowers hpowers'

end

/-- A collateral of 78 decimals: the product does not fit, and in place of an error there is a
panic. -/
theorem estimate_panics : ¬ ∀ (debtToCover collateralPrice debtPrice : U256)
    (collDecimals debtDecimals : UInt8) (liquidationBonusBps : UInt16),
    EstimateExact debtToCover collateralPrice debtPrice collDecimals debtDecimals
      liquidationBonusBps := by
  intro h
  have hlarge : ¬ EstimateFits 1 1 1 78 0 10500 := fun hfits => absurd hfits.scaled (by decide)
  obtain ⟨e, he⟩ := (h 1 1 1 78 0 10500).error hlarge
  have hpanics : (estimateSeizableCollateralAmount 1 1 1 78 0 10500).run =
      .error ⟨"arithmetic operation overflow"⟩ := by decide +kernel
  rw [hpanics] at he
  cases he

example : (estimateSeizableCollateralAmount 100000000 200000000000 100000000 18 6 10500).run =
    .ok (.ok 52500000000000000) := by decide +kernel

end LiqRanger
