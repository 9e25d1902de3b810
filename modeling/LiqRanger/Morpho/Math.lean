import LiqRanger.Numeric.Rounding
import LiqRanger.Core.Constants
import LiqRanger.Core.Word

/-!
# Morpho arithmetic

The helpers over 256-bit words. Any overflow and any division by zero is a panic; a helper that
returns returns the exact number.
-/

namespace LiqRanger

/-! ### Products divided -/

def mulDivDown (x y d : U256) : Except Panic U256 := do
  let n ← Checked.expect ⟨"mul overflow"⟩ (Checked.mul x y)
  Checked.expect ⟨"div by zero"⟩ (Checked.div n d)

def mulDivUp (x y d : U256) : Except Panic U256 := do
  let n ← Checked.expect ⟨"mul overflow"⟩ (Checked.mul x y)
  if n = 0 then
    return 0
  else
    let sum ← U256.add n d
    let pred ← U256.sub sum 1
    Checked.expect ⟨"div by zero"⟩ (Checked.div pred d)

def wmulDown (x y : U256) : Except Panic U256 := mulDivDown x y wad

def wdivDown (x y : U256) : Except Panic U256 := mulDivDown x wad y

def wdivUp (x y : U256) : Except Panic U256 := mulDivUp x wad y

/-! ### Shares and assets -/

/-- `amount` at the rate `(x + vx) / (y + vy)`, rounded by `round`. -/
def convert (round : U256 → U256 → U256 → Except Panic U256) (amount x vx y vy : U256) :
    Except Panic U256 := do
  round amount (← U256.add x vx) (← U256.add y vy)

def toAssetsDown (shares totalAssets totalShares : U256) : Except Panic U256 :=
  convert mulDivDown shares totalAssets virtualAssets totalShares virtualShares

def toAssetsUp (shares totalAssets totalShares : U256) : Except Panic U256 :=
  convert mulDivUp shares totalAssets virtualAssets totalShares virtualShares

def toSharesDown (assets totalAssets totalShares : U256) : Except Panic U256 :=
  convert mulDivDown assets totalShares virtualShares totalAssets virtualAssets

def toSharesUp (assets totalAssets totalShares : U256) : Except Panic U256 :=
  convert mulDivUp assets totalShares virtualShares totalAssets virtualAssets

/-! ### Liquidation amounts -/

def incentiveFactor (lltv : U256) : Except Panic U256 := do
  let discount ← wmulDown liquidationCursor (← U256.sub wad lltv)
  let factor ← wdivDown wad (← U256.sub wad discount)
  return U256.min maxLiquidationIncentiveFactor factor

/-- Collateral seized when liquidating via `repaidShares` (Morpho rounds down). -/
def seizedAssetsFromRepaidShares (repaidShares totalBorrowAssets totalBorrowShares lltv
    oraclePriceScale price : U256) : Except Panic U256 := do
  let repaidAssets ← toAssetsDown repaidShares totalBorrowAssets totalBorrowShares
  let lif ← incentiveFactor lltv
  mulDivDown (← wmulDown repaidAssets lif) oraclePriceScale price

/-- Loan assets Morpho pulls when liquidating via `repaidShares` (rounds up). -/
def repaidAssetsFromRepaidShares (repaidShares totalBorrowAssets totalBorrowShares : U256) :
    Except Panic U256 :=
  toAssetsUp repaidShares totalBorrowAssets totalBorrowShares

/-- Upper bound on loan repayment when seizing `seized` collateral (Morpho rounds up). -/
def repaidAssetsFromSeizedCollateral (seized totalBorrowAssets totalBorrowShares lltv
    oraclePriceScale price : U256) : Except Panic U256 := do
  let quoted ← mulDivUp seized price oraclePriceScale
  let lif ← incentiveFactor lltv
  let repaidShares ← toSharesUp (← wdivUp quoted lif) totalBorrowAssets totalBorrowShares
  toAssetsUp repaidShares totalBorrowAssets totalBorrowShares

/-- The shares burnt when seizing `seized` collateral (Morpho rounds up): the part of
`repaidAssetsFromSeizedCollateral` before the shares are priced. -/
def burntShares (seized totalBorrowAssets totalBorrowShares lltv oraclePriceScale price : U256) :
    Except Panic U256 := do
  let quoted ← mulDivUp seized price oraclePriceScale
  let lif ← incentiveFactor lltv
  toSharesUp (← wdivUp quoted lif) totalBorrowAssets totalBorrowShares

/-! ### What a helper returns -/

section
variable {x y d r : U256}

/-- Rounding down returns exactly when the product fits and the divisor is not zero. -/
lemma mulDivDown_eq_ok_iff :
    mulDivDown x y d = .ok r ↔ x.toNat * y.toNat < 2 ^ 256 ∧ 0 < d.toNat ∧
      r.toNat = Rounding.mulDivDown x.toNat y.toNat d.toNat := by
  rw [mulDivDown, Checked.bind_eq_ok_iff]
  constructor
  · rintro ⟨n, hn, hr⟩
    rw [Checked.expect_eq_ok_iff, Checked.mul_eq_some_iff] at hn
    rw [Checked.expect_eq_ok_iff, Checked.div_eq_some_iff, hn] at hr
    exact ⟨hn ▸ n.isLt, hr⟩
  · rintro ⟨hlt, hr⟩
    have hprod : (x * y).toNat = x.toNat * y.toNat := BitVec.toNat_mul_of_lt hlt
    refine ⟨x * y, ?_, ?_⟩
    · rw [Checked.expect_eq_ok_iff, Checked.mul_eq_some_iff, hprod]
    · rw [Checked.expect_eq_ok_iff, Checked.div_eq_some_iff, hprod]
      exact hr

/-- Rounding down returns exactly when the product fits and there is a divisor. -/
lemma mulDivDown_returns_iff :
    (∃ r, mulDivDown x y d = .ok r) ↔ x.toNat * y.toNat < 2 ^ 256 ∧ 0 < d.toNat := by
  constructor
  · rintro ⟨r, hr⟩
    obtain ⟨hlt, hd, -⟩ := mulDivDown_eq_ok_iff.mp hr
    exact ⟨hlt, hd⟩
  · rintro ⟨hlt, hd⟩
    have hexact : ((x * y) / d).toNat = Rounding.mulDivDown x.toNat y.toNat d.toNat := by
      rw [BitVec.toNat_udiv, BitVec.toNat_mul_of_lt hlt, Rounding.mulDivDown]
    exact ⟨_, mulDivDown_eq_ok_iff.mpr ⟨hlt, hd, hexact⟩⟩

/-- Rounding up returns the exact number. -/
lemma toNat_of_mulDivUp (h : mulDivUp x y d = .ok r) :
    r.toNat = Rounding.mulDivUp x.toNat y.toNat d.toNat := by
  rw [mulDivUp, Checked.bind_eq_ok_iff] at h
  obtain ⟨n, hn, h⟩ := h
  rw [Checked.expect_eq_ok_iff, Checked.mul_eq_some_iff] at hn
  by_cases hzero : n = 0
  · rw [if_pos hzero] at h
    cases h
    have hprod : x.toNat * y.toNat = 0 := by rw [← hn, hzero]; rfl
    rw [Rounding.mulDivUp, hprod, zero_ceilDiv]
    rfl
  · rw [if_neg hzero, Checked.bind_eq_ok_iff] at h
    obtain ⟨sum, hsum, h⟩ := h
    rw [Checked.bind_eq_ok_iff] at h
    obtain ⟨pred, hpred, h⟩ := h
    rw [U256.add_eq_ok_iff] at hsum
    rw [U256.sub_eq_ok_iff] at hpred
    rw [Checked.expect_eq_ok_iff, Checked.div_eq_some_iff] at h
    have hone : (1 : U256).toNat = 1 := rfl
    have hpred' : pred.toNat = x.toNat * y.toNat + d.toNat - 1 := by omega
    rw [h.2, hpred', Rounding.mulDivUp_eq_add_pred_div]

/-- Rounding up returns whenever the product and the divisor fit together. -/
lemma mulDivUp_of_lt (hd : 0 < d.toNat) (hlt : x.toNat * y.toNat + d.toNat < 2 ^ 256) :
    ∃ r, mulDivUp x y d = .ok r := by
  have hprod : (x * y).toNat = x.toNat * y.toNat := BitVec.toNat_mul_of_lt (by omega)
  have hmul : Checked.mul x y = some (x * y) := Checked.mul_eq_some_iff.mpr hprod
  rw [mulDivUp, hmul]
  by_cases hzero : x * y = 0
  · exact ⟨0, by simp [Checked.expect, hzero, bind, Except.bind, pure, Except.pure]⟩
  · have hpos : 0 < (x * y).toNat := BitVec.toNat_pos_of_ne_zero hzero
    have hsum : U256.add (x * y) d = .ok (x * y + d) :=
      U256.add_eq_ok_iff.mpr (BitVec.toNat_add_of_lt (by omega))
    have hone : (1 : U256).toNat = 1 := rfl
    have hle : (1 : U256) ≤ x * y + d := by
      rw [BitVec.le_def, BitVec.toNat_add_of_lt (by omega)]
      omega
    have hpred : U256.sub (x * y + d) 1 = .ok (x * y + d - 1) := by
      rw [U256.sub_eq_ok_iff, BitVec.toNat_sub_of_le hle]
      exact Nat.sub_add_cancel hle
    refine ⟨(x * y + d - 1) / d, ?_⟩
    simp only [Checked.expect, bind, Except.bind, if_neg hzero, hsum, hpred]
    exact Checked.expect_eq_ok_iff.mpr (Checked.div_eq_some_iff.mpr ⟨hd, BitVec.toNat_udiv⟩)

/-- Rounding up does not return unless the product and the divisor fit together. -/
lemma lt_of_mulDivUp (h : mulDivUp x y d = .ok r) (hpos : 0 < x.toNat * y.toNat) :
    0 < d.toNat ∧ x.toNat * y.toNat + d.toNat < 2 ^ 256 := by
  rw [mulDivUp, Checked.bind_eq_ok_iff] at h
  obtain ⟨n, hn, h⟩ := h
  rw [Checked.expect_eq_ok_iff, Checked.mul_eq_some_iff] at hn
  have hzero : n ≠ 0 := by
    rintro rfl
    rw [← hn] at hpos
    exact absurd hpos (by decide)
  rw [if_neg hzero, Checked.bind_eq_ok_iff] at h
  obtain ⟨sum, hsum, h⟩ := h
  rw [Checked.bind_eq_ok_iff] at h
  obtain ⟨pred, hpred, h⟩ := h
  rw [U256.add_eq_ok_iff] at hsum
  rw [Checked.expect_eq_ok_iff, Checked.div_eq_some_iff] at h
  exact ⟨h.1, by rw [← hn, ← hsum]; exact sum.isLt⟩

/-- A conversion returns what its rounding returns at the rate with the virtual amounts. -/
lemma convert_eq_ok_iff {round : U256 → U256 → U256 → Except Panic U256}
    {amount vx vy : U256} :
    convert round amount x vx y vy = .ok r ↔
      ∃ n d : U256, n.toNat = x.toNat + vx.toNat ∧ d.toNat = y.toNat + vy.toNat ∧
        round amount n d = .ok r := by
  simp only [convert, Checked.bind_eq_ok_iff, U256.add_eq_ok_iff]
  constructor
  · rintro ⟨n, hn, d, hd, hr⟩
    exact ⟨n, d, hn, hd, hr⟩
  · rintro ⟨n, d, hn, hd, hr⟩
    exact ⟨n, hn, d, hd, hr⟩

/-- A conversion rounded up returns whenever its product and its divisor fit together. -/
lemma convert_mulDivUp_of_lt {amount vx vy : U256} (hd : 0 < y.toNat + vy.toNat)
    (hx : x.toNat + vx.toNat < 2 ^ 256) (hy : y.toNat + vy.toNat < 2 ^ 256)
    (hlt : amount.toNat * (x.toNat + vx.toNat) + (y.toNat + vy.toNat) < 2 ^ 256) :
    ∃ r, convert mulDivUp amount x vx y vy = .ok r := by
  have hn : (x + vx).toNat = x.toNat + vx.toNat := BitVec.toNat_add_of_lt hx
  have hm : (y + vy).toNat = y.toNat + vy.toNat := BitVec.toNat_add_of_lt hy
  obtain ⟨r, hr⟩ : ∃ r, mulDivUp amount (x + vx) (y + vy) = .ok r := by
    apply mulDivUp_of_lt
    · rw [hm]
      exact hd
    · rw [hn, hm]
      exact hlt
  exact ⟨r, convert_eq_ok_iff.mpr ⟨_, _, hn, hm, hr⟩⟩

/-- A conversion rounded down returns when its product fits. -/
lemma convert_mulDivDown_of_lt {amount vx vy : U256} (hd : 0 < y.toNat + vy.toNat)
    (hx : x.toNat + vx.toNat < 2 ^ 256) (hy : y.toNat + vy.toNat < 2 ^ 256)
    (hlt : amount.toNat * (x.toNat + vx.toNat) < 2 ^ 256) :
    ∃ r, convert mulDivDown amount x vx y vy = .ok r := by
  have hn : (x + vx).toNat = x.toNat + vx.toNat := BitVec.toNat_add_of_lt hx
  have hm : (y + vy).toNat = y.toNat + vy.toNat := BitVec.toNat_add_of_lt hy
  obtain ⟨r, hr⟩ : ∃ r, mulDivDown amount (x + vx) (y + vy) = .ok r := by
    rw [mulDivDown_returns_iff, hn, hm]
    exact ⟨hlt, hd⟩
  exact ⟨r, convert_eq_ok_iff.mpr ⟨_, _, hn, hm, hr⟩⟩

/-! The conversions return when the totals with the virtual amounts and the products fit. -/

section
variable {amount totalAssets totalShares : U256}

lemma toAssetsDown_of_lt (hassets : totalAssets.toNat + 1 < 2 ^ 256)
    (hshares : totalShares.toNat + 10 ^ 6 < 2 ^ 256)
    (hfits : amount.toNat * (totalAssets.toNat + 1) < 2 ^ 256) :
    ∃ r, toAssetsDown amount totalAssets totalShares = .ok r :=
  convert_mulDivDown_of_lt (add_virtualShares_pos _) hassets hshares hfits

lemma toAssetsUp_of_lt (hassets : totalAssets.toNat + 1 < 2 ^ 256)
    (hshares : totalShares.toNat + 10 ^ 6 < 2 ^ 256)
    (hfits : amount.toNat * (totalAssets.toNat + 1) + (totalShares.toNat + 10 ^ 6) < 2 ^ 256) :
    ∃ r, toAssetsUp amount totalAssets totalShares = .ok r :=
  convert_mulDivUp_of_lt (add_virtualShares_pos _) hassets hshares hfits

lemma toSharesDown_of_lt (hassets : totalAssets.toNat + 1 < 2 ^ 256)
    (hshares : totalShares.toNat + 10 ^ 6 < 2 ^ 256)
    (hfits : amount.toNat * (totalShares.toNat + 10 ^ 6) < 2 ^ 256) :
    ∃ r, toSharesDown amount totalAssets totalShares = .ok r :=
  convert_mulDivDown_of_lt (Nat.succ_pos _) hshares hassets hfits

lemma toSharesUp_of_lt (hassets : totalAssets.toNat + 1 < 2 ^ 256)
    (hshares : totalShares.toNat + 10 ^ 6 < 2 ^ 256)
    (hfits : amount.toNat * (totalShares.toNat + 10 ^ 6) + (totalAssets.toNat + 1) < 2 ^ 256) :
    ∃ r, toSharesUp amount totalAssets totalShares = .ok r :=
  convert_mulDivUp_of_lt (Nat.succ_pos _) hshares hassets hfits

end

/-- The incentive in exact numbers. -/
def exactIncentive (lltv : ℕ) : ℕ :=
  min (115 * 10 ^ 16) (Rounding.mulDivDown (10 ^ 18) (10 ^ 18)
    (10 ^ 18 - Rounding.mulDivDown (3 * 10 ^ 17) (10 ^ 18 - lltv) (10 ^ 18)))

lemma toNat_of_incentiveFactor {lltv lif : U256} (h : incentiveFactor lltv = .ok lif) :
    lif.toNat = exactIncentive lltv.toNat := by
  simp only [incentiveFactor, wmulDown, wdivDown, Checked.bind_eq_ok_iff, U256.sub_eq_ok_iff,
    mulDivDown_eq_ok_iff, toNat_wad] at h
  obtain ⟨gap, hgap, discount, ⟨-, -, hdiscount⟩, denom, hdenom, factor, ⟨-, -, hfactor⟩, h⟩ := h
  cases h
  have hgap' : 10 ^ 18 - lltv.toNat = gap.toNat := by omega
  have hdenom' : 10 ^ 18 - discount.toNat = denom.toNat := by omega
  rw [U256.toNat_min, toNat_maxLiquidationIncentiveFactor, hfactor, exactIncentive, hgap',
    ← toNat_liquidationCursor, ← hdiscount, hdenom']

/-- The incentive is at least one and at most 1.15. -/
lemma exactIncentive_bounds (lltv : ℕ) :
    10 ^ 18 ≤ exactIncentive lltv ∧ exactIncentive lltv ≤ 115 * 10 ^ 16 := by
  have hdiscount : Rounding.mulDivDown (3 * 10 ^ 17) (10 ^ 18 - lltv) (10 ^ 18) ≤ 3 * 10 ^ 17 :=
    Rounding.mulDivDown_le_left (Nat.sub_le _ _)
  refine ⟨le_min (by decide) ?_, min_le_left _ _⟩
  rw [Rounding.le_mulDivDown_iff (by omega)]
  exact Nat.mul_le_mul_left _ (Nat.sub_le _ _)

end

end LiqRanger
