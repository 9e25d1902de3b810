import LiqRanger.Numeric.Rounding

/-!
# Liquidation terms in exact numbers

What a liquidation trades, without overflow: shares against loan assets at the rate of the
market, loan assets against collateral at the oracle price and the incentive. Seizing from
repaid shares rounds down at every step, repaying for seized collateral rounds up at every
step, and the two are adjoint (`burntFor_le_iff`).
-/

namespace LiqRanger

open Rounding

/-- The rates of one liquidation. `assets` loan assets stand for `shares` shares; the incentive
is `lif / one`, the price of a collateral unit is `price / scale` loan assets. -/
structure LiquidationTerms where
  assets : ℕ
  shares : ℕ
  lif : ℕ
  one : ℕ
  scale : ℕ
  price : ℕ
  assets_pos : 0 < assets
  shares_pos : 0 < shares
  lif_pos : 0 < lif
  one_pos : 0 < one
  scale_pos : 0 < scale
  price_pos : 0 < price

namespace LiquidationTerms

variable (t : LiquidationTerms)

def assetsDown (n : ℕ) : ℕ := mulDivDown n t.assets t.shares

def assetsUp (n : ℕ) : ℕ := mulDivUp n t.assets t.shares

def sharesDown (n : ℕ) : ℕ := mulDivDown n t.shares t.assets

def sharesUp (n : ℕ) : ℕ := mulDivUp n t.shares t.assets

/-- The collateral seized for repaying `n` shares. -/
def seizedFor (n : ℕ) : ℕ :=
  mulDivDown (mulDivDown (t.assetsDown n) t.lif t.one) t.scale t.price

/-- The loan assets that seizing `c` of collateral is worth, before the rate of the market. -/
def repaidFor (c : ℕ) : ℕ := mulDivUp (mulDivUp c t.price t.scale) t.one t.lif

/-- The shares burnt for seizing `c` of collateral. -/
def burntFor (c : ℕ) : ℕ := t.sharesUp (t.repaidFor c)

/-- The loan assets pulled for seizing `c` of collateral. -/
def pulledFor (c : ℕ) : ℕ := t.assetsUp (t.burntFor c)

variable {c d n : ℕ}

lemma assetsUp_le_iff : t.assetsUp n ≤ d ↔ n ≤ t.sharesDown d :=
  mulDivUp_le_iff_le_mulDivDown t.assets_pos t.shares_pos

lemma sharesUp_le_iff : t.sharesUp d ≤ n ↔ d ≤ t.assetsDown n :=
  mulDivUp_le_iff_le_mulDivDown t.shares_pos t.assets_pos

lemma repaidFor_le_iff :
    t.repaidFor c ≤ d ↔ c ≤ mulDivDown (mulDivDown d t.lif t.one) t.scale t.price := by
  rw [repaidFor, mulDivUp_le_iff_le_mulDivDown t.one_pos t.lif_pos,
    mulDivUp_le_iff_le_mulDivDown t.price_pos t.scale_pos]

/-- Seizing `c` burns at most `n` shares exactly when repaying `n` shares seizes at least `c`. -/
theorem burntFor_le_iff : t.burntFor c ≤ n ↔ c ≤ t.seizedFor n := by
  rw [burntFor, t.sharesUp_le_iff, t.repaidFor_le_iff, seizedFor]

/-- Seizing `c` pulls at most `d` exactly when the shares that `d` buys seize at least `c`. -/
theorem pulledFor_le_iff : t.pulledFor c ≤ d ↔ c ≤ t.seizedFor (t.sharesDown d) := by
  rw [pulledFor, t.assetsUp_le_iff, t.burntFor_le_iff]

/-- Seizing `c` pulls at least `d` exactly when `c` is out of reach of the shares that one loan
asset less than `d` buys. -/
theorem le_pulledFor_iff (hd : 0 < d) :
    d ≤ t.pulledFor c ↔ t.seizedFor (t.sharesDown (d - 1)) < c := by
  rw [← Nat.not_le, ← t.pulledFor_le_iff, Nat.not_le]
  omega

/-- Collateral that repaying `n` shares may seize is worth at most the debt with its
incentive. -/
theorem seized_value_le (h : c ≤ t.seizedFor n) :
    c * t.price * t.one ≤ t.assetsDown n * t.lif * t.scale := by
  have hcollateral : c * t.price ≤ mulDivDown (t.assetsDown n) t.lif t.one * t.scale :=
    (le_mulDivDown_iff t.price_pos).mp h
  calc c * t.price * t.one
      ≤ mulDivDown (t.assetsDown n) t.lif t.one * t.scale * t.one :=
        Nat.mul_le_mul_right _ hcollateral
    _ = mulDivDown (t.assetsDown n) t.lif t.one * t.one * t.scale := Nat.mul_right_comm _ _ _
    _ ≤ t.assetsDown n * t.lif * t.scale := Nat.mul_le_mul_right _ mulDivDown_mul_le

end LiquidationTerms

end LiqRanger
