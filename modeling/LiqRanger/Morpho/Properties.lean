import LiqRanger.Morpho.Sizing

/-!
# What a Morpho profile promises

Every profile is executable (`morphoProfile_executable`): the mode it picks fits the position.
Its flash loan covers what Morpho pulls exactly when rounding the debt down loses nothing that
matters (`flashLoan_covers_iff`).
-/

namespace LiqRanger

open Effect

variable {T : EthersText} {config : MorphoConfig} {identity : Text} {reads : MorphoReads}
  {profile : BorrowerProfile}

/-! ### The helpers at the rates that were read -/

namespace MorphoReads

variable (reads : MorphoReads)

def shares : U256 := reads.borrowShares.setWidth 256

def seizable : U256 := reads.collateral.setWidth 256

def totalAssets : U256 := reads.totalBorrowAssets.setWidth 256

def totalShares : U256 := reads.totalBorrowShares.setWidth 256

end MorphoReads

section
variable {hscale : 0 < config.oraclePriceScale.toNat} {hprice : 0 < reads.price.toNat}
  {amount r : U256}

lemma toNat_of_burntShares (h : burntShares amount reads.totalAssets reads.totalShares reads.lltv
    config.oraclePriceScale reads.price = .ok r) :
    r.toNat = (reads.terms config hscale hprice).burntFor amount.toNat := by
  simp only [burntShares, Checked.bind_eq_ok_iff] at h
  obtain ⟨quoted, hquoted, lif, hlif, value, hvalue, h⟩ := h
  rw [toNat_of_toSharesUp h, toNat_of_mulDivUp hvalue, toNat_of_mulDivUp hquoted,
    toNat_of_incentiveFactor hlif, toNat_wad, MorphoReads.totalAssets, MorphoReads.totalShares,
    toNat_widen, toNat_widen]
  rfl

/-- The loan pulled for seized collateral is the price of the shares burnt for it. -/
lemma repaidAssetsFromSeizedCollateral_eq_ok_iff {totalAssets totalShares lltv scale price : U256} :
    repaidAssetsFromSeizedCollateral amount totalAssets totalShares lltv scale price = .ok r ↔
      ∃ burnt, burntShares amount totalAssets totalShares lltv scale price = .ok burnt ∧
        toAssetsUp burnt totalAssets totalShares = .ok r := by
  simp only [repaidAssetsFromSeizedCollateral, burntShares, Checked.bind_eq_ok_iff]
  constructor
  · rintro ⟨quoted, hquoted, lif, hlif, value, hvalue, burnt, hburnt, h⟩
    exact ⟨burnt, ⟨quoted, hquoted, lif, hlif, value, hvalue, hburnt⟩, h⟩
  · rintro ⟨burnt, ⟨quoted, hquoted, lif, hlif, value, hvalue, hburnt⟩, h⟩
    exact ⟨quoted, hquoted, lif, hlif, value, hvalue, burnt, hburnt, h⟩

end

/-! ### The mode -/

/-- The two shapes of a profile, with its amounts in exact terms. -/
lemma profile_cases (h : (MorphoProtocolAdapter.evaluateTarget T config identity).eval reads.answer
      = .ok (some profile)) :
    ∃ (hscale : 0 < config.oraclePriceScale.toNat) (hprice : 0 < reads.price.toNat),
      profile.debtToCover ≠ 0 ∧ profile.seizeAmount ≠ 0 ∧
      profile.debtToCover.toNat
        = (reads.terms config hscale hprice).assetsDown reads.borrowShares.toNat ∧
      (∃ lif, incentiveFactor reads.lltv = .ok lif) ∧
      (∃ r, toAssetsUp reads.shares reads.totalAssets reads.totalShares = .ok r) ∧
      ((profile.repaidShares = some reads.shares ∧ profile.seizedAssets = some 0 ∧
        seizedAssetsFromRepaidShares reads.shares reads.totalAssets reads.totalShares reads.lltv
          config.oraclePriceScale reads.price = .ok profile.seizeAmount ∧
        profile.seizeAmount.toNat
          = (reads.terms config hscale hprice).seizedFor reads.borrowShares.toNat ∧
        profile.seizeAmount ≤ reads.seizable) ∨
      (profile.repaidShares = some 0 ∧ profile.seizedAssets = some reads.seizable ∧
        profile.seizeAmount = reads.seizable ∧ reads.collateral.toNat
          < (reads.terms config hscale hprice).seizedFor reads.borrowShares.toNat)) := by
  obtain ⟨mode, htarget, hswap, hseize, hrepaid, hseized⟩ := evaluateTarget_eq h
  obtain ⟨hhealthy, hdebt, hdebt', hmode⟩ := liquidationTarget_eq htarget
  obtain ⟨hprice, hlif, required, hhelper, hexact, hcases⟩ := liquidationMode_eq hdebt' hmode
  have hdown := toNat_of_toAssetsDown hdebt'
  have hup := toAssetsUp_of_isHealthy hhealthy
  simp only [toNat_widen] at hdown
  -- both modes need a threshold above zero, and it is zero when the scale is
  have hpos : 0 < required.toNat := by
    rcases hcases with ⟨-, rfl⟩ | ⟨hlt, -⟩
    · exact BitVec.toNat_pos_of_ne_zero hswap
    · exact Nat.lt_of_le_of_lt (Nat.zero_le _) hlt
  have hscale : 0 < config.oraclePriceScale.toNat := by
    refine Nat.pos_of_ne_zero fun h0 => ?_
    rw [hexact, h0, Rounding.mulDivDown, Nat.mul_zero, Nat.zero_div] at hpos
    exact absurd hpos (Nat.lt_irrefl 0)
  have hrequired : required.toNat
      = (reads.terms config hscale hprice).seizedFor reads.borrowShares.toNat := by
    rw [hexact, hdown]
    rfl
  refine ⟨hscale, hprice, hdebt, hseize ▸ hswap, hdown, hlif, hup, ?_⟩
  rcases hcases with ⟨hle, rfl⟩ | ⟨hlt, rfl⟩
  · refine Or.inl ⟨hrepaid, hseized, ?_, ?_, ?_⟩
    · rw [hseize]
      exact hhelper
    · rw [hseize]
      exact hrequired
    · rw [hseize]
      exact hle
  · refine Or.inr ⟨hrepaid, hseized, hseize, ?_⟩
    rw [← hrequired]
    have hlt' := BitVec.lt_def.mp hlt
    rwa [toNat_widen] at hlt'

lemma exactDebt_pos {hscale : 0 < config.oraclePriceScale.toNat}
    {hprice : 0 < reads.price.toNat} (hdebt : profile.debtToCover ≠ 0)
    (heq : profile.debtToCover.toNat
      = (reads.terms config hscale hprice).assetsDown reads.borrowShares.toNat) :
    0 < (reads.terms config hscale hprice).assetsDown reads.borrowShares.toNat := by
  rw [← heq]
  exact BitVec.toNat_pos_of_ne_zero hdebt

/-- A debt above zero is owed for shares above zero. -/
lemma shares_ne_zero {hscale : 0 < config.oraclePriceScale.toNat}
    {hprice : 0 < reads.price.toNat} (hdebt : profile.debtToCover ≠ 0)
    (heq : profile.debtToCover.toNat
      = (reads.terms config hscale hprice).assetsDown reads.borrowShares.toNat) :
    reads.shares ≠ 0 := by
  intro hzero
  have hshares : reads.borrowShares.toNat = 0 := by
    rw [← toNat_widen, ← MorphoReads.shares, hzero]
    rfl
  have hpos := exactDebt_pos hdebt heq
  rw [hshares, LiquidationTerms.assetsDown, Rounding.mulDivDown, Nat.zero_mul, Nat.zero_div] at hpos
  exact Nat.lt_irrefl 0 hpos

/-- Every profile is executable. It either repays all shares, for a collateral that is there, or
seizes all the collateral, for shares that are there; and in both modes the collateral is worth
at most the debt with its incentive. -/
theorem morphoProfile_executable
    (h : (MorphoProtocolAdapter.evaluateTarget T config identity).eval reads.answer
      = .ok (some profile)) :
    ∃ repaidShares seizedAssets, profile.repaidShares = some repaidShares ∧
      profile.seizedAssets = some seizedAssets ∧
      ((repaidShares ≠ 0 ∧ seizedAssets = 0) ∨ (repaidShares = 0 ∧ seizedAssets ≠ 0)) ∧
      profile.debtToCover ≠ 0 ∧ profile.seizeAmount ≠ 0 ∧
      (repaidShares ≠ 0 → repaidShares = reads.shares ∧
        seizedAssetsFromRepaidShares repaidShares reads.totalAssets reads.totalShares reads.lltv
          config.oraclePriceScale reads.price = .ok profile.seizeAmount ∧
        profile.seizeAmount ≤ reads.seizable) ∧
      (seizedAssets ≠ 0 → seizedAssets = profile.seizeAmount ∧
        profile.seizeAmount = reads.seizable ∧
        ∀ burnt, burntShares seizedAssets reads.totalAssets reads.totalShares reads.lltv
          config.oraclePriceScale reads.price = .ok burnt → burnt ≤ reads.shares) ∧
      ∃ lif, incentiveFactor reads.lltv = .ok lif ∧
        profile.seizeAmount.toNat * reads.price.toNat * wad.toNat
          ≤ profile.debtToCover.toNat * lif.toNat * config.oraclePriceScale.toNat := by
  obtain ⟨hscale, hprice, hdebt, hseize, hdown, ⟨lif, hlif⟩, -, hcases⟩ := profile_cases h
  have hvalue : profile.seizeAmount.toNat
      ≤ (reads.terms config hscale hprice).seizedFor reads.borrowShares.toNat →
      profile.seizeAmount.toNat * reads.price.toNat * wad.toNat
        ≤ profile.debtToCover.toNat * lif.toNat * config.oraclePriceScale.toNat := by
    intro hle
    rw [toNat_wad, hdown, toNat_of_incentiveFactor hlif]
    exact (reads.terms config hscale hprice).seized_value_le hle
  rcases hcases with ⟨hrepaid, hseized, hhelper, hexact, hle⟩ | ⟨hrepaid, hseized, hall, hlt⟩
  · refine ⟨reads.shares, 0, hrepaid, hseized, ?_, hdebt, hseize, ?_, ?_, lif, hlif, ?_⟩
    · exact Or.inl ⟨shares_ne_zero hdebt hdown, rfl⟩
    · exact fun _ => ⟨rfl, hhelper, hle⟩
    · exact fun hne => absurd rfl hne
    · exact hvalue hexact.le
  · have hcollateral : profile.seizeAmount.toNat = reads.collateral.toNat := by
      rw [hall, MorphoReads.seizable, toNat_widen]
    refine ⟨0, reads.seizable, hrepaid, hseized, ?_, hdebt, hseize, ?_, ?_, lif, hlif, ?_⟩
    · exact Or.inr ⟨rfl, hall ▸ hseize⟩
    · exact fun hne => absurd rfl hne
    · refine fun _ => ⟨hall.symm, hall, fun burnt hburnt => ?_⟩
      rw [BitVec.le_def, toNat_of_burntShares hburnt, MorphoReads.shares, toNat_widen,
        LiquidationTerms.burntFor_le_iff, MorphoReads.seizable, toNat_widen]
      exact hlt.le
    · exact hvalue (hcollateral ▸ hlt.le)

/-- The rounded sample repays all its shares for collateral that is there. -/
theorem morphoProfile_executable_sample :
    (1043841336116910227 : U256) ≤ (sampleReads 999999999999999999999999
      1100000000000000000).seizable := by
  obtain ⟨repaid, seized, hrepaid, -, -, -, -, hmode, -⟩ :=
    morphoProfile_executable sample_rounded
  cases hrepaid
  exact (hmode (by decide)).2.2

/-! ### The flash loan -/

/-- What Morpho pulls for the mode of the profile is computed without overflow and is at most
the flash amount. -/
def FlashLoanCovers (config : MorphoConfig) (reads : MorphoReads) (profile : BorrowerProfile) :
    Prop :=
  (∀ repaidShares, profile.repaidShares = some repaidShares → repaidShares ≠ 0 →
    ∃ pulled, repaidAssetsFromRepaidShares repaidShares reads.totalAssets reads.totalShares
      = .ok pulled ∧ pulled ≤ profile.debtToCover) ∧
  (∀ seizedAssets, profile.seizedAssets = some seizedAssets → seizedAssets ≠ 0 →
    ∃ pulled, repaidAssetsFromSeizedCollateral seizedAssets reads.totalAssets reads.totalShares
      reads.lltv config.oraclePriceScale reads.price = .ok pulled ∧
      pulled ≤ profile.debtToCover)

/-- A profile that repays shares needs what those shares cost. -/
lemma flashLoanCovers_repaying {shares pulled : U256}
    (hrepaid : profile.repaidShares = some shares) (hseized : profile.seizedAssets = some 0)
    (hne : shares ≠ 0) (hpulled : repaidAssetsFromRepaidShares shares reads.totalAssets
      reads.totalShares = .ok pulled) :
    FlashLoanCovers config reads profile ↔ pulled ≤ profile.debtToCover := by
  constructor
  · rintro ⟨hcovers, -⟩
    obtain ⟨pulled', hpulled', hle⟩ := hcovers shares hrepaid hne
    rw [hpulled] at hpulled'
    cases hpulled'
    exact hle
  · intro hle
    refine ⟨fun repaid hsome _ => ?_, fun seized hsome hne' => ?_⟩
    · rw [hrepaid] at hsome
      cases hsome
      exact ⟨pulled, hpulled, hle⟩
    · rw [hseized] at hsome
      cases hsome
      exact absurd rfl hne'

/-- A profile that seizes collateral needs what that collateral costs. -/
lemma flashLoanCovers_seizing {collateral pulled : U256}
    (hrepaid : profile.repaidShares = some 0) (hseized : profile.seizedAssets = some collateral)
    (hne : collateral ≠ 0) (hpulled : repaidAssetsFromSeizedCollateral collateral
      reads.totalAssets reads.totalShares reads.lltv config.oraclePriceScale reads.price
        = .ok pulled) :
    FlashLoanCovers config reads profile ↔ pulled ≤ profile.debtToCover := by
  constructor
  · rintro ⟨-, hcovers⟩
    obtain ⟨pulled', hpulled', hle⟩ := hcovers collateral hseized hne
    rw [hpulled] at hpulled'
    cases hpulled'
    exact hle
  · intro hle
    refine ⟨fun repaid hsome hne' => ?_, fun seized hsome _ => ?_⟩
    · rw [hrepaid] at hsome
      cases hsome
      exact absurd rfl hne'
    · rw [hseized] at hsome
      cases hsome
      exact ⟨pulled, hpulled, hle⟩

/-- Rounding the debt down is harmless. When the collateral suffices for all shares, the shares
are worth a whole number of loan assets; otherwise the collateral is at most what the shares
bought by the rounded debt seize. -/
def RoundingIsHarmless (reads : MorphoReads) (t : LiquidationTerms) : Prop :=
  if t.seizedFor reads.borrowShares.toNat ≤ reads.collateral.toNat then
    t.shares ∣ reads.borrowShares.toNat * t.assets
  else
    reads.collateral.toNat
      ≤ t.seizedFor (t.sharesDown (t.assetsDown reads.borrowShares.toNat))

/-- The scale of the loaded configuration. -/
lemma loadedScale_pos : 0 < MorphoConfig.load.oraclePriceScale.toNat := by decide

/-- The terms at the scale of the loaded configuration. -/
def MorphoReads.loadedTerms (reads : MorphoReads) (hprice : 0 < reads.price.toNat) :
    LiquidationTerms :=
  reads.terms .load loadedScale_pos hprice

section
variable {hprice : 0 < reads.price.toNat}

/-- The debt, rounded up, fits together with the rate. -/
lemma debt_fits {r : U256}
    (hup : toAssetsUp reads.shares reads.totalAssets reads.totalShares = .ok r)
    (hdebt : 0 < (reads.loadedTerms hprice).assetsDown reads.borrowShares.toNat) :
    reads.borrowShares.toNat * (reads.totalBorrowAssets.toNat + 1)
      + (reads.totalBorrowShares.toNat + 10 ^ 6) < 2 ^ 256 := by
  obtain ⟨n, d, hn, hd, hr⟩ := convert_eq_ok_iff.mp hup
  rw [MorphoReads.totalAssets, toNat_widen, toNat_virtualAssets] at hn
  rw [MorphoReads.totalShares, toNat_widen, toNat_virtualShares] at hd
  have hpos : 0 < reads.shares.toNat * n.toNat := by
    rw [MorphoReads.shares, toNat_widen, hn]
    refine Nat.pos_of_ne_zero fun h0 => ?_
    rw [LiquidationTerms.assetsDown, Rounding.mulDivDown, MorphoReads.loadedTerms,
      MorphoReads.terms, h0, Nat.zero_div] at hdebt
    exact absurd hdebt (Nat.lt_irrefl 0)
  have hfits := (lt_of_mulDivUp hr hpos).2
  rwa [hn, hd, MorphoReads.shares, toNat_widen] at hfits

/-- A debt is at most the assets of the market. -/
lemma assetsDown_le (hshares : reads.borrowShares ≤ reads.totalBorrowShares) :
    (reads.loadedTerms hprice).assetsDown reads.borrowShares.toNat
      ≤ reads.totalBorrowAssets.toNat + 1 := by
  have hle : reads.borrowShares.toNat ≤ reads.totalBorrowShares.toNat + 10 ^ 6 :=
    (BitVec.le_def.mp hshares).trans (Nat.le_add_right _ _)
  refine Nat.div_le_of_le_mul ?_
  exact Nat.mul_le_mul_right _ hle

/-- The value of a debt with its incentive stays far below the word size. -/
lemma value_lt (hshares : reads.borrowShares ≤ reads.totalBorrowShares) :
    Rounding.mulDivDown ((reads.loadedTerms hprice).assetsDown reads.borrowShares.toNat)
      (exactIncentive reads.lltv.toNat) (10 ^ 18) ≤ 2 ^ 129 := by
  have hdebt : (reads.loadedTerms hprice).assetsDown reads.borrowShares.toNat
      ≤ reads.totalBorrowAssets.toNat + 1 := assetsDown_le hshares
  have hassets := reads.totalBorrowAssets.isLt
  refine Nat.div_le_of_le_mul ?_
  calc (reads.loadedTerms hprice).assetsDown reads.borrowShares.toNat
        * exactIncentive reads.lltv.toNat
      ≤ 2 ^ 128 * (115 * 10 ^ 16) :=
        Nat.mul_le_mul (hdebt.trans hassets) (exactIncentive_bounds _).2
    _ ≤ 10 ^ 18 * 2 ^ 129 := by decide

/-- What fits with the shares of the market also fits with its assets: the one product that
would not is too large for both. -/
lemma fits_with_assets {s assets shares : ℕ} (hs : s ≤ shares) (hshares : shares < 2 ^ 128)
    (hassets : assets < 2 ^ 128)
    (hfits : s * (assets + 1) + (shares + 10 ^ 6) < 2 ^ 256) :
    s * (assets + 1) + (assets + 1) < 2 ^ 256 := by
  by_cases hlt : assets + 1 < 2 ^ 128
  · calc s * (assets + 1) + (assets + 1)
        = (s + 1) * (assets + 1) := (Nat.succ_mul _ _).symm
      _ ≤ 2 ^ 128 * (2 ^ 128 - 1) := Nat.mul_le_mul (by omega) (by omega)
      _ < 2 ^ 256 := by decide
  · have heq : assets + 1 = 2 ^ 128 := by omega
    rw [heq] at hfits ⊢
    have hs' : s + 1 < 2 ^ 128 := by
      by_contra hge
      have hmul : (2 ^ 128 - 1) * 2 ^ 128 ≤ s * 2 ^ 128 := Nat.mul_le_mul_right _ (by omega)
      omega
    calc s * 2 ^ 128 + 2 ^ 128
        = (s + 1) * 2 ^ 128 := (Nat.succ_mul _ _).symm
      _ < 2 ^ 128 * 2 ^ 128 := Nat.mul_lt_mul_of_pos_right hs' (by decide)
      _ = 2 ^ 256 := by decide

/-- The shares burnt for the collateral are computed when its value and they fit. -/
lemma burntShares_of_fits (hprice : 0 < reads.price.toNat)
    (hlif : ∃ lif, incentiveFactor reads.lltv = .ok lif)
    (hvalue : reads.collateral.toNat * reads.price.toNat + 10 ^ 36 < 2 ^ 256)
    (hshares : (reads.loadedTerms hprice).repaidFor reads.collateral.toNat
      * (reads.totalBorrowShares.toNat + 10 ^ 6) + (reads.totalBorrowAssets.toNat + 1)
        < 2 ^ 256) :
    ∃ burnt, burntShares reads.seizable reads.totalAssets reads.totalShares reads.lltv
      oraclePriceScale reads.price = .ok burnt := by
  obtain ⟨lif, hlif⟩ := hlif
  have hlif' := toNat_of_incentiveFactor hlif
  have hlifBounds := exactIncentive_bounds reads.lltv.toNat
  have hseizable : reads.seizable.toNat = reads.collateral.toNat := toNat_widen _
  obtain ⟨quoted, hquoted⟩ : ∃ q, mulDivUp reads.seizable reads.price oraclePriceScale = .ok q := by
    apply mulDivUp_of_lt
    · decide
    · rw [hseizable, toNat_oraclePriceScale]
      exact hvalue
  have hquoted' : quoted.toNat ≤ 2 ^ 137 := by
    rw [toNat_of_mulDivUp hquoted, hseizable, toNat_oraclePriceScale,
      Rounding.mulDivUp_le_iff (by decide)]
    omega
  obtain ⟨repaid, hrepaid⟩ : ∃ v, wdivUp quoted lif = .ok v := by
    apply mulDivUp_of_lt
    · rw [hlif']
      exact Nat.lt_of_lt_of_le (by decide) hlifBounds.1
    · rw [hlif', toNat_wad]
      have hproduct := Nat.mul_le_mul_right (10 ^ 18) hquoted'
      exact Nat.lt_of_le_of_lt (Nat.add_le_add hproduct hlifBounds.2) (by decide)
  have hrepaid' : repaid.toNat
      = (reads.loadedTerms hprice).repaidFor reads.collateral.toNat := by
    rw [toNat_of_mulDivUp hrepaid, toNat_of_mulDivUp hquoted, hseizable, toNat_wad, hlif']
    rfl
  obtain ⟨burnt, hburnt⟩ : ∃ b, toSharesUp repaid reads.totalAssets reads.totalShares = .ok b := by
    apply toSharesUp_widen_of_lt
    rw [hrepaid']
    exact hshares
  refine ⟨burnt, ?_⟩
  simp only [burntShares, Checked.bind_eq_ok_iff]
  exact ⟨quoted, hquoted, lif, hlif, repaid, hrepaid, hburnt⟩

/-- The shares burnt for the collateral are computed without overflow. -/
lemma burntShares_returns {r : U256} (hshares : reads.borrowShares ≤ reads.totalBorrowShares)
    (hlif : ∃ lif, incentiveFactor reads.lltv = .ok lif)
    (hup : toAssetsUp reads.shares reads.totalAssets reads.totalShares = .ok r)
    (hdebt : 0 < (reads.loadedTerms hprice).assetsDown reads.borrowShares.toNat)
    (hle : reads.collateral.toNat
      ≤ (reads.loadedTerms hprice).seizedFor reads.borrowShares.toNat) :
    ∃ burnt, burntShares reads.seizable reads.totalAssets reads.totalShares reads.lltv
      oraclePriceScale reads.price = .ok burnt := by
  have hvalue : Rounding.mulDivDown
      ((reads.loadedTerms hprice).assetsDown reads.borrowShares.toNat)
      (exactIncentive reads.lltv.toNat) (10 ^ 18) ≤ 2 ^ 129 := value_lt hshares
  -- the collateral is quoted at no more than the value of the debt
  have hquote : reads.collateral.toNat * reads.price.toNat ≤
      Rounding.mulDivDown ((reads.loadedTerms hprice).assetsDown reads.borrowShares.toNat)
        (exactIncentive reads.lltv.toNat) (10 ^ 18) * oraclePriceScale.toNat :=
    (Rounding.le_mulDivDown_iff hprice).mp hle
  -- so its shares are at most those of the debt, which fit
  have hrepaid : (reads.loadedTerms hprice).repaidFor reads.collateral.toNat
      ≤ (reads.loadedTerms hprice).assetsDown reads.borrowShares.toNat :=
    (reads.loadedTerms hprice).repaidFor_le_iff.mpr hle
  have hfits := fits_with_assets (BitVec.le_def.mp hshares) reads.totalBorrowShares.isLt
    reads.totalBorrowAssets.isLt (debt_fits hup hdebt)
  have hdown : (reads.loadedTerms hprice).assetsDown reads.borrowShares.toNat
      * (reads.totalBorrowShares.toNat + 10 ^ 6)
      ≤ reads.borrowShares.toNat * (reads.totalBorrowAssets.toNat + 1) :=
    Rounding.mulDivDown_mul_le
  apply burntShares_of_fits hprice hlif
  · have hproduct := hquote.trans (Nat.mul_le_mul_right _ hvalue)
    rw [toNat_oraclePriceScale] at hproduct
    omega
  · have := Nat.mul_le_mul_right (reads.totalBorrowShares.toNat + 10 ^ 6) hrepaid
    omega

/-- The loan pulled for the collateral is computed once the shares burnt for it are. -/
lemma repaidAssets_of_burntShares {r burnt : U256}
    (hup : toAssetsUp reads.shares reads.totalAssets reads.totalShares = .ok r)
    (hdebt : 0 < (reads.loadedTerms hprice).assetsDown reads.borrowShares.toNat)
    (hle : reads.collateral.toNat
      ≤ (reads.loadedTerms hprice).seizedFor reads.borrowShares.toNat)
    (hburnt : burntShares reads.seizable reads.totalAssets reads.totalShares reads.lltv
      oraclePriceScale reads.price = .ok burnt) :
    ∃ pulled, repaidAssetsFromSeizedCollateral reads.seizable reads.totalAssets
        reads.totalShares reads.lltv MorphoConfig.load.oraclePriceScale reads.price
          = .ok pulled ∧
      pulled.toNat = (reads.loadedTerms hprice).pulledFor reads.collateral.toNat := by
  have hexact : burnt.toNat = (reads.loadedTerms hprice).burntFor reads.collateral.toNat := by
    have hterms : burnt.toNat = (reads.loadedTerms hprice).burntFor reads.seizable.toNat :=
      toNat_of_burntShares hburnt
    rwa [MorphoReads.seizable, toNat_widen] at hterms
  have hle' : burnt.toNat ≤ reads.borrowShares.toNat := by
    rw [hexact, LiquidationTerms.burntFor_le_iff]
    exact hle
  have hfits := debt_fits hup hdebt
  have hproduct := Nat.mul_le_mul_right (reads.totalBorrowAssets.toNat + 1) hle'
  obtain ⟨pulled, hpulled⟩ :
      ∃ v, toAssetsUp burnt reads.totalAssets reads.totalShares = .ok v := by
    apply toAssetsUp_widen_of_lt
    exact Nat.lt_of_le_of_lt (Nat.add_le_add_right hproduct _) hfits
  refine ⟨pulled, repaidAssetsFromSeizedCollateral_eq_ok_iff.mpr ⟨burnt, hburnt, hpulled⟩, ?_⟩
  rw [toNat_of_toAssetsUp hpulled, hexact, MorphoReads.totalAssets, MorphoReads.totalShares,
    toNat_widen, toNat_widen]
  rfl

/-- The loan pulled for the collateral is computed without overflow. -/
lemma repaidAssets_returns {r : U256} (hshares : reads.borrowShares ≤ reads.totalBorrowShares)
    (hlif : ∃ lif, incentiveFactor reads.lltv = .ok lif)
    (hup : toAssetsUp reads.shares reads.totalAssets reads.totalShares = .ok r)
    (hdebt : 0 < (reads.loadedTerms hprice).assetsDown reads.borrowShares.toNat)
    (hle : reads.collateral.toNat
      ≤ (reads.loadedTerms hprice).seizedFor reads.borrowShares.toNat) :
    ∃ pulled, repaidAssetsFromSeizedCollateral reads.seizable reads.totalAssets
        reads.totalShares reads.lltv MorphoConfig.load.oraclePriceScale reads.price
          = .ok pulled ∧
      pulled.toNat = (reads.loadedTerms hprice).pulledFor reads.collateral.toNat := by
  obtain ⟨burnt, hburnt⟩ := burntShares_returns hshares hlif hup hdebt hle
  exact repaidAssets_of_burntShares hup hdebt hle hburnt

/-- The flash loan covers what Morpho pulls exactly when rounding the debt down is harmless. -/
theorem flashLoan_covers_iff (hshares : reads.borrowShares ≤ reads.totalBorrowShares)
    (hprice : 0 < reads.price.toNat)
    (h : (MorphoProtocolAdapter.evaluateTarget T .load identity).eval reads.answer
      = .ok (some profile)) :
    FlashLoanCovers .load reads profile ↔ RoundingIsHarmless reads (reads.loadedTerms hprice) := by
  obtain ⟨hscale, hprice, hdebt, hseize, hdown, hlif, ⟨up, hup⟩, hcases⟩ := profile_cases h
  have hdown' : profile.debtToCover.toNat
      = (reads.loadedTerms hprice).assetsDown reads.borrowShares.toNat := hdown
  have hpos : 0 < (reads.loadedTerms hprice).assetsDown reads.borrowShares.toNat :=
    exactDebt_pos hdebt hdown
  rcases hcases with ⟨hrepaid, hseized, -, hexact, hle⟩ | ⟨hrepaid, hseized, hall, hlt⟩
  · have hmode : (reads.loadedTerms hprice).seizedFor reads.borrowShares.toNat
        ≤ reads.collateral.toNat := by
      have hle' := BitVec.le_def.mp hle
      rwa [hexact, MorphoReads.seizable, toNat_widen] at hle'
    rw [flashLoanCovers_repaying hrepaid hseized (shares_ne_zero hdebt hdown) hup, BitVec.le_def,
      toNat_of_toAssetsUp hup, hdown', RoundingIsHarmless, if_pos hmode, MorphoReads.shares,
      MorphoReads.totalAssets, MorphoReads.totalShares, toNat_widen, toNat_widen, toNat_widen]
    exact Rounding.mulDivUp_le_mulDivDown_iff (reads.loadedTerms hprice).shares_pos
  · have hmode : ¬ (reads.loadedTerms hprice).seizedFor reads.borrowShares.toNat
        ≤ reads.collateral.toNat := Nat.not_le.mpr hlt
    obtain ⟨pulled, hpulled, hexact⟩ := repaidAssets_returns hshares hlif hup hpos hlt.le
    rw [flashLoanCovers_seizing hrepaid hseized (hall ▸ hseize) hpulled, BitVec.le_def, hexact,
      hdown', RoundingIsHarmless, if_neg hmode]
    exact (reads.loadedTerms hprice).pulledFor_le_iff

end

/-- The flash loan of the exact sample covers what Morpho pulls. -/
theorem flashLoan_covers_iff_sample :
    FlashLoanCovers .load (sampleReads 1000000000000000000000000 1100000000000000000)
      (sampleMorphoProfile (.repayShares 1000000000000000000000000 1043841336116910229)
        1000000000000000000) := by
  refine (flashLoan_covers_iff (by decide) (by decide) sample_exact).mpr ?_
  rw [RoundingIsHarmless, if_pos (by decide)]
  decide

/-- The flash loan of the rounded sample is one unit short of what Morpho pulls. -/
theorem flashLoan_one_short :
    ¬ ∀ (T : EthersText) (identity : Text) (reads : MorphoReads) (profile : BorrowerProfile),
      reads.borrowShares ≤ reads.totalBorrowShares → reads.lltv < wad → 0 < reads.price →
      (MorphoProtocolAdapter.evaluateTarget T .load identity).eval reads.answer
        = .ok (some profile) →
      FlashLoanCovers .load reads profile := by
  intro h
  have hcovers := h _ _ _ _ (by decide) (by decide) (by decide) sample_rounded
  have hpulled : repaidAssetsFromRepaidShares 999999999999999999999999
      (sampleReads 999999999999999999999999 1100000000000000000).totalAssets
      (sampleReads 999999999999999999999999 1100000000000000000).totalShares
        = .ok 1000000000000000000 := rfl
  have hle := (flashLoanCovers_repaying rfl rfl (by decide) hpulled).mp hcovers
  exact absurd hle (by decide)

end LiqRanger
