import LiqRanger.Morpho.Properties
import LiqRanger.Pipeline.Broadcast

/-!
# The profit guard on a bad debt

The guard compares a quote with the whole debt. A profile that seizes the collateral of a bad
debt pulls less than that, so the guard accepts every quote that covers what is pulled only when
the collateral is worth the debt but for the rounding (`profitGuard_accepts_iff`).
-/

namespace LiqRanger

open Effect

variable {ρ : Type} {T : EthersText} {identity : Text} {reads : MorphoReads}
  {profile : BorrowerProfile} {seized : U256}

/-! ### The guard -/

/-- Whenever the loan pulled for the seized collateral is computed, every quote that covers it
goes through. -/
def GuardAcceptsCovering (ρ : Type) (reads : MorphoReads) (profile : BorrowerProfile)
    (seized : U256) : Prop :=
  ∀ (quote : MarketQuote) (pulled : U256),
    repaidAssetsFromSeizedCollateral seized reads.totalAssets reads.totalShares reads.lltv
      oraclePriceScale reads.price = .ok pulled →
    pulled ≤ quote.minAmtOut →
    (fetchAndValidateQuote profile : Program (ports ρ) _ _).Trace
      [quoteEvent profile (.ok quote)] (.ok (some quote))

/-- A quote goes through exactly when it covers the debt. -/
lemma fetchAndValidateQuote_accepts_iff {quote : MarketQuote} :
    (fetchAndValidateQuote profile : Program (ports ρ) _ _).Trace
      [quoteEvent profile (.ok quote)] (.ok (some quote)) ↔
    profile.debtToCover ≤ quote.minAmtOut := by
  constructor
  · intro h
    obtain ⟨reply, -, hnone | ⟨quote', -, hcovers, hsome⟩⟩ := fetchAndValidateQuote_trace h
    · cases hnone
    · cases hsome
      exact hcovers
  · exact fetchAndValidateQuote_accepts

/-- The guard accepts every quote that covers what is pulled exactly when the debt is at most
what is pulled. -/
lemma guardAcceptsCovering_iff :
    GuardAcceptsCovering ρ reads profile seized ↔
      ∀ pulled, repaidAssetsFromSeizedCollateral seized reads.totalAssets reads.totalShares
        reads.lltv oraclePriceScale reads.price = .ok pulled → profile.debtToCover ≤ pulled := by
  simp only [GuardAcceptsCovering, fetchAndValidateQuote_accepts_iff]
  constructor
  · intro h pulled hpulled
    exact h ⟨.zero 20, .zero 20, [], pulled⟩ pulled hpulled (BitVec.le_refl pulled)
  · intro h quote pulled hpulled hcovers
    exact BitVec.le_trans (h pulled hpulled) hcovers

/-! ### What is pulled -/

/-- The value of the collateral and its shares fit a word. For a debt whose shares are among
those of the market they do (`burntShares_returns`). -/
def PulledFits (reads : MorphoReads) (t : LiquidationTerms) : Prop :=
  reads.collateral.toNat * reads.price.toNat + 10 ^ 36 < 2 ^ 256 ∧
  t.repaidFor reads.collateral.toNat * t.shares + t.assets < 2 ^ 256

/-- The collateral is worth the debt but for the rounding: more of it is there than the shares
seize that one loan asset less than the debt buys. -/
def CollateralReachesDebt (reads : MorphoReads) : Prop :=
  ∀ hprice : 0 < reads.price.toNat, PulledFits reads (reads.loadedTerms hprice) →
    (reads.loadedTerms hprice).seizedFor ((reads.loadedTerms hprice).sharesDown
      ((reads.loadedTerms hprice).assetsDown reads.borrowShares.toNat - 1))
        < reads.collateral.toNat

/-- The shares burnt for some collateral are only computed when its value and they fit. -/
lemma pulledFits_of_burntShares {hprice : 0 < reads.price.toNat} {burnt : U256}
    (hpos : 0 < reads.collateral.toNat)
    (h : burntShares reads.seizable reads.totalAssets reads.totalShares reads.lltv
      oraclePriceScale reads.price = .ok burnt) :
    PulledFits reads (reads.loadedTerms hprice) := by
  simp only [burntShares, Checked.bind_eq_ok_iff] at h
  obtain ⟨quoted, hquoted, lif, hlif, repaid, hrepaid, hburnt⟩ := h
  have hseizable : reads.seizable.toNat = reads.collateral.toNat := toNat_widen _
  have hquoted' : quoted.toNat
      = Rounding.mulDivUp reads.collateral.toNat reads.price.toNat oraclePriceScale.toNat := by
    rw [toNat_of_mulDivUp hquoted, hseizable]
  have hrepaid' : repaid.toNat
      = (reads.loadedTerms hprice).repaidFor reads.collateral.toNat := by
    rw [toNat_of_mulDivUp hrepaid, hquoted', toNat_wad, toNat_of_incentiveFactor hlif]
    rfl
  obtain ⟨n, d, hn, hd, hround⟩ := convert_eq_ok_iff.mp hburnt
  rw [MorphoReads.totalShares, toNat_widen, toNat_virtualShares] at hn
  rw [MorphoReads.totalAssets, toNat_widen, toNat_virtualAssets] at hd
  have hvalue : 0 < reads.seizable.toNat * reads.price.toNat := by
    rw [hseizable]
    exact Nat.mul_pos hpos hprice
  have hshares : 0 < repaid.toNat * n.toNat := by
    rw [hrepaid', hn]
    refine Nat.mul_pos ?_ (add_virtualShares_pos _)
    refine Rounding.mulDivUp_pos (Nat.mul_pos ?_ (reads.loadedTerms hprice).one_pos)
      (reads.loadedTerms hprice).lif_pos
    exact Rounding.mulDivUp_pos (Nat.mul_pos hpos hprice) loadedScale_pos
  constructor
  · have hfits := (lt_of_mulDivUp hquoted hvalue).2
    rwa [hseizable, toNat_oraclePriceScale] at hfits
  · have hfits := (lt_of_mulDivUp hround hshares).2
    rwa [hrepaid', hn, hd] at hfits

/-! ### The guard on a bad debt -/

/-- The guard accepts every quote that covers what the seized collateral pulls exactly when the
collateral is worth the debt but for the rounding. -/
theorem profitGuard_accepts_iff
    (h : (MorphoProtocolAdapter.evaluateTarget T .load identity).eval reads.answer
      = .ok (some profile))
    (hseized : profile.seizedAssets = some seized) (hne : seized ≠ 0) :
    GuardAcceptsCovering ρ reads profile seized ↔ CollateralReachesDebt reads := by
  obtain ⟨hscale, hprice, hdebt, hseize, hdown, hlif, ⟨up, hup⟩, hcases⟩ := profile_cases h
  rcases hcases with ⟨-, hzero, -⟩ | ⟨-, hcollateral, hall, hlt⟩
  · -- a profile that repays shares seizes no collateral by amount
    rw [hzero] at hseized
    exact absurd (Option.some.inj hseized).symm hne
  rw [hcollateral] at hseized
  cases hseized
  have hdown' : profile.debtToCover.toNat
      = (reads.loadedTerms hprice).assetsDown reads.borrowShares.toNat := hdown
  have hpos : 0 < (reads.loadedTerms hprice).assetsDown reads.borrowShares.toNat :=
    exactDebt_pos hdebt hdown
  have hcollateral' : 0 < reads.collateral.toNat := by
    rw [← toNat_widen]
    exact BitVec.toNat_pos_of_ne_zero hne
  have hle : reads.collateral.toNat
      ≤ (reads.loadedTerms hprice).seizedFor reads.borrowShares.toNat := hlt.le
  rw [guardAcceptsCovering_iff]
  constructor
  · intro hbound hprice' hfits
    obtain ⟨burnt, hburnt⟩ := burntShares_of_fits hprice hlif hfits.1 hfits.2
    obtain ⟨pulled, hpulled, hexact⟩ := repaidAssets_of_burntShares hup hpos hle hburnt
    have hdebt' := BitVec.le_def.mp (hbound pulled hpulled)
    rwa [hdown', hexact, LiquidationTerms.le_pulledFor_iff _ hpos] at hdebt'
  · intro hreaches pulled hpulled
    obtain ⟨burnt, hburnt, -⟩ := repaidAssetsFromSeizedCollateral_eq_ok_iff.mp hpulled
    obtain ⟨pulled', hpulled', hexact⟩ := repaidAssets_of_burntShares hup hpos hle hburnt
    have hsame : Except.ok (ε := Panic) pulled = .ok pulled' := hpulled.symm.trans hpulled'
    cases hsame
    rw [BitVec.le_def, hdown', hexact, LiquidationTerms.le_pulledFor_iff _ hpos]
    exact hreaches hprice (pulledFits_of_burntShares hcollateral' hburnt)

/-! ### Sample debts -/

/-- One unit of collateral short of the whole debt. -/
lemma sample_short : (MorphoProtocolAdapter.evaluateTarget .reference .load
      sampleMorphoIdentity).eval
      (sampleReads 1000000000000000000000000 1043841336116910228).answer
    = .ok (some (sampleMorphoProfile (.seizeCollateral 1043841336116910228)
        1000000000000000000)) :=
  evaluateTarget_of_target _ _ rfl (by decide) (by decide) rfl rfl

/-- Half a unit of collateral for a debt of one. -/
lemma sample_badDebt : (MorphoProtocolAdapter.evaluateTarget .reference .load
      sampleMorphoIdentity).eval
      (sampleReads 1000000000000000000000000 500000000000000000).answer
    = .ok (some (sampleMorphoProfile (.seizeCollateral 500000000000000000)
        1000000000000000000)) :=
  evaluateTarget_of_target _ _ rfl (by decide) (by decide) rfl rfl

/-- The guard accepts every covering quote for the debt that its collateral just misses. -/
theorem profitGuard_accepts_iff_sample :
    GuardAcceptsCovering Unit (sampleReads 1000000000000000000000000 1043841336116910228)
      (sampleMorphoProfile (.seizeCollateral 1043841336116910228) 1000000000000000000)
      1043841336116910228 := by
  refine (profitGuard_accepts_iff sample_short rfl (by decide)).mpr fun hprice hfits => ?_
  clear hfits
  decide +revert

/-- A quote of 0.6 covers the 0.48 that the half unit of collateral pulls, and is rejected for the
debt of one. -/
theorem profitGuard_rejects :
    ¬ ∀ (T : EthersText) (identity : Text) (reads : MorphoReads) (profile : BorrowerProfile)
      (seized : U256),
      (MorphoProtocolAdapter.evaluateTarget T .load identity).eval reads.answer
        = .ok (some profile) →
      profile.seizedAssets = some seized → seized ≠ 0 →
      GuardAcceptsCovering Unit reads profile seized := by
  intro h
  have haccepts := h _ _ _ _ _ sample_badDebt rfl (by decide)
    ⟨.zero 20, .zero 20, [], 600000000000000000⟩ _ rfl (by decide)
  rw [fetchAndValidateQuote_accepts_iff] at haccepts
  exact absurd haccepts (by decide)

end LiqRanger
