import LiqRanger.Morpho.Panics

/-!
# Conversions, the incentive and the health check

The laws of the helpers over words: at one pair of totals each conversion that rounds down is
adjoint to the inverse one that rounds up (`conversions_adjoint`), the incentive lies between one
and its maximum and goes down as the threshold goes up (`incentiveFactor_laws`), and a healthy
position stays healthy when everything moves in its favour (`isHealthy_mono`).
-/

namespace LiqRanger

/-! ### Shares and assets -/

section
variable {amount totalAssets totalShares r : U256}

lemma toNat_of_toSharesDown (h : toSharesDown amount totalAssets totalShares = .ok r) :
    r.toNat = Rounding.mulDivDown amount.toNat (totalShares.toNat + 10 ^ 6)
      (totalAssets.toNat + 1) := by
  obtain ⟨n, d, hn, hd, hr⟩ := convert_eq_ok_iff.mp h
  rw [(mulDivDown_eq_ok_iff.mp hr).2.2, hn, hd, toNat_virtualAssets, toNat_virtualShares]

end

/-- Both directions of a division, when the product and the divisor fit together. -/
lemma mulDiv_returns {x y d : U256} (hd : 0 < d.toNat)
    (hfits : x.toNat * y.toNat + d.toNat < 2 ^ 256) :
    ∃ down up, mulDivDown x y d = .ok down ∧ mulDivUp x y d = .ok up ∧
      down.toNat = x.toNat * y.toNat / d.toNat ∧ up.toNat = x.toNat * y.toNat ⌈/⌉ d.toNat ∧
      down ≤ up ∧ up.toNat ≤ down.toNat + 1 := by
  obtain ⟨down, hdown⟩ := mulDivDown_returns_iff.mpr ⟨Nat.lt_of_add_right_lt hfits, hd⟩
  obtain ⟨up, hup⟩ := mulDivUp_of_lt hd hfits
  have hdownNat := (mulDivDown_eq_ok_iff.mp hdown).2.2
  have hupNat := toNat_of_mulDivUp hup
  refine ⟨down, up, hdown, hup, hdownNat, hupNat, ?_, ?_⟩
  · rw [BitVec.le_def, hdownNat, hupNat]
    exact Rounding.mulDivDown_le_mulDivUp hd
  · rw [hdownNat, hupNat]
    exact Rounding.mulDivUp_le_mulDivDown_succ hd

/-- The laws of the conversions at one pair of totals, wherever they return: each adjunction, and
what a round trip costs. -/
structure ConversionsAdjoint (totalAssets totalShares : U256) : Prop where
  sharesUp_le_iff : ∀ {s a down up : U256}, toAssetsDown s totalAssets totalShares = .ok down →
    toSharesUp a totalAssets totalShares = .ok up → (a ≤ down ↔ up ≤ s)
  assetsUp_le_iff : ∀ {s a down up : U256}, toAssetsUp s totalAssets totalShares = .ok up →
    toSharesDown a totalAssets totalShares = .ok down → (up ≤ a ↔ s ≤ down)
  sharesDown_assetsDown : ∀ {s a s' : U256}, toAssetsDown s totalAssets totalShares = .ok a →
    toSharesDown a totalAssets totalShares = .ok s' → s' ≤ s
  assetsDown_sharesDown : ∀ {a s a' : U256}, toSharesDown a totalAssets totalShares = .ok s →
    toAssetsDown s totalAssets totalShares = .ok a' → a' ≤ a
  sharesUp_assetsDown : ∀ {s a s' : U256}, toAssetsDown s totalAssets totalShares = .ok a →
    toSharesUp a totalAssets totalShares = .ok s' → s' ≤ s
  assetsUp_sharesUp : ∀ {a s a' : U256}, toSharesUp a totalAssets totalShares = .ok s →
    toAssetsUp s totalAssets totalShares = .ok a' → a ≤ a'

/-- A conversion returns when the totals with the virtual amounts and its product fit, and for
rounding up the product together with the divisor. -/
structure ConversionsReturn (totalAssets totalShares : U256) : Prop where
  assetsDown : ∀ {s : U256}, s.toNat * (totalAssets.toNat + 1) < 2 ^ 256 →
    ∃ a, toAssetsDown s totalAssets totalShares = .ok a
  assetsUp : ∀ {s : U256},
    s.toNat * (totalAssets.toNat + 1) + (totalShares.toNat + 10 ^ 6) < 2 ^ 256 →
      ∃ a, toAssetsUp s totalAssets totalShares = .ok a
  sharesDown : ∀ {a : U256}, a.toNat * (totalShares.toNat + 10 ^ 6) < 2 ^ 256 →
    ∃ s, toSharesDown a totalAssets totalShares = .ok s
  sharesUp : ∀ {a : U256},
    a.toNat * (totalShares.toNat + 10 ^ 6) + (totalAssets.toNat + 1) < 2 ^ 256 →
      ∃ s, toSharesUp a totalAssets totalShares = .ok s

section
variable {totalAssets totalShares : U256}

lemma conversionsAdjoint (totalAssets totalShares : U256) :
    ConversionsAdjoint totalAssets totalShares := by
  have hassets : 0 < totalAssets.toNat + 1 := Nat.succ_pos _
  have hshares : 0 < totalShares.toNat + 10 ^ 6 := add_virtualShares_pos _
  have hsharesUp : ∀ {s a down up : U256}, toAssetsDown s totalAssets totalShares = .ok down →
      toSharesUp a totalAssets totalShares = .ok up → (a ≤ down ↔ up ≤ s) := by
    intro s a down up hdown hup
    rw [BitVec.le_def, BitVec.le_def, toNat_of_toAssetsDown hdown, toNat_of_toSharesUp hup]
    exact (Rounding.mulDivUp_le_iff_le_mulDivDown hshares hassets).symm
  have hassetsUp : ∀ {s a down up : U256}, toAssetsUp s totalAssets totalShares = .ok up →
      toSharesDown a totalAssets totalShares = .ok down → (up ≤ a ↔ s ≤ down) := by
    intro s a down up hup hdown
    rw [BitVec.le_def, BitVec.le_def, toNat_of_toAssetsUp hup, toNat_of_toSharesDown hdown]
    exact Rounding.mulDivUp_le_iff_le_mulDivDown hassets hshares
  refine ⟨hsharesUp, hassetsUp, ?_, ?_, ?_, ?_⟩
  · intro s a s' ha hs'
    rw [BitVec.le_def, toNat_of_toSharesDown hs', toNat_of_toAssetsDown ha]
    exact Rounding.mulDivDown_mulDivDown_le
  · intro a s a' hs ha'
    rw [BitVec.le_def, toNat_of_toAssetsDown ha', toNat_of_toSharesDown hs]
    exact Rounding.mulDivDown_mulDivDown_le
  · intro s a s' ha hs'
    exact (hsharesUp ha hs').mp (BitVec.le_refl a)
  · intro a s a' hs ha'
    rw [BitVec.le_def, toNat_of_toAssetsUp ha', toNat_of_toSharesUp hs]
    exact Rounding.le_mulDivUp_mulDivUp hshares hassets

lemma conversionsReturn (hassets : totalAssets.toNat + 1 < 2 ^ 256)
    (hshares : totalShares.toNat + 10 ^ 6 < 2 ^ 256) :
    ConversionsReturn totalAssets totalShares where
  assetsDown := toAssetsDown_of_lt hassets hshares
  assetsUp := toAssetsUp_of_lt hassets hshares
  sharesDown := toSharesDown_of_lt hassets hshares
  sharesUp := toSharesUp_of_lt hassets hshares

/-- Rounding up is the ceiling and at most one above rounding down; at one pair of totals the
conversions are adjoint, and they return wherever their operations fit. -/
theorem conversions_adjoint :
    (∀ x y d : U256, 0 < d.toNat → x.toNat * y.toNat + d.toNat < 2 ^ 256 →
      ∃ down up, mulDivDown x y d = .ok down ∧ mulDivUp x y d = .ok up ∧
        up.toNat = x.toNat * y.toNat ⌈/⌉ d.toNat ∧ down ≤ up ∧ up.toNat ≤ down.toNat + 1) ∧
    ∀ totalAssets totalShares : U256, ConversionsAdjoint totalAssets totalShares ∧
      (totalAssets.toNat + 1 < 2 ^ 256 → totalShares.toNat + 10 ^ 6 < 2 ^ 256 →
        ConversionsReturn totalAssets totalShares) := by
  constructor
  · intro x y d hd hfits
    obtain ⟨down, up, hdown, hup, -, hceil, hle, hle'⟩ := mulDiv_returns hd hfits
    exact ⟨down, up, hdown, hup, hceil, hle, hle'⟩
  · exact fun totalAssets totalShares =>
      ⟨conversionsAdjoint totalAssets totalShares, conversionsReturn⟩

/-- Ten times ten by six is 17 rounded up; two million shares of a market of a hundred assets and a
million shares come back from their assets rounded up. -/
theorem conversions_adjoint_sample :
    (∃ up, mulDivUp 10 10 6 = .ok up ∧ up.toNat = 17) ∧
    ∀ up, toSharesUp 101 100 1000000 = .ok up → (101 ≤ (101 : U256) ↔ up ≤ (2000000 : U256)) := by
  obtain ⟨hdiv, hconvert⟩ := conversions_adjoint
  refine ⟨?_, fun up hup => ?_⟩
  · obtain ⟨-, up, -, hup, hceil, -⟩ := hdiv 10 10 6 (by decide) (by decide)
    exact ⟨up, hup, hceil⟩
  · exact (hconvert 100 1000000).1.sharesUp_le_iff (by decide +kernel) hup

end

/-! ### The incentive -/

/-- A higher threshold is a lower incentive. -/
lemma exactIncentive_antitone {l l' : ℕ} (h : l' ≤ l) : exactIncentive l ≤ exactIncentive l' := by
  have hgap : 10 ^ 18 - l ≤ 10 ^ 18 - l' := Nat.sub_le_sub_left h _
  have hdiscount : Rounding.mulDivDown (3 * 10 ^ 17) (10 ^ 18 - l) (10 ^ 18)
      ≤ Rounding.mulDivDown (3 * 10 ^ 17) (10 ^ 18 - l') (10 ^ 18) :=
    Rounding.mulDivDown_mono (Nat.le_refl _) hgap (Nat.le_refl _) (by decide)
  have hbound : Rounding.mulDivDown (3 * 10 ^ 17) (10 ^ 18 - l') (10 ^ 18) ≤ 3 * 10 ^ 17 :=
    Rounding.mulDivDown_le_left (Nat.sub_le _ _)
  refine min_le_min_left _ ?_
  exact Rounding.mulDivDown_mono (Nat.le_refl _) (Nat.le_refl _)
    (Nat.sub_le_sub_left hdiscount _) (by omega)

/-- What a liquidation seizes for a debt at its threshold is covered by the collateral. -/
lemma exactIncentive_mul_le {l : ℕ} (h : l ≤ 10 ^ 18) :
    exactIncentive l * l ≤ 10 ^ 18 * 10 ^ 18 := by
  have hdiscount : Rounding.mulDivDown (3 * 10 ^ 17) (10 ^ 18 - l) (10 ^ 18) ≤ 10 ^ 18 - l :=
    Rounding.mulDivDown_le_right (by decide)
  have hdenom : l ≤ 10 ^ 18 - Rounding.mulDivDown (3 * 10 ^ 17) (10 ^ 18 - l) (10 ^ 18) := by
    omega
  calc exactIncentive l * l
      ≤ Rounding.mulDivDown (10 ^ 18) (10 ^ 18)
          (10 ^ 18 - Rounding.mulDivDown (3 * 10 ^ 17) (10 ^ 18 - l) (10 ^ 18))
        * (10 ^ 18 - Rounding.mulDivDown (3 * 10 ^ 17) (10 ^ 18 - l) (10 ^ 18)) :=
        Nat.mul_le_mul (min_le_right _ _) hdenom
    _ ≤ 10 ^ 18 * 10 ^ 18 := Rounding.mulDivDown_mul_le

/-- Up to a threshold of one the incentive is defined, lies between one and its maximum, leaves
room for the threshold and goes down as the threshold goes up. -/
theorem incentiveFactor_laws (lltv : U256) (h : lltv ≤ wad) :
    ∃ lif, incentiveFactor lltv = .ok lif ∧ wad ≤ lif ∧ lif ≤ maxLiquidationIncentiveFactor ∧
      lif.toNat * lltv.toNat ≤ wad.toNat * wad.toNat ∧
      ∀ lltv' ≤ lltv, ∃ lif', incentiveFactor lltv' = .ok lif' ∧ lif ≤ lif' := by
  obtain ⟨lif, hlif⟩ := incentiveFactor_returns h
  obtain ⟨hlower, hupper⟩ := exactIncentive_bounds lltv.toNat
  have hexact := toNat_of_incentiveFactor hlif
  have hlltv : lltv.toNat ≤ 10 ^ 18 := toNat_wad ▸ BitVec.le_def.mp h
  refine ⟨lif, hlif, ?_, ?_, ?_, ?_⟩
  · rw [BitVec.le_def, toNat_wad, hexact]
    exact hlower
  · rw [BitVec.le_def, toNat_maxLiquidationIncentiveFactor, hexact]
    exact hupper
  · rw [hexact, toNat_wad]
    exact exactIncentive_mul_le hlltv
  · intro lltv' hle
    obtain ⟨lif', hlif'⟩ := incentiveFactor_returns (BitVec.le_trans hle h)
    refine ⟨lif', hlif', ?_⟩
    rw [BitVec.le_def, hexact, toNat_of_incentiveFactor hlif']
    exact exactIncentive_antitone (BitVec.le_def.mp hle)

/-- A market whose threshold is 86%. -/
theorem incentiveFactor_laws_sample :
    ∃ lif, incentiveFactor 860000000000000000 = .ok lif ∧ wad ≤ lif ∧
      lif.toNat * 860000000000000000 ≤ wad.toNat * wad.toNat := by
  obtain ⟨lif, hlif, hlower, -, hroom, -⟩ :=
    incentiveFactor_laws 860000000000000000 (by decide)
  exact ⟨lif, hlif, hlower, hroom⟩

/-! ### Health -/

/-- Everything the health check reads moves in favour of the position, or stays. -/
structure MovesInFavour (position : Position) (market : Market) (lltv price : U256)
    (position' : Position) (market' : Market) (lltv' price' : U256) : Prop where
  collateral : position.collateral ≤ position'.collateral
  price : price ≤ price'
  lltv : lltv ≤ lltv'
  borrowShares : position'.borrowShares ≤ position.borrowShares
  totalBorrowAssets : market'.totalBorrowAssets ≤ market.totalBorrowAssets
  totalBorrowShares : market.totalBorrowShares ≤ market'.totalBorrowShares

section
variable {position position' : Position} {market market' : Market} {lltv lltv' price price' : U256}

/-- The health check in exact numbers. -/
lemma isHealthy_eq_true_iff {healthy : Bool}
    (h : position.isHealthy market lltv price = .ok healthy) :
    healthy = true ↔
      Rounding.mulDivUp position.borrowShares.toNat (market.totalBorrowAssets.toNat + 1)
        (market.totalBorrowShares.toNat + 10 ^ 6)
      ≤ Rounding.mulDivDown (Rounding.mulDivDown position.collateral.toNat price.toNat (10 ^ 36))
          lltv.toNat (10 ^ 18) := by
  obtain ⟨value, ⟨-, hvalue⟩, limit, ⟨-, hlimit⟩, borrowed, hborrowed, rfl⟩ :=
    isHealthy_eq_ok_iff.mp h
  rw [decide_eq_true_iff, BitVec.le_def, toNat_of_toAssetsUp hborrowed, hlimit, hvalue,
    toNat_widen, toNat_widen, toNat_widen, Rounding.mulDivDown, Rounding.mulDivDown]

end

/-- A healthy position stays healthy when everything moves in its favour, and a position without
borrow shares is healthy. -/
theorem isHealthy_mono :
    (∀ (position position' : Position) (market market' : Market) (lltv lltv' price price' : U256)
      (healthy : Bool),
      MovesInFavour position market lltv price position' market' lltv' price' →
      position.isHealthy market lltv price = .ok true →
      position'.isHealthy market' lltv' price' = .ok healthy → healthy = true) ∧
    ∀ (position : Position) (market : Market) (lltv price : U256) (healthy : Bool),
      position.borrowShares = 0 → position.isHealthy market lltv price = .ok healthy →
      healthy = true := by
  constructor
  · intro position position' market market' lltv lltv' price price' healthy hmoves h h'
    rw [isHealthy_eq_true_iff h']
    have hcovered := (isHealthy_eq_true_iff h).mp rfl
    have hvalue : Rounding.mulDivDown position.collateral.toNat price.toNat (10 ^ 36)
        ≤ Rounding.mulDivDown position'.collateral.toNat price'.toNat (10 ^ 36) :=
      Rounding.mulDivDown_mono hmoves.collateral hmoves.price (Nat.le_refl _) (by decide)
    calc _ ≤ Rounding.mulDivUp position.borrowShares.toNat (market.totalBorrowAssets.toNat + 1)
          (market.totalBorrowShares.toNat + 10 ^ 6) :=
          Rounding.mulDivUp_mono hmoves.borrowShares
            (Nat.succ_le_succ hmoves.totalBorrowAssets)
            (Nat.add_le_add_right hmoves.totalBorrowShares _) (add_virtualShares_pos _)
      _ ≤ _ := hcovered
      _ ≤ _ := Rounding.mulDivDown_mono hvalue hmoves.lltv (Nat.le_refl _) (by decide)
  · intro position market lltv price healthy hshares h
    rw [isHealthy_eq_true_iff h, Rounding.mulDivUp_le_iff (add_virtualShares_pos _),
      hshares]
    simp

/-- A position of one collateral unit at a price of one and a debt of half a unit, before and after
the price doubles and half of the debt is repaid; and a position without debt. -/
theorem isHealthy_mono_sample :
    (∀ healthy, Position.isHealthy ⟨250000, 1000000⟩ ⟨1000000, 1000000⟩ 800000000000000000
        2000000000000000000000000000000000000 = .ok healthy → healthy = true) ∧
    ∀ healthy, Position.isHealthy ⟨0, 0⟩ ⟨5, 5⟩ 0 7 = .ok healthy → healthy = true := by
  refine ⟨fun healthy h => ?_, fun healthy h => ?_⟩
  · exact isHealthy_mono.1 ⟨500000, 1000000⟩ _ ⟨1000000, 1000000⟩ _ 800000000000000000 _
      1000000000000000000000000000000000000 _ healthy
      ⟨by decide, by decide, by decide, by decide, by decide, by decide⟩ (by decide +kernel) h
  · exact isHealthy_mono.2 _ _ _ _ healthy rfl h

end LiqRanger
