import LiqRanger.Aave.Adapter
import LiqRanger.Aave.Estimate
import LiqRanger.Order.FirstMax

/-!
# The choice of a collateral

Every reserve is evaluated by its own calls, and an evaluation that fails leaves the others as they
are. Of the candidates that the others yield the one of the highest value is taken, the first of the
reserves among equals (`selectCollateral_best`).
-/

namespace LiqRanger

open Effect

/-! ### Traces of code that may fail -/

namespace AaveM

variable {α β : Type} {x : AaveM α} {f : α → AaveM β} {t : List (Event aaveCalls)}

/-- It returns when its first part does and the rest returns on that value. -/
lemma trace_bind_ok {b : β} : (x >>= f).run.Trace t (.ok (.ok b)) ↔
    ∃ t₁ t₂ a, t = t₁ ++ t₂ ∧ x.run.Trace t₁ (.ok (.ok a)) ∧ (f a).run.Trace t₂ (.ok (.ok b)) := by
  rw [ExceptT.run_bind, Program.trace_bind]
  constructor
  · rintro (⟨p, -, hp⟩ | ⟨t₁, t₂, a, rfl, hx, hf⟩)
    · cases hp
    · cases a with
      | error e => cases hf.2
      | ok a => exact ⟨t₁, t₂, a, rfl, hx, hf⟩
  · rintro ⟨t₁, t₂, a, rfl, hx, hf⟩
    exact Or.inr ⟨t₁, t₂, .ok a, rfl, hx, hf⟩

/-- It panics in its first part or in the rest. -/
lemma trace_bind_panic {p : Panic} : (x >>= f).run.Trace t (.error p) ↔
    x.run.Trace t (.error p) ∨
      ∃ t₁ t₂ a, t = t₁ ++ t₂ ∧ x.run.Trace t₁ (.ok (.ok a)) ∧ (f a).run.Trace t₂ (.error p) := by
  rw [ExceptT.run_bind, Program.trace_bind]
  constructor
  · rintro (⟨p', hx, hp⟩ | ⟨t₁, t₂, a, rfl, hx, hf⟩)
    · cases hp
      exact Or.inl hx
    · cases a with
      | error e => cases hf.2
      | ok a => exact Or.inr ⟨t₁, t₂, a, rfl, hx, hf⟩
  · rintro (hx | ⟨t₁, t₂, a, rfl, hx, hf⟩)
    · exact Or.inl ⟨p, hx, rfl⟩
    · exact Or.inr ⟨t₁, t₂, .ok a, rfl, hx, hf⟩

/-- A call returns what it is answered. -/
lemma trace_call_ok {op : AaveOp} {r : aaveCalls.Reply op} :
    (Program.call op .ret : Program aaveCalls Panic _).Trace t (.ok r) ↔ t = [⟨op, r⟩] := by
  constructor
  · rintro ⟨r, t', rfl, rfl, hr⟩
    cases hr
    rfl
  · rintro rfl
    exact ⟨r, [], rfl, rfl, rfl⟩

lemma trace_call_no_panic {op : AaveOp} {p : Panic} :
    ¬ (Program.call op .ret : Program aaveCalls Panic _).Trace t (.error p) := by
  rintro ⟨r, t', -, -, hp⟩
  cases hp

/-- Two calls that are joined. -/
lemma trace_tryJoin_ok {y : AaveM β} {a : α} {b : β} :
    (tryJoin x y).run.Trace t (.ok (.ok (a, b))) ↔ ∃ t₁ t₂, t = t₁ ++ t₂ ∧
      x.run.Trace t₁ (.ok (.ok a)) ∧ y.run.Trace t₂ (.ok (.ok b)) := by
  rw [tryJoin, ExceptT.run_mk, Program.trace_bind]
  constructor
  · rintro (⟨p, -, hp⟩ | ⟨t₁, t₂, a', rfl, hx, h⟩)
    · cases hp
    · rw [Program.trace_bind] at h
      rcases h with ⟨p, -, hp⟩ | ⟨t₃, t₄, b', rfl, hy, rfl, h⟩
      · cases hp
      · obtain ⟨a₁, rfl, hb⟩ := Checked.bind_eq_ok_iff.mp (Except.ok.inj h).symm
        obtain ⟨b₁, rfl, hab⟩ := Checked.bind_eq_ok_iff.mp hb
        cases hab
        exact ⟨t₁, t₃, by simp, hx, hy⟩
  · rintro ⟨t₁, t₂, rfl, hx, hy⟩
    refine Or.inr ⟨t₁, t₂, .ok a, rfl, hx, ?_⟩
    rw [Program.trace_bind]
    exact Or.inr ⟨t₂, [], .ok b, by simp, hy, rfl, rfl⟩

lemma trace_tryJoin_panic {y : AaveM β} {p : Panic} (h : (tryJoin x y).run.Trace t (.error p)) :
    ∃ t', x.run.Trace t' (.error p) ∨ y.run.Trace t' (.error p) := by
  rw [tryJoin, ExceptT.run_mk, Program.trace_bind] at h
  rcases h with ⟨p', hx, hp⟩ | ⟨t₁, t₂, a', rfl, -, h⟩
  · cases hp
    exact ⟨t, Or.inl hx⟩
  · rw [Program.trace_bind] at h
    rcases h with ⟨p', hy, hp⟩ | ⟨t₃, t₄, b', rfl, -, -, hp⟩
    · cases hp
      exact ⟨t₂, Or.inr hy⟩
    · cases hp

lemma trace_ofFallible {y : Fallible α} {o : Except Panic (Except String α)} :
    (ofFallible y).run.Trace t o ↔ t = [] ∧ o = y.run := by
  rw [ofFallible, ExceptT.run_mk]
  cases y.run with
  | error p => rfl
  | ok r => rfl

@[simp] lemma trace_pure {a : α} {o : Except Panic (Except String α)} :
    (pure a : AaveM α).run.Trace t o ↔ t = [] ∧ o = .ok (.ok a) := Iff.rfl

@[simp] lemma trace_throw {e : String} {o : Except Panic (Except String α)} :
    (throw e : AaveM α).run.Trace t o ↔ t = [] ∧ o = .ok (.error e) := Iff.rfl

end AaveM

open AaveM

variable {borrower debtAsset asset : Address} {debtToCover : U256} {t : List (Event aaveCalls)}

/-! ### One reserve -/

/-- What the node tells of a reserve up to the estimate. -/
structure ReserveReplies where
  data : U256
  atoken : Address
  balance : U256
  collateralPrice : U256
  debtPrice : U256
  collDecimals : UInt8
  debtDecimals : UInt8

namespace ReserveReplies

def bonus (r : ReserveReplies) : UInt16 := .ofNat ((r.data >>> 32) &&& 0xFFFF).toNat

def events (borrower debtAsset asset : Address) (r : ReserveReplies) : List (Event aaveCalls) :=
  [⟨.getConfiguration asset, .ok r.data⟩, ⟨.resolveAtoken asset, .ok r.atoken⟩,
    ⟨.balanceOf r.atoken borrower, .ok r.balance⟩, ⟨.getAssetPrice asset, .ok r.collateralPrice⟩,
    ⟨.getAssetPrice debtAsset, .ok r.debtPrice⟩, ⟨.getTokenDecimals asset, .ok r.collDecimals⟩,
    ⟨.getTokenDecimals debtAsset, .ok r.debtDecimals⟩]

end ReserveReplies

lemma liquidationBonusBps_ok {bonus : UInt16} :
    (liquidationBonusBps asset).run.Trace t (.ok (.ok bonus)) ↔ ∃ data : U256,
      t = [⟨.getConfiguration asset, .ok data⟩] ∧
      bonus = .ofNat ((data >>> 32) &&& 0xFFFF).toNat ∧ 10000 ≤ bonus ∧ bonus ≤ 20000 := by
  rw [liquidationBonusBps, trace_bind_ok]
  constructor
  · rintro ⟨t₁, t₂, data, rfl, hdata, h⟩
    obtain rfl := trace_call_ok.mp hdata
    dsimp only at h
    split at h
    · obtain ⟨t₁, t₂, a, rfl, hthrow, -⟩ := trace_bind_ok.mp h
      cases hthrow.2
    · next hrange =>
      obtain ⟨rfl, hbonus⟩ := h
      cases hbonus
      rw [not_or, UInt16.not_lt, UInt16.not_lt] at hrange
      exact ⟨data, rfl, rfl, hrange⟩
  · rintro ⟨data, rfl, rfl, hlow, hhigh⟩
    refine ⟨_, [], data, (List.append_nil _).symm, trace_call_ok.mpr rfl, ?_⟩
    dsimp only
    rw [if_neg]
    · exact ⟨rfl, rfl⟩
    · rw [not_or, UInt16.not_lt, UInt16.not_lt]
      exact ⟨hlow, hhigh⟩

lemma liquidationBonusBps_no_panic {p : Panic} :
    ¬ (liquidationBonusBps asset).run.Trace t (.error p) := by
  rw [liquidationBonusBps, trace_bind_panic]
  rintro (h | ⟨t₁, t₂, data, rfl, -, h⟩)
  · exact trace_call_no_panic h
  · dsimp only at h
    split at h
    · rcases trace_bind_panic.mp h with h | ⟨t₁, t₂, a, rfl, -, h⟩
      · cases h.2
      · cases h.2
    · cases h.2

/-- The prices and the decimals are read, and the estimate is that of the helper. -/
lemma estimateSeizableCollateral_ok {bonus : UInt16} {q : U256} (hdebt : debtToCover ≠ 0) :
    (estimateSeizableCollateral debtToCover asset debtAsset bonus).run.Trace t (.ok (.ok q)) ↔
      ∃ (collateralPrice debtPrice : U256) (collDecimals debtDecimals : UInt8),
        t = [⟨.getAssetPrice asset, .ok collateralPrice⟩, ⟨.getAssetPrice debtAsset, .ok debtPrice⟩,
          ⟨.getTokenDecimals asset, .ok collDecimals⟩,
          ⟨.getTokenDecimals debtAsset, .ok debtDecimals⟩] ∧
        (estimateSeizableCollateralAmount debtToCover collateralPrice debtPrice collDecimals
          debtDecimals bonus).run = .ok (.ok q) := by
  rw [estimateSeizableCollateral, if_neg hdebt, trace_bind_ok]
  constructor
  · rintro ⟨t₁, t₂, ⟨collateralPrice, debtPrice⟩, rfl, hprices, hrest⟩
    obtain ⟨t₃, t₄, rfl, hcollPrice, hdebtPrice⟩ := trace_tryJoin_ok.mp hprices
    obtain rfl := trace_call_ok.mp hcollPrice
    obtain rfl := trace_call_ok.mp hdebtPrice
    obtain ⟨t₅, t₆, ⟨collDecimals, debtDecimals⟩, rfl, hdecimals, hlast⟩ := trace_bind_ok.mp hrest
    obtain ⟨t₇, t₈, rfl, hcollDec, hdebtDec⟩ := trace_tryJoin_ok.mp hdecimals
    obtain rfl := trace_call_ok.mp hcollDec
    obtain rfl := trace_call_ok.mp hdebtDec
    obtain ⟨rfl, hq⟩ := trace_ofFallible.mp hlast
    exact ⟨collateralPrice, debtPrice, collDecimals, debtDecimals, rfl, hq.symm⟩
  · rintro ⟨collateralPrice, debtPrice, collDecimals, debtDecimals, rfl, hq⟩
    refine ⟨[_, _], [_, _], (collateralPrice, debtPrice), rfl,
      trace_tryJoin_ok.mpr ⟨[_], [_], rfl, trace_call_ok.mpr rfl,
        trace_call_ok.mpr rfl⟩, ?_⟩
    refine trace_bind_ok.mpr ⟨[_, _], [], (collDecimals, debtDecimals), rfl,
      trace_tryJoin_ok.mpr ⟨[_], [_], rfl, trace_call_ok.mpr rfl,
        trace_call_ok.mpr rfl⟩, ?_⟩
    exact trace_ofFallible.mpr ⟨rfl, hq.symm⟩

/-- Decimals are at most 77 in the replies of `t`. -/
def DecimalsFit (t : List (Event aaveCalls)) : Prop :=
  ∀ token (d : UInt8), ⟨.getTokenDecimals token, .ok d⟩ ∈ t → d.toNat ≤ 77

lemma estimateSeizableCollateral_no_panic {bonus : UInt16} {p : Panic} (hdecimals : DecimalsFit t) :
    ¬ (estimateSeizableCollateral debtToCover asset debtAsset bonus).run.Trace t (.error p) := by
  rw [estimateSeizableCollateral]
  split
  · rintro ⟨-, hp⟩
    cases hp
  · rw [trace_bind_panic]
    rintro (h | ⟨t₁, t₂, ⟨collateralPrice, debtPrice⟩, rfl, -, hrest⟩)
    · obtain ⟨t', h | h⟩ := trace_tryJoin_panic h
      · exact trace_call_no_panic h
      · exact trace_call_no_panic h
    · rcases trace_bind_panic.mp hrest with h |
        ⟨t₃, t₄, ⟨collDecimals, debtDecimals⟩, rfl, hread, h⟩
      · obtain ⟨t', h | h⟩ := trace_tryJoin_panic h
        · exact trace_call_no_panic h
        · exact trace_call_no_panic h
      · obtain ⟨t₅, t₆, rfl, hcollDec, hdebtDec⟩ := trace_tryJoin_ok.mp hread
        obtain rfl := trace_call_ok.mp hcollDec
        obtain rfl := trace_call_ok.mp hdebtDec
        obtain ⟨-, hp⟩ := trace_ofFallible.mp h
        have hend := estimate_end debtToCover collateralPrice debtPrice collDecimals debtDecimals
          bonus
        rw [← hp] at hend
        cases hend with
        | panic p hpowers =>
          refine hpowers ⟨fun _ => ?_, fun _ _ _ _ => ?_⟩
          · exact hdecimals asset collDecimals (by simp)
          · exact hdecimals debtAsset debtDecimals (by simp)

/-- The candidate of an amount that can be seized. -/
def seizedCandidate (asset : Address) (bonus : UInt16) (seize : U256) :
    AaveM (Option CollateralCandidate) := do
  if seize = 0 then return none
  let price ← getAssetPrice asset
  let decimals ← getTokenDecimals asset
  let value ← ofFallible (okOrElse "overflow: collateral amount * price" (Checked.mul seize price))
  let usdValue ← ofFallible do U256.div value (← U256.exp10 decimals.toNat)
  return some ⟨asset, bonus, seize, usdValue⟩

lemma collateralCandidate_eq : collateralCandidate borrower debtAsset debtToCover asset = (do
    let bonus ← liquidationBonusBps asset
    let atoken ← resolveAtoken asset
    let balance ← balanceOf atoken borrower
    let estimate ← estimateSeizableCollateral debtToCover asset debtAsset bonus
    seizedCandidate asset bonus (U256.min estimate balance)) := rfl

/-- A division by a power of ten. -/
lemma run_div_exp10 (value : U256) {n : ℕ} (hn : n ≤ 77) : ∃ q : U256,
    (do U256.div value (← U256.exp10 n) : Fallible U256).run = .ok (.ok q) ∧
      q.toNat = value.toNat / 10 ^ n := by
  obtain ⟨power, hpower, hvalue⟩ := U256.exp10_returns hn
  have hquotient : U256.div value power = .ok (value / power) :=
    U256.div_eq_ok_iff.mpr ⟨hvalue ▸ Nat.pow_pos (by decide), BitVec.toNat_udiv⟩
  refine ⟨value / power, ?_, by rw [BitVec.toNat_udiv, hvalue]⟩
  rw [hpower, liftM_ok_bind, hquotient]
  rfl

/-- Its value is that of the seized amount, rounded down. -/
lemma seizedCandidate_ok {bonus : UInt16} {seize : U256} {x : Option CollateralCandidate}
    (hdecimals : DecimalsFit t)
    (h : (seizedCandidate asset bonus seize).run.Trace t (.ok (.ok x))) :
    (seize = 0 ∧ x = none ∧ t = []) ∨
    (seize ≠ 0 ∧ ∃ (price usdValue : U256) (decimals : UInt8),
      x = some ⟨asset, bonus, seize, usdValue⟩ ∧
      t = [⟨.getAssetPrice asset, .ok price⟩, ⟨.getTokenDecimals asset, .ok decimals⟩] ∧
      usdValue.toNat = seize.toNat * price.toNat / 10 ^ decimals.toNat) := by
  rw [seizedCandidate] at h
  split at h
  · next hzero =>
    obtain ⟨rfl, hx⟩ := h
    cases hx
    exact Or.inl ⟨hzero, rfl, rfl⟩
  · next hseize =>
    obtain ⟨t₁, t₂, price, rfl, hprice, h₁⟩ := trace_bind_ok.mp h
    obtain rfl := trace_call_ok.mp hprice
    obtain ⟨t₃, t₄, decimals, rfl, hread, h₂⟩ := trace_bind_ok.mp h₁
    obtain rfl := trace_call_ok.mp hread
    obtain ⟨t₅, t₆, value, rfl, hvalue, h₃⟩ := trace_bind_ok.mp h₂
    obtain ⟨rfl, hmul⟩ := trace_ofFallible.mp hvalue
    obtain ⟨t₇, t₈, usdValue, rfl, husd, h₄⟩ := trace_bind_ok.mp h₃
    obtain ⟨rfl, hdiv⟩ := trace_ofFallible.mp husd
    obtain ⟨rfl, hx⟩ := h₄
    cases hx
    refine Or.inr ⟨hseize, price, usdValue, decimals, rfl, rfl, ?_⟩
    obtain ⟨q, hq, hqNat⟩ := run_div_exp10 value
      (hdecimals asset decimals (by simp))
    rw [hq] at hdiv
    cases hdiv
    rcases Checked.mul_cases seize price with ⟨z, hz, hzNat⟩ | ⟨hz, -⟩
    · rw [hz] at hmul
      cases hmul
      rw [hqNat, hzNat]
    · rw [hz] at hmul
      cases hmul

lemma seizedCandidate_no_panic {bonus : UInt16} {seize : U256} {p : Panic}
    (hdecimals : DecimalsFit t) :
    ¬ (seizedCandidate asset bonus seize).run.Trace t (.error p) := by
  rw [seizedCandidate]
  split
  · rintro ⟨-, hp⟩
    cases hp
  · intro h
    rcases trace_bind_panic.mp h with h | ⟨t₁, t₂, price, rfl, -, h₁⟩
    · exact trace_call_no_panic h
    rcases trace_bind_panic.mp h₁ with h | ⟨t₃, t₄, decimals, rfl, hread, h₂⟩
    · exact trace_call_no_panic h
    obtain rfl := trace_call_ok.mp hread
    rcases trace_bind_panic.mp h₂ with h | ⟨t₅, t₆, value, rfl, -, h₃⟩
    · obtain ⟨-, hp⟩ := trace_ofFallible.mp h
      cases hmul : Checked.mul seize price with
      | none =>
        rw [hmul] at hp
        cases hp
      | some z =>
        rw [hmul] at hp
        cases hp
    rcases trace_bind_panic.mp h₃ with h | ⟨t₇, t₈, usdValue, rfl, -, h₄⟩
    · obtain ⟨-, hp⟩ := trace_ofFallible.mp h
      obtain ⟨q, hq, -⟩ := run_div_exp10 value
        (hdecimals asset decimals (by simp))
      rw [hq] at hp
      cases hp
    · cases h₄.2

/-- The estimate for a reserve with these replies. -/
def ReserveReplies.Estimates (debtToCover : U256) (r : ReserveReplies) (estimate : U256) : Prop :=
  (estimateSeizableCollateralAmount debtToCover r.collateralPrice r.debtPrice r.collDecimals
    r.debtDecimals r.bonus).run = .ok (.ok estimate)

/-- A reserve yields a candidate: with the replies `r` and a further read of the price and the
decimals, at most the balance and the estimate can be seized, and that is worth no more than the
debt with the bonus. -/
structure Yields (borrower debtAsset : Address) (debtToCover : U256) (asset : Address)
    (t : List (Event aaveCalls)) (c : CollateralCandidate) (r : ReserveReplies) : Prop where
  events : ∃ (price : U256) (decimals : UInt8), t = r.events borrower debtAsset asset ++
    [⟨.getAssetPrice asset, .ok price⟩, ⟨.getTokenDecimals asset, .ok decimals⟩] ∧
    c.usdValue.toNat = c.seizeAmount.toNat * price.toNat / 10 ^ decimals.toNat
  asset : c.asset = asset
  bonus : c.liquidationBonusBps = r.bonus
  bonus_range : 10000 ≤ r.bonus ∧ r.bonus ≤ 20000
  seize : ∃ estimate, r.Estimates debtToCover estimate ∧
    c.seizeAmount.toNat = min r.balance.toNat estimate.toNat
  seize_pos : 0 < c.seizeAmount.toNat
  worth : c.seizeAmount.toNat * r.collateralPrice.toNat * bps.toNat * 10 ^ r.debtDecimals.toNat ≤
    debtToCover.toNat * r.debtPrice.toNat * 10 ^ r.collDecimals.toNat * r.bonus.toNat

/-- Nothing of a reserve can be seized. -/
def YieldsNothing (borrower debtAsset : Address) (debtToCover : U256) (asset : Address)
    (t : List (Event aaveCalls)) (r : ReserveReplies) : Prop :=
  t = r.events borrower debtAsset asset ∧
    ∃ estimate, r.Estimates debtToCover estimate ∧ min r.balance.toNat estimate.toNat = 0

/-- An estimate times the price of the collateral is at most the debt with the bonus. -/
lemma ReserveReplies.Estimates.worth {r : ReserveReplies} {estimate : U256} {seize : ℕ}
    (h : r.Estimates debtToCover estimate) (hseize : seize ≤ estimate.toNat) :
    seize * r.collateralPrice.toNat * bps.toNat * 10 ^ r.debtDecimals.toNat ≤
      debtToCover.toNat * r.debtPrice.toNat * 10 ^ r.collDecimals.toNat * r.bonus.toNat := by
  have hend := estimate_end debtToCover r.collateralPrice r.debtPrice r.collDecimals r.debtDecimals
    r.bonus
  rw [h] at hend
  cases hend with
  | exact q hfits hpowers hq =>
    rw [exactEstimate] at hq
    have hle := (Nat.le_div_iff_mul_le (Nat.pos_of_ne_zero hfits.divisor)).mp (hseize.trans hq.le)
    calc seize * r.collateralPrice.toNat * bps.toNat * 10 ^ r.debtDecimals.toNat
        = seize * (r.collateralPrice.toNat * bps.toNat * 10 ^ r.debtDecimals.toNat) := by
          simp only [Nat.mul_assoc]
      _ ≤ debtToCover.toNat * r.debtPrice.toNat * 10 ^ r.collDecimals.toNat * r.bonus.toNat := hle

/-- How an evaluation without an error ends. -/
lemma collateralCandidate_ok {x : Option CollateralCandidate} (hdebt : debtToCover ≠ 0)
    (hdecimals : DecimalsFit t)
    (h : (collateralCandidate borrower debtAsset debtToCover asset).run.Trace t (.ok (.ok x))) :
    ∃ r, (x = none ∧ YieldsNothing borrower debtAsset debtToCover asset t r) ∨
      ∃ c, x = some c ∧ Yields borrower debtAsset debtToCover asset t c r := by
  rw [collateralCandidate_eq] at h
  obtain ⟨t₁, t₂, bonus, rfl, hbonus, h₁⟩ := trace_bind_ok.mp h
  obtain ⟨data, rfl, hbonus, hrange⟩ := liquidationBonusBps_ok.mp hbonus
  obtain ⟨t₃, t₄, atoken, rfl, hatoken, h₂⟩ := trace_bind_ok.mp h₁
  obtain rfl := trace_call_ok.mp hatoken
  obtain ⟨t₅, t₆, balance, rfl, hbalance, h₃⟩ := trace_bind_ok.mp h₂
  obtain rfl := trace_call_ok.mp hbalance
  obtain ⟨t₇, t₈, estimate, rfl, hestimate, h₄⟩ := trace_bind_ok.mp h₃
  obtain ⟨collateralPrice, debtPrice, collDecimals, debtDecimals, rfl, hrun⟩ :=
    (estimateSeizableCollateral_ok hdebt).mp hestimate
  have hrest : DecimalsFit t₈ := fun token d hmem => hdecimals token d (by simp [hmem])
  let r : ReserveReplies :=
    ⟨data, atoken, balance, collateralPrice, debtPrice, collDecimals, debtDecimals⟩
  have hestimates : r.Estimates debtToCover estimate := by
    rw [ReserveReplies.Estimates, ReserveReplies.bonus, ← hbonus]
    exact hrun
  have hrange' : 10000 ≤ r.bonus ∧ r.bonus ≤ 20000 := by
    rw [ReserveReplies.bonus, ← hbonus]
    exact hrange
  have hmin : (U256.min estimate balance).toNat = min balance.toNat estimate.toNat := by
    rw [U256.toNat_min, min_comm]
  refine ⟨r, ?_⟩
  rcases seizedCandidate_ok hrest h₄ with ⟨hzero, rfl, rfl⟩ |
    ⟨hseize, price, usdValue, decimals, rfl, rfl, husd⟩
  · refine Or.inl ⟨rfl, rfl, estimate, hestimates, ?_⟩
    rw [← hmin, hzero]
    rfl
  · refine Or.inr ⟨_, rfl, ⟨price, decimals, rfl, husd⟩, rfl, hbonus, hrange',
      ⟨estimate, hestimates, hmin⟩, ?_, hestimates.worth ?_⟩
    · exact BitVec.toNat_pos_of_ne_zero hseize
    · exact hmin.trans_le (min_le_right _ _)

lemma collateralCandidate_no_panic {p : Panic} (hdecimals : DecimalsFit t) :
    ¬ (collateralCandidate borrower debtAsset debtToCover asset).run.Trace t (.error p) := by
  rw [collateralCandidate_eq]
  intro h
  rcases trace_bind_panic.mp h with h | ⟨t₁, t₂, bonus, rfl, -, h₁⟩
  · exact liquidationBonusBps_no_panic h
  rcases trace_bind_panic.mp h₁ with h | ⟨t₃, t₄, atoken, rfl, -, h₂⟩
  · exact trace_call_no_panic h
  rcases trace_bind_panic.mp h₂ with h | ⟨t₅, t₆, balance, rfl, -, h₃⟩
  · exact trace_call_no_panic h
  rcases trace_bind_panic.mp h₃ with h | ⟨t₇, t₈, estimate, rfl, -, h₄⟩
  · refine estimateSeizableCollateral_no_panic (fun token d hmem => ?_) h
    exact hdecimals token d (by simp [hmem])
  · refine seizedCandidate_no_panic (fun token d hmem => ?_) h₄
    exact hdecimals token d (by simp [hmem])

/-! ### All reserves -/

/-- The calls of the evaluation of a reserve, and how it ended. -/
abbrev Evaluation := List (Event aaveCalls) × Except String (Option CollateralCandidate)

def Evaluation.candidate (e : Evaluation) : Option CollateralCandidate :=
  match e.2 with
  | .ok candidate => candidate
  | .error _ => none

/-- The evaluation is one of this reserve. If it has a candidate, that amount can be seized of the
reserve; if it ended with nothing, the amount is zero. -/
structure Evaluates (borrower debtAsset : Address) (debtToCover : U256) (asset : Address)
    (e : Evaluation) : Prop where
  trace : (collateralCandidate borrower debtAsset debtToCover asset).run.Trace e.1 (.ok e.2)
  candidate : ∀ c, e.2 = .ok (some c) → ∃ r, Yields borrower debtAsset debtToCover asset e.1 c r
  nothing : e.2 = .ok none → ∃ r, YieldsNothing borrower debtAsset debtToCover asset e.1 r

/-- The candidate of the highest value, the first among equals, or an error if there is none. -/
structure Chosen (evaluations : List Evaluation)
    (o : Except Panic (Except String CollateralCandidate)) : Prop where
  returns : ∃ result, o = .ok result
  ok_iff : (∃ c, o = .ok (.ok c)) ↔ ∃ e ∈ evaluations, ∃ c, e.2 = .ok (some c)
  best : ∀ c, o = .ok (.ok c) →
    ∃ i, evaluations.IsFirstMax Evaluation.candidate (fun c => c.usdValue.toNat) i c

lemma bestCandidate_eq (evaluations : List Evaluation) :
    bestCandidate (evaluations.map Prod.snd) =
      (evaluations.filterMap Evaluation.candidate).argmax fun c => c.usdValue.toNat := by
  rw [bestCandidate, List.filterMap_map]
  exact List.head?_insertionSort (f := fun c : CollateralCandidate => c.usdValue.toNat)
    (fun _ _ => BitVec.le_def) _

/-- What the choice returns from the best candidate. -/
def selected (T : EthersText) (borrower : Address) :
    Option CollateralCandidate → Except String CollateralCandidate
  | some candidate => .ok candidate
  | none => .error ("no viable collateral candidate found for borrower "
      ++ String.ofList (T.address.debug borrower))

variable {T : EthersText} {collaterals : List UserReserveData}

lemma run_selectCollateralCandidate :
    (selectCollateralCandidate T borrower collaterals debtAsset debtToCover).run =
      collateralCandidates borrower debtAsset debtToCover collaterals >>= fun results =>
        .ret (selected T borrower (bestCandidate results)) := by
  refine (ExceptT.run_bind_lift _ _).trans (bind_congr fun results => ?_)
  cases bestCandidate results with
  | some candidate => rfl
  | none => rfl

/-- A choice that returns has evaluated each reserve by its own calls. -/
lemma trace_selectCollateral {result : Except String CollateralCandidate} :
    (selectCollateralCandidate T borrower collaterals debtAsset debtToCover).run.Trace t
      (.ok result) ↔
    ∃ evaluations : List Evaluation, t = (evaluations.map Prod.fst).flatten ∧
      List.Forall₂ (fun (reserve : UserReserveData) (e : Evaluation) =>
        (collateralCandidate borrower debtAsset debtToCover reserve.underlyingAsset).run.Trace e.1
          (.ok e.2)) collaterals evaluations ∧
      result = selected T borrower (bestCandidate (evaluations.map Prod.snd)) := by
  rw [run_selectCollateralCandidate, Program.trace_bind]
  constructor
  · rintro (⟨p, -, hp⟩ | ⟨t₁, t₂, results, rfl, hresults, rfl, hresult⟩)
    · cases hp
    · obtain ⟨evaluations, rfl, rfl, heach⟩ := (Program.trace_mapM_ok _ _ _ _).mp hresults
      exact ⟨evaluations, List.append_nil _, heach, Except.ok.inj hresult⟩
  · rintro ⟨evaluations, rfl, heach, rfl⟩
    exact Or.inr ⟨_, [], _, (List.append_nil _).symm,
      (Program.trace_mapM_ok _ _ _ _).mpr ⟨evaluations, rfl, rfl, heach⟩, rfl, rfl⟩

lemma selectCollateral_no_panic {p : Panic} (hdecimals : DecimalsFit t) :
    ¬ (selectCollateralCandidate T borrower collaterals debtAsset debtToCover).run.Trace t
      (.error p) := by
  rw [run_selectCollateralCandidate, Program.trace_bind]
  rintro (⟨p', hfail, -⟩ | ⟨t₁, t₂, results, -, -, -, hp⟩)
  · obtain ⟨reserve, -, t', hpart, hpanic⟩ := Program.exists_of_trace_mapM_error hfail
    exact collateralCandidate_no_panic
      (fun token d hmem => hdecimals token d (hpart.subset hmem)) hpanic
  · cases hp

lemma Evaluation.candidate_eq_some_iff {e : Evaluation} {c : CollateralCandidate} :
    e.candidate = some c ↔ e.2 = .ok (some c) := by
  rw [Evaluation.candidate]
  cases e.2 with
  | ok candidate => simp
  | error error => simp

lemma chosen_selected (T : EthersText) (borrower : Address) (evaluations : List Evaluation) :
    Chosen evaluations (.ok (selected T borrower (bestCandidate (evaluations.map Prod.snd)))) := by
  rw [bestCandidate_eq]
  cases hbest : (evaluations.filterMap Evaluation.candidate).argmax fun c => c.usdValue.toNat with
  | none =>
    refine ⟨⟨_, rfl⟩, ?_, ?_⟩
    · have hnone := List.argmax_eq_none.mp hbest
      rw [List.filterMap_eq_nil_iff] at hnone
      simp only [selected, Except.ok.injEq, reduceCtorEq, exists_false, false_iff]
      rintro ⟨e, he, c, hc⟩
      rw [← Evaluation.candidate_eq_some_iff, hnone e he] at hc
      cases hc
    · simp [selected]
  | some best =>
    obtain ⟨i, hi⟩ := List.exists_isFirstMax hbest
    refine ⟨⟨_, rfl⟩, ?_, ?_⟩
    · obtain ⟨e, he, hc⟩ := hi.value
      simp only [selected, Except.ok.injEq, exists_eq', true_iff]
      exact ⟨e, List.mem_of_getElem? he, best, Evaluation.candidate_eq_some_iff.mp hc⟩
    · intro c hc
      obtain rfl : best = c := Except.ok.inj (Except.ok.inj hc)
      exact ⟨i, hi⟩

/-- An evaluation that ended is one of its reserve, if its decimals fit. -/
lemma evaluates_of_trace {e : Evaluation} (hdebt : debtToCover ≠ 0) (hdecimals : DecimalsFit e.1)
    (htrace : (collateralCandidate borrower debtAsset debtToCover asset).run.Trace e.1 (.ok e.2)) :
    Evaluates borrower debtAsset debtToCover asset e := by
  refine ⟨htrace, fun c hc => ?_, fun hnone => ?_⟩
  · rw [hc] at htrace
    obtain ⟨r, ⟨hx, -⟩ | ⟨c', hx, hyields⟩⟩ := collateralCandidate_ok hdebt hdecimals htrace
    · cases hx
    · cases hx
      exact ⟨r, hyields⟩
  · rw [hnone] at htrace
    obtain ⟨r, ⟨-, hnothing⟩ | ⟨c', hx, -⟩⟩ := collateralCandidate_ok hdebt hdecimals htrace
    · exact ⟨r, hnothing⟩
    · cases hx

section
variable {α β : Type*} {R S : α → β → Prop} {l : List α} {l' : List β}

lemma forall₂_imp_of_mem (h : List.Forall₂ R l l') (himp : ∀ a b, b ∈ l' → R a b → S a b) :
    List.Forall₂ S l l' := by
  induction h with
  | nil => exact .nil
  | cons hab hrest ih =>
    exact .cons (himp _ _ List.mem_cons_self hab)
      (ih fun a b hb => himp a b (List.mem_cons_of_mem _ hb))

lemma forall₂_set {i : ℕ} {a : α} {b : β} (h : List.Forall₂ R l l') (ha : l[i]? = some a)
    (hab : R a b) : List.Forall₂ R l (l'.set i b) := by
  induction h generalizing i with
  | nil => simp at ha
  | cons hfirst hrest ih =>
    cases i with
    | zero =>
      obtain rfl := Option.some.inj ha
      exact .cons hab hrest
    | succ i => exact .cons hfirst (ih ha)

end

/-- Whatever the calls of the reserves reply, with decimals up to 77: each reserve is evaluated by
its own calls, what it yields can be seized, and the choice is the candidate of the highest value,
the first of the reserves among equals, or an error exactly if no reserve yields one. Were the
evaluation of one reserve to fail instead, the choice would be made among the others as they are. -/
theorem selectCollateral_best (T : EthersText) (borrower debtAsset : Address)
    (collaterals : List UserReserveData) (debtToCover : U256) (t : List (Event aaveCalls))
    (o : Except Panic (Except String CollateralCandidate)) (hdebt : debtToCover ≠ 0)
    (hdecimals : DecimalsFit t)
    (htrace : (selectCollateralCandidate T borrower collaterals debtAsset debtToCover).run.Trace t
      o) :
    ∃ evaluations : List Evaluation, t = (evaluations.map Prod.fst).flatten ∧
      List.Forall₂ (fun reserve => Evaluates borrower debtAsset debtToCover reserve.underlyingAsset)
        collaterals evaluations ∧
      Chosen evaluations o ∧
      ∀ (i : ℕ) (reserve : UserReserveData) (failure : List (Event aaveCalls)) (error : String),
        collaterals[i]? = some reserve →
        (collateralCandidate borrower debtAsset debtToCover reserve.underlyingAsset).run.Trace
          failure (.ok (.error error)) →
        ∃ o', (selectCollateralCandidate T borrower collaterals debtAsset debtToCover).run.Trace
            (((evaluations.set i (failure, .error error)).map Prod.fst).flatten) o' ∧
          Chosen (evaluations.set i (failure, .error error)) o' := by
  cases o with
  | error p => exact absurd htrace (selectCollateral_no_panic hdecimals)
  | ok result =>
    obtain ⟨evaluations, rfl, heach, rfl⟩ := trace_selectCollateral.mp htrace
    refine ⟨evaluations, rfl, ?_, chosen_selected T borrower evaluations, ?_⟩
    · refine forall₂_imp_of_mem heach fun reserve e hmem he => ?_
      refine evaluates_of_trace hdebt (fun token d hd => hdecimals token d ?_) he
      exact List.mem_flatten.mpr ⟨e.1, List.mem_map_of_mem hmem, hd⟩
    · intro i reserve failure error hreserve hfailure
      exact ⟨_, trace_selectCollateral.mpr ⟨_, rfl, forall₂_set heach hreserve hfailure, rfl⟩,
        chosen_selected T borrower _⟩

/-- A debt of 6 decimals at 1, and reserves of 18 decimals at 2000, in units of 8 decimals. The
first reserve cannot be read, and of the second there is little. -/
def sampleAaveReplies : (op : AaveOp) → aaveCalls.Reply op
  | .getUserAccountData _ => .error "not asked"
  | .getUserReservesData .. => .error "not asked"
  | .balanceOf atoken _ =>
    .ok (if atoken = .ofNat 20 2 then 10000000000000000 else 1000000000000000000)
  | .getConfiguration asset =>
    if asset = .ofNat 20 1 then .error "timeout" else .ok (10500 <<< 32)
  | .resolveAtoken asset => .ok asset
  | .getAssetPrice token => .ok (if token = .zero 20 then 100000000 else 200000000000)
  | .getTokenDecimals token => .ok (if token = .zero 20 then 6 else 18)

/-- Four reserves, of which the last two are alike. -/
def sampleReserves : List UserReserveData :=
  [⟨.ofNat 20 1, 1, true, 0⟩, ⟨.ofNat 20 2, 1, true, 0⟩, ⟨.ofNat 20 3, 1, true, 0⟩,
    ⟨.ofNat 20 4, 1, true, 0⟩]

/-- For 100 of the debt, 0.0525 of the third reserve. -/
theorem selectCollateral_best_sample : ∃ (t : List (Event aaveCalls)) (c : CollateralCandidate),
    c.asset = .ofNat 20 3 ∧ c.seizeAmount = 52500000000000000 ∧
      ∃ evaluations : List Evaluation, evaluations.length = 4 ∧
        t = (evaluations.map Prod.fst).flatten ∧ Chosen evaluations (.ok (.ok c)) := by
  obtain ⟨t, htrace, hreplies⟩ := Program.exists_trace_eval sampleAaveReplies
    (selectCollateralCandidate .reference (.zero 20) sampleReserves (.zero 20) 100000000).run
  have hdecimals : DecimalsFit t := by
    intro token d hmem
    have hreply : Except.ok d = sampleAaveReplies (.getTokenDecimals token) := hreplies _ hmem
    rw [sampleAaveReplies, Except.ok.injEq] at hreply
    rw [hreply]
    split <;> decide
  have hrun : (selectCollateralCandidate .reference (.zero 20) sampleReserves (.zero 20)
      100000000).run.eval sampleAaveReplies =
        .ok (.ok ⟨.ofNat 20 3, 10500, 52500000000000000, 10500000000⟩) := by decide +kernel
  rw [hrun] at htrace
  obtain ⟨evaluations, ht, heach, hchosen, -⟩ := selectCollateral_best _ _ _ _ _ t _ (by decide)
    hdecimals htrace
  exact ⟨t, _, rfl, rfl, evaluations, heach.length_eq.symm, ht, hchosen⟩

end LiqRanger
