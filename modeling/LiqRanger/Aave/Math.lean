import LiqRanger.Morpho.Math

/-!
# Aave arithmetic

The close factor and the seize estimate. A step that is checked in the source ends in an error, any
other overflow and any division by zero is a panic.
-/

namespace LiqRanger

/-- A computation that returns, ends in an error or panics. -/
abbrev Fallible := ExceptT String (Except Panic)

/-- The result of a checked operation, or an error. -/
def okOrElse {α : Type} (e : String) : Option α → Fallible α
  | some a => pure a
  | none => throw e

section
variable {α β : Type} (f : α → Fallible β)

@[simp] lemma okOrElse_some_bind (e : String) (a : α) : (okOrElse e (some a) >>= f) = f a := rfl

@[simp] lemma okOrElse_none_bind (e : String) :
    (okOrElse e none >>= f).run = .ok (.error e) := rfl

@[simp] lemma liftM_ok_bind (a : α) :
    ((liftM (Except.ok a : Except Panic α) : Fallible α) >>= f) = f a := rfl

@[simp] lemma liftM_error_bind (p : Panic) :
    ((liftM (Except.error p : Except Panic α) : Fallible α) >>= f).run = .error p := rfl

end

def closeFactorBps (healthFactor : U256) : Except Panic U128 := do
  let threshold ← U256.div (← U256.mul (hfLiquidationThresholdBps.setWidth 256) wad)
    (bps.setWidth 256)
  return if healthFactor < threshold then bps else bps / 2

def applyCloseFactor (debt healthFactor : U256) : Except Panic U256 := do
  let factor ← closeFactorBps healthFactor
  U256.div (← U256.mul debt (factor.setWidth 256)) (bps.setWidth 256)

def estimateSeizableCollateralAmount (debtToCover collateralPrice debtPrice : U256)
    (collDecimals debtDecimals : UInt8) (liquidationBonusBps : UInt16) : Fallible U256 := do
  let value ← okOrElse "overflow: debt * price" (Checked.mul debtToCover debtPrice)
  let scaled ← okOrElse "overflow: collateral decimals"
    (Checked.mul value (← U256.exp10 collDecimals.toNat))
  let numerator ← okOrElse "overflow: bonus"
    (Checked.mul scaled (.ofNat 256 liquidationBonusBps.toNat))
  let price ← okOrElse "overflow: price * bps" (Checked.mul collateralPrice (bps.setWidth 256))
  let denominator ← okOrElse "overflow: debt decimals"
    (Checked.mul price (← U256.exp10 debtDecimals.toNat))
  if denominator = 0 then throw "denominator is zero"
  U256.div numerator denominator

end LiqRanger
