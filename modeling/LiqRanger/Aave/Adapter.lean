import LiqRanger.Aave.Math
import LiqRanger.Core.Debt
import LiqRanger.Core.Identity
import LiqRanger.Effect.Program
import Mathlib.Data.List.Sort

/-!
# The Aave reader

`evaluateBorrower` over the contract calls it makes. A step that fails makes the evaluation return
nothing, a panic ends it. The futures of a join are run one after the other: their calls only read.
-/

namespace LiqRanger

open Effect

structure AaveConfig where
  poolAddressProvider : Address
  vdebtTokens : Address → Option Address

/-- What the evaluation reads of a reserve of a user. -/
structure UserReserveData where
  underlyingAsset : Address
  scaledATokenBalance : U256
  usageAsCollateralEnabledOnUser : Bool
  scaledVariableDebt : U256

structure CollateralCandidate where
  asset : Address
  liquidationBonusBps : UInt16
  seizeAmount : U256
  usdValue : U256
  deriving DecidableEq

/-! ### Contract calls -/

/-- The calls, and the two lookups that go to a cache first: aTokens and decimals. -/
inductive AaveOp where
  | getUserAccountData (user : Address)
  | getUserReservesData (provider user : Address)
  | balanceOf (token account : Address)
  | getConfiguration (asset : Address)
  | resolveAtoken (asset : Address)
  | getAssetPrice (asset : Address)
  | getTokenDecimals (token : Address)

/-- What a call returns, or the text of its error. The account data are the collateral, the debt,
the available borrows, the threshold, the loan to value and the health factor. -/
def AaveOp.Reply : AaveOp → Type
  | .getUserAccountData .. => Except String (U256 × U256 × U256 × U256 × U256 × U256)
  | .getUserReservesData .. => Except String (List UserReserveData × UInt8)
  | .balanceOf .. => Except String U256
  | .getConfiguration .. => Except String U256
  | .resolveAtoken .. => Except String Address
  | .getAssetPrice .. => Except String U256
  | .getTokenDecimals .. => Except String UInt8

abbrev aaveCalls : Interface := ⟨AaveOp, AaveOp.Reply⟩

/-- Code that returns, ends in an error or panics. -/
abbrev AaveM := ExceptT String (Program aaveCalls Panic)

namespace AaveM

def getUserAccountData (user : Address) : AaveM (U256 × U256 × U256 × U256 × U256 × U256) :=
  .mk (.call (.getUserAccountData user) .ret)

def getUserReservesData (provider user : Address) : AaveM (List UserReserveData × UInt8) :=
  .mk (.call (.getUserReservesData provider user) .ret)

def balanceOf (token account : Address) : AaveM U256 := .mk (.call (.balanceOf token account) .ret)

def getConfiguration (asset : Address) : AaveM U256 := .mk (.call (.getConfiguration asset) .ret)

def resolveAtoken (asset : Address) : AaveM Address := .mk (.call (.resolveAtoken asset) .ret)

def getAssetPrice (asset : Address) : AaveM U256 := .mk (.call (.getAssetPrice asset) .ret)

def getTokenDecimals (token : Address) : AaveM UInt8 := .mk (.call (.getTokenDecimals token) .ret)

def ofFallible {α : Type} (x : Fallible α) : AaveM α := .mk (Program.ofExcept x.run)

/-- Both, or the first error. -/
def tryJoin {α β : Type} (x : AaveM α) (y : AaveM β) : AaveM (α × β) := .mk do
  let a ← x.run
  let b ← y.run
  return do return (← a, ← b)

end AaveM

/-! ### Debt and collateral -/

open AaveM

def liquidationBonusBps (asset : Address) : AaveM UInt16 := do
  let data ← getConfiguration asset
  let rawBonus : UInt16 := .ofNat ((data >>> 32) &&& 0xFFFF).toNat
  if rawBonus < 10000 ∨ 20000 < rawBonus then
    throw ("invalid liquidation bonus bounds: " ++ toString rawBonus)
  return rawBonus

def computeDebtToCover (borrower vdebtToken : Address) (healthFactor : U256) : AaveM U256 := do
  let debt ← balanceOf vdebtToken borrower
  if debt = 0 then return 0
  ofFallible (applyCloseFactor debt healthFactor)

def estimateSeizableCollateral (debtToCover : U256) (collateralAsset debtAsset : Address)
    (liquidationBonusBps : UInt16) : AaveM U256 := do
  if debtToCover = 0 then return 0
  let (collateralPrice, debtPrice) ← tryJoin (getAssetPrice collateralAsset)
    (getAssetPrice debtAsset)
  let (collDecimals, debtDecimals) ← tryJoin (getTokenDecimals collateralAsset)
    (getTokenDecimals debtAsset)
  ofFallible (estimateSeizableCollateralAmount debtToCover collateralPrice debtPrice collDecimals
    debtDecimals liquidationBonusBps)

/-- What one reserve would yield; nothing if that is zero. -/
def collateralCandidate (borrower debtAsset : Address) (debtToCover : U256) (asset : Address) :
    AaveM (Option CollateralCandidate) := do
  let bonus ← liquidationBonusBps asset
  let atoken ← resolveAtoken asset
  let balance ← balanceOf atoken borrower
  let estimate ← estimateSeizableCollateral debtToCover asset debtAsset bonus
  let seize := U256.min estimate balance
  if seize = 0 then return none
  let price ← getAssetPrice asset
  let decimals ← getTokenDecimals asset
  let value ← ofFallible (okOrElse "overflow: collateral amount * price" (Checked.mul seize price))
  let usdValue ← ofFallible do U256.div value (← U256.exp10 decimals.toNat)
  return some ⟨asset, bonus, seize, usdValue⟩

/-- The futures of the join. -/
def collateralCandidates (borrower debtAsset : Address) (debtToCover : U256)
    (collaterals : List UserReserveData) :
    Program aaveCalls Panic (List (Except String (Option CollateralCandidate))) :=
  collaterals.mapM fun reserve =>
    (collateralCandidate borrower debtAsset debtToCover reserve.underlyingAsset).run

/-- The candidate of the highest value, the first of the reserves among equals. Reserves whose
evaluation failed are left out. -/
def bestCandidate (results : List (Except String (Option CollateralCandidate))) :
    Option CollateralCandidate :=
  let candidates := results.filterMap fun
    | .ok candidate => candidate
    | .error _ => none
  (candidates.insertionSort fun a b => b.usdValue ≤ a.usdValue).head?

def selectCollateralCandidate (T : EthersText) (borrower : Address)
    (collaterals : List UserReserveData) (debtAsset : Address) (debtToCover : U256) :
    AaveM CollateralCandidate := do
  match bestCandidate (← collateralCandidates borrower debtAsset debtToCover collaterals) with
  | some candidate => return candidate
  | none =>
    throw ("no viable collateral candidate found for borrower "
      ++ String.ofList (T.address.debug borrower))

/-! ### Evaluation -/

namespace AaveProtocolAdapter

variable (T : EthersText) (config : AaveConfig)

/-- The first reserve with outstanding debt. A check that fails is logged. -/
def discoverDebtReserve (borrower : Address) :
    List UserReserveData → Program aaveCalls Panic (Option Address)
  | [] => return none
  | userRes :: rest =>
    if userRes.scaledVariableDebt ≠ 0 then do
      match ← (hasOutstandingDebt T config.vdebtTokens balanceOf borrower
        userRes.underlyingAsset).run with
      | .ok true => return some userRes.underlyingAsset
      | .ok false => discoverDebtReserve borrower rest
      | .error _ => discoverDebtReserve borrower rest
    else discoverDebtReserve borrower rest

def collateralPositions (userReserves : List UserReserveData) : List UserReserveData :=
  userReserves.filter fun r => r.usageAsCollateralEnabledOnUser && r.scaledATokenBalance != 0

/-- From the debt to repay on. -/
def evaluateReserve (borrower : Address) (hf : U256) (collaterals : List UserReserveData)
    (debtReserve : Address) : Program aaveCalls Panic (Option BorrowerProfile) := do
  match config.vdebtTokens debtReserve with
  | none => return none
  | some vDebt =>
    match ← (computeDebtToCover borrower vDebt hf).run with
    | .error _ => return none
    | .ok debtToCover =>
      if debtToCover = 0 then return none
      match ← (selectCollateralCandidate T borrower collaterals debtReserve
        debtToCover).run with
      | .error _ => return none
      | .ok candidate =>
        match ← (tryJoin (getTokenDecimals candidate.asset) (getTokenDecimals debtReserve)).run with
        | .error _ => return none
        | .ok (srcDecimals, destDecimals) =>
          return some {
            address := borrower
            repaidShares := none
            seizedAssets := none
            marketId := none
            debtAsset := debtReserve
            debtToCover := debtToCover
            collateralAsset := candidate.asset
            seizeAmount := candidate.seizeAmount
            srcDecimals := srcDecimals
            destDecimals := destDecimals
            protocol := .aave
            identity := (TrackerIdentity.aaveV3 borrower debtReserve).toStringId T }

/-- The reserve to repay: the given one, or the first with debt. -/
def debtReserve (borrower : Address) (targetReserve : Option Address)
    (userReserves : List UserReserveData) : Program aaveCalls Panic (Option Address) :=
  match targetReserve with
  | some reserve => return some reserve
  | none => discoverDebtReserve T config borrower userReserves

/-- Evaluates a single borrower. -/
def evaluateBorrower (borrower : Address) (targetReserve : Option Address) :
    Program aaveCalls Panic (Option BorrowerProfile) := do
  match ← (getUserAccountData borrower).run with
  | .error _ => return none
  | .ok (_, _, _, _, _, hf) =>
    if wad ≤ hf then return none
    match ← (getUserReservesData config.poolAddressProvider borrower).run with
    | .error _ => return none
    | .ok (userReserves, _) =>
      let collaterals := collateralPositions userReserves
      if collaterals.isEmpty then return none
      match ← debtReserve T config borrower targetReserve userReserves with
      | none => return none
      | some debtReserve => evaluateReserve T config borrower hf collaterals debtReserve

def refreshBorrower (identity : Text) :
    Program aaveCalls Panic (Except String BorrowerProfile) := do
  match TrackerIdentity.fromStr T identity with
  | .ok (.aaveV3 borrower reserve) =>
    match ← evaluateBorrower T config borrower (some reserve) with
    | some profile => return .ok profile
    | none =>
      return .error ("Position no longer liquidatable for identity: " ++ String.ofList identity)
  | _ => return .error ("Invalid tracker identity format: " ++ String.ofList identity)

end AaveProtocolAdapter

end LiqRanger
