import LiqRanger.Core.Identity
import LiqRanger.Effect.Program
import LiqRanger.Morpho.Math

/-!
# The Morpho reader

`evaluateTarget` over the contract calls it makes. A call that fails makes the evaluation return
nothing, a panic ends it.
-/

namespace LiqRanger

open Effect

structure MorphoConfig where
  oraclePriceScale : U256

def MorphoConfig.load : MorphoConfig := ⟨LiqRanger.oraclePriceScale⟩

structure Market where
  totalBorrowAssets : U128
  totalBorrowShares : U128

structure Position where
  borrowShares : U128
  collateral : U128

inductive LiquidationMode where
  | repayShares (repaidShares expectedSeizedAssets : U256)
  | seizeCollateral (seizedAssets : U256)

/-! ### Contract calls -/

inductive MorphoOp where
  | position (marketId : H256) (borrower : Address)
  | market (marketId : H256)
  | idToMarketParams (marketId : H256)
  | price (oracle : Address)
  | getTokenDecimals (token : Address)

/-- What a call returns: the supply shares, the borrow shares and the collateral of a position;
the totals, last update and fee of a market; the tokens, the oracle, the rate model and the
threshold of its parameters. -/
def MorphoOp.Reply : MorphoOp → Type
  | .position .. => Option (U256 × U128 × U128)
  | .market .. => Option (U128 × U128 × U128 × U128 × U128 × U128)
  | .idToMarketParams .. => Option (Address × Address × Address × Address × U256)
  | .price .. => Option U256
  | .getTokenDecimals .. => Option UInt8

abbrev morphoCalls : Interface := ⟨MorphoOp, MorphoOp.Reply⟩

variable {ε : Type}

def IMorphoBlue.position (marketId : H256) (borrower : Address) :
    Program morphoCalls ε (Option (U256 × U128 × U128)) :=
  .call (.position marketId borrower) fun reply => .ret reply

def IMorphoBlue.market (marketId : H256) :
    Program morphoCalls ε (Option (U128 × U128 × U128 × U128 × U128 × U128)) :=
  .call (.market marketId) fun reply => .ret reply

def IMorphoBlue.idToMarketParams (marketId : H256) :
    Program morphoCalls ε (Option (Address × Address × Address × Address × U256)) :=
  .call (.idToMarketParams marketId) fun reply => .ret reply

def IOracle.price (oracle : Address) : Program morphoCalls ε (Option U256) :=
  .call (.price oracle) fun reply => .ret reply

def getTokenDecimals (token : Address) : Program morphoCalls ε (Option UInt8) :=
  .call (.getTokenDecimals token) fun reply => .ret reply

/-! ### Evaluation -/

def Position.isHealthy (position : Position) (market : Market) (lltv price : U256) :
    Except Panic Bool := do
  let collateralValue ← U256.div (← U256.mul (position.collateral.setWidth 256) price)
    oraclePriceScale
  let maxBorrow ← U256.div (← U256.mul collateralValue lltv) wad
  let borrowedAssets ← toAssetsUp (position.borrowShares.setWidth 256)
    (market.totalBorrowAssets.setWidth 256) (market.totalBorrowShares.setWidth 256)
  return borrowedAssets ≤ maxBorrow

/-- Step 4: the mode (full repay or seizing a bad debt) for a debt of `debtAssets`. -/
def liquidationMode (config : MorphoConfig)
    (borrowShares totalAssets totalShares debtAssets collateral lltv price : U256) :
    Except Panic (Option LiquidationMode) := do
  let lif ← incentiveFactor lltv
  let requiredCollateral ← mulDivDown (← wmulDown debtAssets lif) config.oraclePriceScale price
  if requiredCollateral ≤ collateral then
    let seizedForSwap ← seizedAssetsFromRepaidShares borrowShares totalAssets totalShares lltv
      config.oraclePriceScale price
    if seizedForSwap = 0 then return none
    return some (.repayShares borrowShares seizedForSwap)
  else
    return some (.seizeCollateral collateral)

/-- Steps 3 and 4: the debt to cover and the mode, for a position that is not healthy. -/
def liquidationTarget (config : MorphoConfig) (position : Position) (market : Market)
    (lltv price : U256) : Except Panic (Option (U256 × LiquidationMode)) := do
  if ← position.isHealthy market lltv price then return none
  let totalAssets := market.totalBorrowAssets.setWidth 256
  let totalShares := market.totalBorrowShares.setWidth 256
  let borrowShares := position.borrowShares.setWidth 256
  let debtAssets ← toAssetsDown borrowShares totalAssets totalShares
  if debtAssets = 0 then return none
  let mode ← liquidationMode config borrowShares totalAssets totalShares debtAssets
    (position.collateral.setWidth 256) lltv price
  return mode.map fun mode => (debtAssets, mode)

def LiquidationMode.collateralForSwap : LiquidationMode → U256
  | .repayShares _ expectedSeizedAssets => expectedSeizedAssets
  | .seizeCollateral seizedAssets => seizedAssets

/-- The shares to repay and the collateral to seize. -/
def LiquidationMode.amounts : LiquidationMode → U256 × U256
  | .repayShares repaidShares _ => (repaidShares, 0)
  | .seizeCollateral seizedAssets => (0, seizedAssets)

/-- Steps 1 and 2: the position, the market, its parameters and the price; nothing if a call
fails or the position has no debt. -/
def fetchPosition (marketId : H256) (borrower : Address) :
    Program morphoCalls Panic
      (Option (Position × Market × (Address × Address × Address × Address × U256) × U256)) := do
  let posRes ← IMorphoBlue.position marketId borrower
  let marketRes ← IMorphoBlue.market marketId
  let paramsRes ← IMorphoBlue.idToMarketParams marketId
  match posRes, marketRes, paramsRes with
  | some (_, borrowShares, collateral), some (_, _, totalBorrowAssets, totalBorrowShares, _, _),
      some params =>
    if borrowShares = 0 then return none
    match ← IOracle.price params.2.2.1 with
    | none => return none
    | some price =>
      return some (⟨borrowShares, collateral⟩, ⟨totalBorrowAssets, totalBorrowShares⟩, params,
        price)
  | _, _, _ => return none

/-- Evaluates a single Morpho Blue position. -/
def MorphoProtocolAdapter.evaluateTarget (T : EthersText) (config : MorphoConfig)
    (identity : Text) : Program morphoCalls Panic (Option BorrowerProfile) := do
  match TrackerIdentity.fromStr T identity with
  | .ok (.morphoBlue marketId borrower) =>
    match ← fetchPosition marketId borrower with
    | none => return none
    | some (position, market, (loanToken, collateralToken, _, _, lltv), price) =>
      match ← Program.ofExcept (liquidationTarget config position market lltv price) with
      | none => return none
      | some (debtAssets, mode) =>
        if mode.collateralForSwap = 0 then return none
        let srcDecimals ← getTokenDecimals collateralToken
        let destDecimals ← getTokenDecimals loanToken
        match srcDecimals, destDecimals with
        | some srcDecimals, some destDecimals =>
          return some {
            address := borrower
            repaidShares := some mode.amounts.1
            seizedAssets := some mode.amounts.2
            marketId := some marketId
            debtAsset := loanToken
            debtToCover := debtAssets
            collateralAsset := collateralToken
            seizeAmount := mode.collateralForSwap
            srcDecimals := srcDecimals
            destDecimals := destDecimals
            protocol := .morpho
            identity := identity }
        | _, _ => return none
  | _ => return none

/-- An evaluation on request: its profile, or the error that there is none. -/
def MorphoProtocolAdapter.refreshTarget (T : EthersText) (config : MorphoConfig)
    (identity : Text) : Program morphoCalls Panic (Except String BorrowerProfile) := do
  match ← evaluateTarget T config identity with
  | some profile => return .ok profile
  | none =>
    return .error ("Position no longer liquidatable for identity: " ++ String.ofList identity)

/-- The text of a failed call is left out of its error. -/
def MorphoProtocolAdapter.refreshBorrower (T : EthersText) (config : MorphoConfig)
    (identity : Text) : Program morphoCalls Panic (Except String BorrowerProfile) := do
  match TrackerIdentity.fromStr T identity with
  | .ok (.morphoBlue marketId borrower) =>
    match ← IMorphoBlue.position marketId borrower with
    | none => return .error "RPC error checking Morpho position"
    | some (_, borrowShares, _) =>
      if borrowShares = 0 then
        return .error ("Borrower " ++ String.ofList (T.address.debug borrower)
          ++ " has no outstanding debt shares")
      refreshTarget T config identity
  | _ => refreshTarget T config identity

end LiqRanger
