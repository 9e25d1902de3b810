import LiqRanger.Effect.Invariant
import LiqRanger.Records.Liquidations
import LiqRanger.Uniswap.CacheKey

/-!
# The event extractor

`LiqDataExtractor` over the calls it makes: the loop over the events of the contract, of both kinds,
with the rows that it inserts. A call to a token that fails gets a default, an insertion that fails
or an amount that has no text is logged, and a timestamp that has too many bits ends the task.
-/

namespace LiqRanger

open Effect

variable {φ : Type}

structure ProfitDistributed where
  asset : Address
  breetShare : U256
  ownerShare : U256
  timestamp : U256

/-- A row of the `distributions` table. -/
structure DistributionRecord (φ : Type) where
  txHash : Text
  asset : Text
  assetSymbol : Text
  amount : φ
  ownerShare : φ
  breetShare : φ
  timestamp : ℤ

/-- The table, with its unique transaction hash. -/
abbrev Distributions (φ : Type) := KeyedTable (DistributionRecord.txHash (φ := φ))

inductive IFlashLiquidatorEvents where
  | positionLiquidated (event : PositionLiquidated)
  | profitDistributed (event : ProfitDistributed)
  /-- A change of the owner. -/
  | other

structure LogMeta where
  transactionHash : H256
  blockNumber : U64

/-- What the stream yields. -/
abbrev StreamItem := Except String (IFlashLiquidatorEvents × LogMeta)

/-! ### Calls -/

/-- The lookups that go to a cache first, and the insertions. -/
inductive ExtractorOp (φ : Type) where
  | getTokenSymbol (token : Address)
  | getTokenDecimals (token : Address)
  | saveLiquidation (record : LiquidationRecord φ)
  | saveDistribution (record : DistributionRecord φ)

def ExtractorOp.Reply : ExtractorOp φ → Type
  | .getTokenSymbol _ => Except String Text
  | .getTokenDecimals _ => Except String UInt8
  | .saveLiquidation _ => Except String Unit
  | .saveDistribution _ => Except String Unit

abbrev extractorPorts (φ : Type) : Interface := ⟨ExtractorOp φ, ExtractorOp.Reply⟩

abbrev ExtractorM (φ : Type) := Program (extractorPorts φ) Panic

namespace LiqDataExtractor

def getTokenSymbol (token : Address) : ExtractorM φ (Except String Text) :=
  .call (.getTokenSymbol token) .ret

def getTokenDecimals (token : Address) : ExtractorM φ (Except String UInt8) :=
  .call (.getTokenDecimals token) .ret

def saveLiquidation (record : LiquidationRecord φ) : ExtractorM φ (Except String Unit) :=
  .call (.saveLiquidation record) .ret

def saveDistribution (record : DistributionRecord φ) : ExtractorM φ (Except String Unit) :=
  .call (.saveDistribution record) .ret

/-! ### Handling -/

variable (T : EthersText) (F : AmountText φ)

def computeAmount (rawAmount : U256) (asset : Address) :
    ExtractorM φ (Except ExtractorError φ) := do
  let decimals ← getTokenDecimals asset
  return LiqRanger.computeAmount F rawAmount decimals.toOption

/-- What is known of a saved record: nothing but that it failed. -/
def saved : Except String Unit → Except ExtractorError Unit
  | .ok _ => .ok ()
  | .error _ => .error .failed

def handleLiquidationEvent (evt : PositionLiquidated) (txHash : Text) (blockNumber : ℤ) :
    ExtractorM φ (Except ExtractorError Unit) := do
  let timestamp ← Program.ofExcept (CacheKey.asU64 evt.timestamp)
  let collateralSymbol ← getTokenSymbol evt.collateralAsset
  let profitSymbol ← getTokenSymbol evt.profitAsset
  match ← computeAmount F evt.profit evt.profitAsset with
  | .error e => return .error e
  | .ok profitAmount =>
    let record : LiquidationRecord φ := {
      timestamp := timestamp.toInt
      txHash := txHash
      borrower := evt.borrower
      collateralAsset := evt.collateralAsset
      collateralSymbol := collateralSymbol.toOption.getD "UNKNOWN".toList
      profitAsset := evt.profitAsset
      profitSymbol := profitSymbol.toOption.getD "UNKNOWN".toList
      profitAmount := profitAmount
      protocol := protocolName evt.mode
      blockNumber := blockNumber }
    return saved (← saveLiquidation record)

def handleDistributionEvent [Add φ] (evt : ProfitDistributed) (txHash : Text) :
    ExtractorM φ (Except ExtractorError Unit) := do
  let timestamp ← Program.ofExcept (CacheKey.asU64 evt.timestamp)
  let assetSymbol ← getTokenSymbol evt.asset
  match ← computeAmount F evt.ownerShare evt.asset with
  | .error e => return .error e
  | .ok ownerShare =>
    match ← computeAmount F evt.breetShare evt.asset with
    | .error e => return .error e
    | .ok breetShare =>
      let record : DistributionRecord φ := {
        timestamp := timestamp.toInt
        txHash := txHash
        asset := T.address.lowerHex evt.asset
        assetSymbol := assetSymbol.toOption.getD "UNKNOWN".toList
        ownerShare := ownerShare
        breetShare := breetShare
        amount := ownerShare + breetShare }
      return saved (← saveDistribution record)

def handleEvent [Add φ] (evt : IFlashLiquidatorEvents) (txHash : Text) (blockNumber : ℤ) :
    ExtractorM φ (Except ExtractorError Unit) :=
  match evt with
  | .positionLiquidated e => handleLiquidationEvent F e txHash blockNumber
  | .profitDistributed e => handleDistributionEvent T F e txHash
  | .other => return .ok ()

/-- One turn of the loop. Errors are logged. -/
def handleItem [Add φ] : StreamItem → ExtractorM φ Unit
  | .ok (event, logMeta) => do
    let txHash := T.h256.lowerHex logMeta.transactionHash
    let _ ← handleEvent T F event txHash logMeta.blockNumber.toInt
    return ()
  | .error _ => return ()

/-- The loop, up to the end of the stream or a shutdown. -/
def start [Add φ] : List StreamItem → ExtractorM φ Unit
  | [] => return ()
  | item :: items => do
    handleItem T F item
    start items

end LiqDataExtractor

end LiqRanger
