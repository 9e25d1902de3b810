import LiqRanger.Text.FixedHash

/-!
# Core types

The records that pass between the protocol adapters, the route finder, the simulator and the
execution pipeline.
-/

namespace LiqRanger

abbrev U256 := BitVec 256

abbrev U128 := BitVec 128

abbrev U64 := BitVec 64

abbrev Bytes := List UInt8

inductive Protocol where
  | morpho
  | aave
  deriving DecidableEq

/-- A position found liquidatable, with the amounts to repay and to seize. -/
structure BorrowerProfile where
  address : Address
  repaidShares : Option U256
  seizedAssets : Option U256
  marketId : Option H256
  debtAsset : Address
  debtToCover : U256
  collateralAsset : Address
  seizeAmount : U256
  srcDecimals : UInt8
  destDecimals : UInt8
  protocol : Protocol
  identity : Text
  deriving DecidableEq

structure MarketQuote where
  swapTarget : Address
  tokenTransferProxy : Address
  swapData : Bytes
  minAmtOut : U256
  deriving DecidableEq

structure LiquidationJob where
  borrower : Address
  debtAsset : Address
  collateralAsset : Address
  debtToCover : U256
  swapTarget : Address
  swapProxy : Address
  swapData : Bytes
  repaidShares : Option U256
  seizedAssets : Option U256
  marketId : Option H256
  protocol : Protocol
  minAmtOut : U256
  identity : Text
  seizeAmount : U256
  deriving DecidableEq

structure TxPayload where
  job : LiquidationJob
  gasUsed : U64
  deriving DecidableEq

/-- A candidate on its way to the pipeline, with the reader (of type `ρ`) that found it. -/
structure LiqPayload (ρ : Type) where
  profile : BorrowerProfile
  reader : ρ
  blockNumber : U64

end LiqRanger
