import LiqRanger.Core.Constants
import LiqRanger.Records.KeyedTable
import Mathlib.Data.Finset.Basic
import Mathlib.Data.Finset.Dedup

/-!
# Recorded liquidations

The extractor turns `PositionLiquidated` events into rows of the `liquidations` table; the
profit distributor reads the assets of the rows back. An amount is a value of some type `φ` of
floating-point numbers, which nothing here looks into.
-/

namespace LiqRanger

variable {φ : Type}

/-- The formatting and parsing of amounts, as the libraries do it. -/
structure AmountText (φ : Type) where
  formatUnits : U256 → ℕ → Option Text
  parse : Text → Option φ
  zero : φ

structure PositionLiquidated where
  mode : UInt8
  borrower : Address
  profitAsset : Address
  collateralAsset : Address
  profit : U256
  timestamp : U256

structure LiquidationRecord (φ : Type) where
  timestamp : ℤ
  blockNumber : ℤ
  protocol : Text
  borrower : Address
  collateralAsset : Address
  profitAsset : Address
  profitAmount : φ
  profitSymbol : Text
  collateralSymbol : Text
  txHash : Text

/-- A row of the `liquidations` table; addresses are text columns. -/
structure LiquidationRow (φ : Type) where
  txHash : Text
  protocol : Text
  borrower : Text
  profitAsset : Text
  profitSymbol : Text
  collateralAsset : Text
  collateralSymbol : Text
  profitAmount : φ
  blockNumber : ℤ
  timestamp : ℤ

/-- The table, with its unique transaction hash. -/
abbrev Liquidations (φ : Type) := KeyedTable (LiquidationRow.txHash (φ := φ))

/-- An event as it arrives, with the replies of the token contracts while it is handled. -/
structure Delivery where
  event : PositionLiquidated
  transactionHash : H256
  blockNumber : U64
  collateralSymbol : Option Text
  profitSymbol : Option Text
  profitDecimals : Option UInt8

/-- Why an event is not recorded: the process stops, or the error is logged. -/
inductive ExtractorError where
  | panic (message : String)
  | failed

/-! ### Writing -/

def LiquidationRecord.save (T : EthersText) (record : LiquidationRecord φ)
    (table : Liquidations φ) : Liquidations φ :=
  table.insertOrIgnore {
    txHash := record.txHash
    protocol := record.protocol
    borrower := T.address.display record.borrower
    profitAsset := T.address.display record.profitAsset
    profitSymbol := record.profitSymbol
    collateralAsset := T.address.display record.collateralAsset
    collateralSymbol := record.collateralSymbol
    profitAmount := record.profitAmount
    blockNumber := record.blockNumber
    timestamp := record.timestamp }

/-- The low 64 bits of a word that fits in them. -/
def U256.asU64 (x : U256) : Except ExtractorError U64 :=
  if x.toNat < 2 ^ 64 then .ok (x.setWidth 64)
  else .error (.panic "Integer overflow when casting to u64")

/-- An amount in units of the asset; the decimals are 18 when the contract does not answer. -/
def computeAmount (F : AmountText φ) (rawAmount : U256) (decimals : Option UInt8) :
    Except ExtractorError φ :=
  match F.formatUnits rawAmount (decimals.getD 18).toNat with
  | some text => .ok ((F.parse text).getD F.zero)
  | none => .error .failed

def protocolName (mode : UInt8) : Text :=
  if mode = 0 then "Aave".toList
  else if mode = 1 then "Morpho".toList
  else if mode = 2 then "Compound".toList
  else "Unknown".toList

def handleLiquidationEvent (T : EthersText) (F : AmountText φ) (delivery : Delivery)
    (table : Liquidations φ) : Except ExtractorError (Liquidations φ) := do
  let event := delivery.event
  let timestamp ← event.timestamp.asU64
  let profitAmount ← computeAmount F event.profit delivery.profitDecimals
  let record : LiquidationRecord φ := {
    timestamp := timestamp.toInt
    txHash := T.h256.lowerHex delivery.transactionHash
    borrower := event.borrower
    collateralAsset := event.collateralAsset
    collateralSymbol := delivery.collateralSymbol.getD "UNKNOWN".toList
    profitAsset := event.profitAsset
    profitSymbol := delivery.profitSymbol.getD "UNKNOWN".toList
    profitAmount := profitAmount
    protocol := protocolName event.mode
    blockNumber := delivery.blockNumber.toInt }
  return record.save T table

/-- The extractor over a sequence of deliveries: an error is logged and skipped, a panic ends
the process. -/
def LiqDataExtractor.run (T : EthersText) (F : AmountText φ) :
    List Delivery → Liquidations φ → Liquidations φ
  | [], table => table
  | delivery :: rest, table =>
    match handleLiquidationEvent T F delivery table with
    | .ok table => LiqDataExtractor.run T F rest table
    | .error .failed => LiqDataExtractor.run T F rest table
    | .error (.panic _) => table

/-! ### Reading -/

/-- Both asset columns of the table, each text once. -/
def selectAssets (table : Liquidations φ) : List Text :=
  (table.rows.map LiquidationRow.profitAsset
    ++ table.rows.map LiquidationRow.collateralAsset).dedup

/-- A text that is an address is added, any other text is skipped. -/
def insertParsed (T : EthersText) (assets : Finset Address) (text : Text) : Finset Address :=
  match T.address.fromStr text with
  | some address => insert address assets
  | none => assets

def discoverActiveAssets (T : EthersText) (table : Liquidations φ) : Finset Address :=
  (selectAssets table).foldl (insertParsed T) profitDistAssets.toFinset

end LiqRanger
