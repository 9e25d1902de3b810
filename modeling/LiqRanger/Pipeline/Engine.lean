import LiqRanger.Effect.Program
import LiqRanger.Core.Types

/-!
# The execution pipeline

`processPayload` and its helpers. The ports (route finder, simulator, protocol reader,
liquidation contract) are the operations of an interface, and a reply is whatever the port
answers at that call. Token symbols, formatted amounts and timings feed log lines only and are
left out.
-/

namespace LiqRanger

open Effect

variable {ρ : Type}

inductive PipelineOp (ρ : Type) where
  | getSwapQuote (srcToken destToken : Address) (srcDecimals destDecimals : UInt8)
      (amount : U256)
  | simulateLiquidation (blockNumber : U64) (job : LiquidationJob)
  | refreshBorrower (reader : ρ) (identity : Text)
  | executeLiquidation (job : LiquidationJob) (gasLimit : U256)

/-- Every port answers with a value or with an error and its text. -/
def PipelineOp.Reply : PipelineOp ρ → Type
  | .getSwapQuote .. => Except String MarketQuote
  | .simulateLiquidation .. => Except String U64
  | .refreshBorrower .. => Except String BorrowerProfile
  | .executeLiquidation .. => Except String H256

/-- The ports of the pipeline, for readers of type `ρ`. -/
abbrev ports (ρ : Type) : Interface := ⟨PipelineOp ρ, PipelineOp.Reply⟩

variable {ε : Type}

def DexRouteFinder.getSwapQuote (srcToken destToken : Address)
    (srcDecimals destDecimals : UInt8) (amount : U256) :
    Program (ports ρ) ε (Except String MarketQuote) :=
  .call (.getSwapQuote srcToken destToken srcDecimals destDecimals amount) fun reply =>
    .ret reply

def EvmSimulator.simulateLiquidation (blockNumber : U64) (job : LiquidationJob) :
    Program (ports ρ) ε (Except String U64) :=
  .call (.simulateLiquidation blockNumber job) fun reply => .ret reply

def LendingProtocolReader.refreshBorrower (reader : ρ) (identity : Text) :
    Program (ports ρ) ε (Except String BorrowerProfile) :=
  .call (.refreshBorrower reader identity) fun reply => .ret reply

def LiquidationContract.executeLiquidation (job : LiquidationJob) (gasLimit : U256) :
    Program (ports ρ) ε (Except String H256) :=
  .call (.executeLiquidation job gasLimit) fun reply => .ret reply

/-- Step 0: guard against zero amounts. -/
def validateProfile (profile : BorrowerProfile) : Bool :=
  !(profile.seizeAmount == 0 || profile.debtToCover == 0)

/-- Steps 1 and 2: fetch a quote and enforce the profitability threshold. -/
def fetchAndValidateQuote (profile : BorrowerProfile) :
    Program (ports ρ) Empty (Option MarketQuote) := do
  match ← DexRouteFinder.getSwapQuote profile.collateralAsset profile.debtAsset
      profile.srcDecimals profile.destDecimals profile.seizeAmount with
  | .error _ => return none
  | .ok quote =>
    if quote.minAmtOut < profile.debtToCover then return none
    return some quote

def buildLiquidationJob (profile : BorrowerProfile) (quote : MarketQuote) : LiquidationJob where
  borrower := profile.address
  debtAsset := profile.debtAsset
  collateralAsset := profile.collateralAsset
  debtToCover := profile.debtToCover
  swapTarget := quote.swapTarget
  swapProxy := quote.tokenTransferProxy
  swapData := quote.swapData
  marketId := profile.marketId
  repaidShares := profile.repaidShares
  seizedAssets := profile.seizedAssets
  protocol := profile.protocol
  minAmtOut := quote.minAmtOut
  identity := profile.identity
  seizeAmount := profile.seizeAmount

/-- Step 3: simulate against the target block. -/
def simulateJob (blockNumber : U64) (job : LiquidationJob) :
    Program (ports ρ) Empty (Option U64) := do
  match ← EvmSimulator.simulateLiquidation blockNumber job with
  | .ok gas => return some gas
  | .error _ => return none

/-- The job with the fields that re-validation copies from the refreshed profile and the new
quote. The assets, the market and the identity stay those of the scan. -/
def LiquidationJob.revalidated (job : LiquidationJob) (refreshed : BorrowerProfile)
    (newQuote : MarketQuote) : LiquidationJob :=
  { job with
    debtToCover := refreshed.debtToCover
    seizeAmount := refreshed.seizeAmount
    repaidShares := refreshed.repaidShares
    seizedAssets := refreshed.seizedAssets
    minAmtOut := newQuote.minAmtOut
    swapTarget := newQuote.swapTarget
    swapProxy := newQuote.tokenTransferProxy
    swapData := newQuote.swapData }

/-- Re-quote and re-simulate a job whose position changed. The simulation is asked for block 0,
whatever block the payload was found at. -/
def tryRevalidateAndSimulate (refreshed : BorrowerProfile) (job : LiquidationJob) :
    Program (ports ρ) String TxPayload := do
  let reply ← DexRouteFinder.getSwapQuote refreshed.collateralAsset refreshed.debtAsset
    refreshed.srcDecimals refreshed.destDecimals refreshed.seizeAmount
  let newQuote ← Program.ofExcept reply
  if newQuote.minAmtOut < refreshed.debtToCover then
    Program.fail "Refreshed quote below debt to cover"
  else
    let job := job.revalidated refreshed newQuote
    let simulated ← EvmSimulator.simulateLiquidation 0 job
    let gasUsed ← Program.ofExcept simulated
    return ⟨job, gasUsed⟩

/-- Step 4: query the position again. Answers whether to go on, with the job and the gas to go
on with. -/
def jitRefreshGuard (payload : LiqPayload ρ) (job : LiquidationJob) (gasUsed : U64) :
    Program (ports ρ) Empty (Bool × LiquidationJob × U64) := do
  match ← LendingProtocolReader.refreshBorrower payload.reader job.identity with
  | .error _ => return (false, job, gasUsed)
  | .ok refreshed =>
    let stateChanged := refreshed.debtToCover != job.debtToCover
      || refreshed.seizeAmount != job.seizeAmount
    if !stateChanged then return (true, job, gasUsed)
    let revalidated ← (tryRevalidateAndSimulate refreshed job).attempt
    match revalidated with
    | .ok updated => return (true, updated.job, updated.gasUsed)
    | .error _ => return (false, job, gasUsed)

/-- The gas limit handed to the contract: the same number, widened. -/
def gasLimitOf (gasUsed : U64) : U256 := gasUsed.setWidth 256

/-- Step 5: submit the transaction; its outcome is only logged. -/
def executeLiquidation (job : LiquidationJob) (gasUsed : U64) :
    Program (ports ρ) Empty Unit := do
  let _ ← LiquidationContract.executeLiquidation job (gasLimitOf gasUsed)
  return ()

/-- Main orchestration: validate, quote, check profit, simulate, refresh, execute. -/
def processPayload (payload : LiqPayload ρ) : Program (ports ρ) Empty Unit := do
  if !validateProfile payload.profile then return ()
  match ← fetchAndValidateQuote payload.profile with
  | none => return ()
  | some quote =>
    let job := buildLiquidationJob payload.profile quote
    match ← simulateJob payload.blockNumber job with
    | none => return ()
    | some gasUsed =>
      let (goOn, job, gasUsed) ← jitRefreshGuard payload job gasUsed
      if !goOn then return ()
      executeLiquidation job gasUsed

end LiqRanger
