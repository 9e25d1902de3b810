import LiqRanger.Bootstrap.Ranges
import LiqRanger.Transition.System

/-!
# Start of the engine

`start_liquidation_engine` runs both bootstraps at once, waits for them, reads the debt tokens and
starts the background tasks one after the other; each updater then opens its streams when its task
gets to run. The chain goes on mining all the while. Its heights are natural numbers, as in the
bootstraps.
-/

namespace LiqRanger

open Effect Transition

/-- A protocol on its way from the bootstrap to the updater. -/
structure HandOver (κ : Type) where
  /-- What is left of the bootstrap. -/
  bootstrap : BootstrapProgram κ Unit
  /-- The calls it has made, with their replies. -/
  calls : List (Event (bootstrapPorts κ))
  /-- The heights of the chain when the updater opened its streams, in the order of its code. The
  Borrow stream is the first. -/
  streams : List ℕ

/-- Where the engine stands; each stage is what it does next. -/
inductive StartStage where
  | runAll
  | populateVdebtTokens (remaining : List Address)
  | startPipelineEngine
  | startProtocolScanner
  | startAaveWatchlistUpdater
  | startMorphoWatchlistUpdater
  | startWatchlistPruner
  | startProfitDistributor
  | startLiqDataExtractor
  | startBlockWatcher
  | started

def StartStage.next : StartStage → StartStage
  | .runAll => .populateVdebtTokens aaveReserves
  | .populateVdebtTokens (_ :: remaining) => .populateVdebtTokens remaining
  | .populateVdebtTokens [] => .startPipelineEngine
  | .startPipelineEngine => .startProtocolScanner
  | .startProtocolScanner => .startAaveWatchlistUpdater
  | .startAaveWatchlistUpdater => .startMorphoWatchlistUpdater
  | .startMorphoWatchlistUpdater => .startWatchlistPruner
  | .startWatchlistPruner => .startProfitDistributor
  | .startProfitDistributor => .startLiqDataExtractor
  | .startLiqDataExtractor => .startBlockWatcher
  | .startBlockWatcher => .started
  | .started => .started

/-- The task of the Aave updater is running. -/
def StartStage.aaveUpdaterSpawned : StartStage → Bool
  | .runAll | .populateVdebtTokens _ | .startPipelineEngine | .startProtocolScanner
  | .startAaveWatchlistUpdater => false
  | _ => true

/-- The task of the Morpho updater is running. -/
def StartStage.morphoUpdaterSpawned : StartStage → Bool
  | .startMorphoWatchlistUpdater => false
  | stage => stage.aaveUpdaterSpawned

structure Startup where
  /-- The height of the chain. -/
  head : ℕ
  stage : StartStage
  aave : HandOver Address
  morpho : HandOver H256

variable {κ : Type}

/-- The bootstrap gets the reply to its next call. The tip is the height of the chain; of the
other replies nothing is assumed. -/
inductive HandOver.Call (head : ℕ) : HandOver κ → HandOver κ → Prop where
  | mk (h : HandOver κ) (op : BootstrapOp κ) (next : op.Reply → BootstrapProgram κ Unit)
      (reply : op.Reply) (hcall : h.bootstrap = .call op next)
      (htip : ∀ tip, (⟨op, reply⟩ : Event (bootstrapPorts κ)) = tipEvent (.ok tip) → tip = head) :
      HandOver.Call head h
        { h with bootstrap := next reply, calls := h.calls ++ [⟨op, reply⟩] }

/-- The updater opens its next stream. -/
def HandOver.stream (h : HandOver κ) (head : ℕ) : HandOver κ :=
  { h with streams := h.streams ++ [head] }

/-- One step of the chain, of the engine or of a task. -/
inductive StartupStep : Startup → Startup → Prop where
  | mine (s : Startup) : StartupStep s { s with head := s.head + 1 }
  | aaveBootstrap (s : Startup) (aave : HandOver Address)
      (hcall : HandOver.Call s.head s.aave aave) : StartupStep s { s with aave := aave }
  | morphoBootstrap (s : Startup) (morpho : HandOver H256)
      (hcall : HandOver.Call s.head s.morpho morpho) : StartupStep s { s with morpho := morpho }
  /-- Both bootstraps have returned without an error. -/
  | bootstrapped (s : Startup) (hstage : s.stage = .runAll) (haave : s.aave.bootstrap = .ret ())
      (hmorpho : s.morpho.bootstrap = .ret ()) :
      StartupStep s { s with stage := s.stage.next }
  | advance (s : Startup) (hstage : s.stage ≠ .runAll) :
      StartupStep s { s with stage := s.stage.next }
  | aaveStream (s : Startup) (hspawned : s.stage.aaveUpdaterSpawned = true)
      (hlength : s.aave.streams.length < 1) :
      StartupStep s { s with aave := s.aave.stream s.head }
  /-- Borrow, then Repay, then Liquidate. -/
  | morphoStream (s : Startup) (hspawned : s.stage.morphoUpdaterSpawned = true)
      (hlength : s.morpho.streams.length < 3) :
      StartupStep s { s with morpho := s.morpho.stream s.head }

/-- The engine before the bootstraps make their first calls. -/
def Startup.initial (T : EthersText) (head : ℕ) : Startup where
  head := head
  stage := .runAll
  aave := ⟨AaveBootstrapAdapter.run T, [], []⟩
  morpho := ⟨MorphoBootstrapAdapter.run T, [], []⟩

/-- Both updaters have opened all their streams. -/
def Startup.UpdatersStarted (s : Startup) : Prop :=
  s.aave.streams.length = 1 ∧ s.morpho.streams.length = 3

/-! ### What is handed over -/

namespace HandOver

/-- The first block and the tip of a bootstrap, once it has read them. -/
def readRange? (config : BootstrapConfig κ) (calls : List (Event (bootstrapPorts κ))) :
    Option (ℕ × ℕ) :=
  match calls with
  | ⟨.loadLastBlock, .ok last⟩ :: ⟨.getBlockNumber, .ok tip⟩ :: _ =>
    some (last.getD config.deployBlock - 20, tip)
  | _ => none

def range? (config : BootstrapConfig κ) (h : HandOver κ) : Option (ℕ × ℕ) :=
  readRange? config h.calls

/-- The height at which the Borrow stream was opened. The stream delivers the logs of the blocks
mined from then on. -/
def opened? (h : HandOver κ) : Option ℕ := h.streams.head?

/-- A Borrow of a whitelisted reserve or market. -/
def Watched (config : BootstrapConfig κ) (log : PositionLog κ) : Prop :=
  log.kind = .borrow ∧ log.market ∈ config.whitelist

/-- Every watched Borrow from the first block on is in a block that the bootstrap read and
scanned, or in one that the stream delivers. -/
def NoGap (config : BootstrapConfig κ) (chain : Chain κ) (h : HandOver κ) : Prop :=
  ∀ start tip opened, h.range? config = some (start, tip) → h.opened? = some opened →
    ∀ block, start ≤ block → ∀ log ∈ chain block, Watched config log →
      (block ≤ tip ∧ ∃ range ∈ scannedRanges h.calls, range.1 ≤ block ∧ block ≤ range.2) ∨
        opened < block

/-- A block that is mined between the reading of the tip and the opening of the Borrow stream
holds no watched Borrow, unless it lies before the first block of the bootstrap. -/
def QuietBlock (config : BootstrapConfig κ) (chain : Chain κ) (block : ℕ) (h : HandOver κ) :
    Prop :=
  ∀ start tip, h.range? config = some (start, tip) → h.opened? = none → start ≤ block →
    ∀ log ∈ chain block, ¬ Watched config log

end HandOver

/-- No Borrow falls between bootstrap and updater, on either protocol. -/
def Startup.NoGap (T : EthersText) (aaveChain : Chain Address) (morphoChain : Chain H256)
    (s : Startup) : Prop :=
  s.aave.NoGap (aaveBootstrap T) aaveChain ∧ s.morpho.NoGap (morphoBootstrap T) morphoChain

/-- If the step mines a block, the block is quiet for both protocols. -/
def QuietStep (T : EthersText) (aaveChain : Chain Address) (morphoChain : Chain H256)
    (s s' : Startup) : Prop :=
  s'.head = s.head + 1 → s.aave.QuietBlock (aaveBootstrap T) aaveChain s'.head ∧
    s.morpho.QuietBlock (morphoBootstrap T) morphoChain s'.head

end LiqRanger
