import LiqRanger.Core.Constants
import LiqRanger.Core.Events
import LiqRanger.Effect.Program
import LiqRanger.Watchlist.List

/-!
# Bootstrap

A bootstrap scans the logs from the block it stopped at up to the tip, batch by batch, and puts
every position of a whitelisted reserve or market in the watchlist. The Aave adapter and the
Morpho adapter are one program over two configurations. Block heights are natural numbers. In 64
bits, where sums wrap around, the same calls are made as long as the tip is more than a batch away
from the last height (`Bootstrap.runWords_agrees`).
-/

namespace LiqRanger

open Effect

variable {κ : Type}

/-- What an adapter differs in. -/
structure BootstrapConfig (κ : Type) where
  protocol : String
  deployBlock : ℕ
  batchSize : ℕ
  whitelist : List κ
  /-- The text written for a borrower and a reserve or market. -/
  identityText : Address → κ → Text

inductive BootstrapOp (κ : Type) where
  | loadLastBlock
  | getBlockNumber
  | query (fromBlock toBlock : ℕ)
  | drain (entries : Finset Text)
  | containsIdentity (identity : Text)
  | add (identity : Text)
  | saveLastBlock (block : ℕ)

/-- A query asks for borrows, repays and liquidations together. Draining a set of texts visits
them in some order. -/
def BootstrapOp.Reply : BootstrapOp κ → Type
  | .loadLastBlock => Except String (Option ℕ)
  | .getBlockNumber => Except String ℕ
  | .query .. => Except String
      (List (PositionLog κ) × List (PositionLog κ) × List (PositionLog κ))
  | .drain .. => List Text
  | .containsIdentity .. => Bool
  | .add .. => Except String Unit
  | .saveLastBlock .. => Except String Unit

abbrev bootstrapPorts (κ : Type) : Interface := ⟨BootstrapOp κ, BootstrapOp.Reply⟩

abbrev BootstrapProgram (κ α : Type) := Program (bootstrapPorts κ) String α

def BootstrapState.loadLastBlock : BootstrapProgram κ (Except String (Option ℕ)) :=
  .call .loadLastBlock fun reply => .ret reply

def BootstrapState.saveLastBlock (block : ℕ) : BootstrapProgram κ (Except String Unit) :=
  .call (.saveLastBlock block) fun reply => .ret reply

def Provider.getBlockNumber : BootstrapProgram κ (Except String ℕ) :=
  .call .getBlockNumber fun reply => .ret reply

namespace Bootstrap

variable [DecidableEq κ] (config : BootstrapConfig κ)

def query (fromBlock toBlock : ℕ) : BootstrapProgram κ (Except String
    (List (PositionLog κ) × List (PositionLog κ) × List (PositionLog κ))) :=
  .call (.query fromBlock toBlock) fun reply => .ret reply

def drain (entries : Finset Text) : BootstrapProgram κ (List Text) :=
  .call (.drain entries) fun reply => .ret reply

def containsIdentity (identity : Text) : BootstrapProgram κ Bool :=
  .call (.containsIdentity identity) fun reply => .ret reply

def add (identity : Text) : BootstrapProgram κ (Except String Unit) :=
  .call (.add identity) fun reply => .ret reply

/-- Query until a reply arrives, with `retries` further attempts after a failed one. -/
def fetchAttempt (startBlock endBlock : ℕ) : ℕ → BootstrapProgram κ
    (List (PositionLog κ) × List (PositionLog κ) × List (PositionLog κ))
  | 0 => do
    match ← query startBlock endBlock with
    | .ok res => return res
    | .error e =>
      let protocol := config.protocol
      Program.fail s!"{protocol} RPC failed after retries [{startBlock} → {endBlock}]: {e}"
  | retries + 1 => do
    match ← query startBlock endBlock with
    | .ok res => return res
    | .error _ => fetchAttempt startBlock endBlock retries

/-- Five attempts in all. -/
def fetchBatch (startBlock endBlock : ℕ) : BootstrapProgram κ
    (List (PositionLog κ) × List (PositionLog κ) × List (PositionLog κ)) :=
  fetchAttempt config startBlock endBlock 4

/-- The texts of the whitelisted logs, on top of those collected before. -/
def collect (logs : List (PositionLog κ)) (entries : Finset Text) : Finset Text :=
  logs.foldl
    (fun entries log =>
      if log.market ∈ config.whitelist then
        insert (config.identityText log.borrower log.market) entries
      else entries)
    entries

/-- Add an entry that the list does not know yet. -/
def trackEntry (entry : Text) : BootstrapProgram κ PUnit := do
  if ← containsIdentity entry then return ⟨⟩
  else Program.ofExcept (← add entry)

/-- The batches from `startBlock` up to `latestBlock`, saving the end of each. -/
def scan (latestBlock startBlock : ℕ) : BootstrapProgram κ Unit :=
  if _h : startBlock ≤ latestBlock then do
    let currentEnd := min (startBlock + config.batchSize) latestBlock
    let (borrows, repays, liqs) ← fetchBatch config startBlock currentEnd
    let entries := collect config liqs (collect config repays (collect config borrows ∅))
    let order ← drain entries
    order.forM trackEntry
    let saved ← BootstrapState.saveLastBlock currentEnd
    Program.ofExcept saved
    scan latestBlock (currentEnd + 1)
  else return ()
termination_by latestBlock + 1 - startBlock

def run : BootstrapProgram κ Unit := do
  let lastBlock ← Program.ofExcept (← BootstrapState.loadLastBlock)
  let latestBlock ← Program.ofExcept (← Provider.getBlockNumber)
  -- a window of 20 blocks is scanned again
  scan config latestBlock (lastBlock.getD config.deployBlock - 20)

end Bootstrap

/-! ### The two adapters -/

def aaveBootstrap (T : EthersText) : BootstrapConfig Address where
  protocol := "Aave"
  deployBlock := aaveDeployBlock
  batchSize := 1000
  whitelist := aaveReserves
  identityText borrower reserve :=
    joinColon ["aave".toList, T.address.debug borrower, T.address.debug reserve]

def morphoBootstrap (T : EthersText) : BootstrapConfig H256 where
  protocol := "Morpho"
  deployBlock := morphoDeployBlock
  batchSize := 2000
  whitelist := morphoMarkets
  identityText borrower marketId :=
    joinColon ["morpho".toList, T.address.debug borrower, T.h256.debug marketId]

def AaveBootstrapAdapter.run (T : EthersText) : BootstrapProgram Address Unit :=
  Bootstrap.run (aaveBootstrap T)

def MorphoBootstrapAdapter.run (T : EthersText) : BootstrapProgram H256 Unit :=
  Bootstrap.run (morphoBootstrap T)

end LiqRanger
