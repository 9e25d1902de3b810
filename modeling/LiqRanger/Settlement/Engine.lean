import LiqRanger.Effect.Log
import LiqRanger.Records.Liquidations
import LiqRanger.Transition.System
import Mathlib.Data.List.Count

/-!
# The profit distributor

`execute` of `ProfitDistributor` over the calls it makes, and the cron job that runs it. A tick of
the schedule takes the running flag and starts `execute`, or is skipped while the flag is taken; a
run gives the flag back when it ends, with an error or without. Between two replies a job is not
interrupted, so a tick is one step, and so is a reply with what the job does until its next call.
-/

namespace LiqRanger

open Effect Transition

/-! ### Constants -/

def breet : Address := .ofNat 20 0x46082c9F4ca0eF92c510984B612183211c0a27dE

/-- 10 ether. -/
def gasThreshold : U256 := 10000000000000000000

/-- 100 ether. -/
def refuelAmt : U256 := 100000000000000000000

/-! ### Calls -/

inductive DistributorOp where
  | getBalance (account : Address)
  | accumulatedProfits (asset : Address)
  | refuelGas (amount : U256)
  | distributeProfits (asset breetAddr : Address)
  /-- Wait until the transaction has so many confirmations. -/
  | confirmations (tx : H256) (count : ℕ)
  /-- Both asset columns of the recorded liquidations. -/
  | fetchAssets
  /-- The order in which a hash set is visited. -/
  | visitAssets (assets : Finset Address)
  | getTokenSymbol (asset : Address)

/-- A transaction that is sent has a hash, and a receipt is known by it. A row has a column of text
or of something else. -/
def DistributorOp.Reply : DistributorOp → Type
  | .getBalance _ => Except String U256
  | .accumulatedProfits _ => Except String U256
  | .refuelGas _ => Except String H256
  | .distributeProfits .. => Except String H256
  | .confirmations .. => Except String (Option H256)
  | .fetchAssets => Except String (List (Option Text))
  | .visitAssets assets => { order : List Address // order.Nodup ∧ ∀ a, a ∈ order ↔ a ∈ assets }
  | .getTokenSymbol _ => Except String Text

abbrev distributorPorts : Interface := ⟨DistributorOp, DistributorOp.Reply⟩

abbrev DistributorM := Program distributorPorts String

namespace ProfitDistributor

def getBalance (account : Address) : DistributorM (Except String U256) :=
  .call (.getBalance account) .ret

def accumulatedProfits (asset : Address) : DistributorM (Except String U256) :=
  .call (.accumulatedProfits asset) .ret

def refuelGas (amount : U256) : DistributorM (Except String H256) :=
  .call (.refuelGas amount) .ret

def distributeProfits (asset breetAddr : Address) : DistributorM (Except String H256) :=
  .call (.distributeProfits asset breetAddr) .ret

def confirmations (tx : H256) (count : ℕ) : DistributorM (Except String (Option H256)) :=
  .call (.confirmations tx count) .ret

def fetchAssets : DistributorM (Except String (List (Option Text))) := .call .fetchAssets .ret

def getTokenSymbol (asset : Address) : DistributorM (Except String Text) :=
  .call (.getTokenSymbol asset) .ret

/-- An error with a message in front of it. -/
def context {α : Type} (message : String) (reply : Except String α) : Except String α :=
  reply.mapError fun _ => message

/-! ### One run -/

/-- `CONFIRMATIONS`. -/
def requiredConfirmations : ℕ := 3

def ensureGasBalance (keeper : Address) : DistributorM PUnit := do
  let gasBalance ← Program.ofExcept (← getBalance keeper)
  if gasThreshold ≤ gasBalance then return
  let accumulatedWpol ← Program.ofExcept (← accumulatedProfits wpol)
  let refuel := if gasBalance ≤ refuelAmt then refuelAmt - gasBalance else 0
  if accumulatedWpol < refuel then return
  if refuel = 0 then return
  let pending ← Program.ofExcept (context "Refuel tx submission failed" (← refuelGas refuel))
  let receipt ← Program.ofExcept
    (context "Refuel tx confirmation failed" (← confirmations pending requiredConfirmations))
  match receipt with
  | some _ => return
  | none => .fail "Refuel transaction dropped or reorged"

/-- The assets of the rows that hold the text of an address, and the fixed ones. -/
def collectAssets (T : EthersText) (rows : List (Option Text)) : Finset Address :=
  rows.reduceOption.foldl (insertParsed T) profitDistAssets.toFinset

lemma collectAssets_selectAssets {φ : Type} (T : EthersText) (table : Liquidations φ) :
    collectAssets T ((selectAssets table).map some) = discoverActiveAssets T table := by
  have hrows : ((selectAssets table).map some).reduceOption = selectAssets table := by
    change List.filterMap id _ = _
    rw [List.filterMap_map, Function.id_comp, List.filterMap_some]
  rw [collectAssets, discoverActiveAssets, hrows]

def breetAddressFor (asset : Address) : Address :=
  if asset = usdc ∨ asset = usdt then breet else .zero 20

/-- The loop over the assets, for one of them. -/
def distributeAsset (asset : Address) : DistributorM PUnit := do
  let profitAmount ← Program.ofExcept (← accumulatedProfits asset)
  if profitAmount = 0 then return
  if asset = wpol then return
  let breetAddr := breetAddressFor asset
  let _ ← Program.ofExcept (← getTokenSymbol asset)
  let pending ← Program.ofExcept
    (context "Distribution tx submission failed" (← distributeProfits asset breetAddr))
  let receipt ← Program.ofExcept
    (context "Distribution tx dropped or reorged" (← confirmations pending requiredConfirmations))
  match receipt with
  | some _ => return
  | none => .fail "Transaction dropped or reorged"

def distributeAllAssets (T : EthersText) : DistributorM PUnit := do
  let rows ← Program.ofExcept (← fetchAssets)
  .call (.visitAssets (collectAssets T rows)) fun order => order.val.forM distributeAsset

def execute (T : EthersText) (keeper : Address) : DistributorM PUnit := do
  ensureGasBalance keeper
  distributeAllAssets T

end ProfitDistributor

/-! ### The schedule -/

/-- A run of `execute`: the calls it has made, with their replies, and what is left of it. -/
structure SettlementRun where
  calls : List (Event distributorPorts)
  rest : DistributorM PUnit

/-- It waits for a reply. -/
def SettlementRun.active (run : SettlementRun) : Bool :=
  match run.rest with
  | .call .. => true
  | _ => false

/-- The flag, and every run that was started. -/
structure ProfitDistributor where
  running : Bool
  runs : List SettlementRun

namespace ProfitDistributor

def new : ProfitDistributor := ⟨false, []⟩

/-- A tick finds the flag free or taken, or a run gets a reply. -/
inductive Step (T : EthersText) (keeper : Address) : ProfitDistributor → ProfitDistributor → Prop
    where
  | tick (runs : List SettlementRun) :
      Step T keeper ⟨false, runs⟩ ⟨true, runs ++ [⟨[], execute T keeper⟩]⟩
  | skip (runs : List SettlementRun) : Step T keeper ⟨true, runs⟩ ⟨true, runs⟩
  | reply (running : Bool) (before after : List SettlementRun)
      (calls : List (Event distributorPorts)) (op : DistributorOp)
      (next : op.Reply → DistributorM PUnit) (reply : op.Reply) :
      Step T keeper ⟨running, before ++ ⟨calls, .call op next⟩ :: after⟩
        ⟨running && SettlementRun.active ⟨calls ++ [⟨op, reply⟩], next reply⟩,
          before ++ ⟨calls ++ [⟨op, reply⟩], next reply⟩ :: after⟩

end ProfitDistributor

end LiqRanger
