import LiqRanger.Core.Constants
import LiqRanger.Core.Word
import LiqRanger.Effect.Program

/-!
# Simulation snapshots

`RevmAdapter::build_snapshot`: the state of a block on which a liquidation is simulated. The keeper
and the accounts that a simulation surely touches are put into it beforehand. Two caches feed it:
one of finished snapshots by block, one of accounts by address. The futures of a join are run one
after the other.
-/

namespace LiqRanger

open Effect

/-- The hash of no code. -/
def keccakEmpty : H256 :=
  .ofNat 32 0xc5d2460186f7233c927e7db2dcc703c0e500b653ca82273b7bfad8045d85a470

structure AccountInfo where
  balance : U256
  nonce : U64
  codeHash : H256
  code : Option Bytes
  deriving DecidableEq

/-- A block with its header (of type `η`), and the accounts that were put in. -/
structure BlockSnapshot (η : Type) where
  blockNumber : U64
  block : η
  accounts : Address → Option AccountInfo

/-- The address of the wallet, and the hash function of the EVM. -/
structure RevmConfig where
  keeper : Address
  hashSlow : Bytes → H256

/-- The arguments of a call. -/
structure SnapshotRequest where
  blockNumber : U64
  debtAsset : Address
  collateralAsset : Address
  borrower : Address

def SnapshotRequest.warmTargets (request : SnapshotRequest) : List Address :=
  [flashLiquidator, aaveV3Pool, uniswapv3Router02, morphoBlue, request.debtAsset,
    request.borrower] ++
    if request.collateralAsset ≠ request.debtAsset then [request.collateralAsset] else []

/-- What is asked of the node and of the two caches. -/
inductive SnapshotOp (η : Type) where
  | getBlockNumber
  | getBlock (blockNumber : U64)
  | getTransactionCount (account : Address) (blockNumber : U64)
  | getCode (account : Address) (blockNumber : U64)
  | getBalance (account : Address) (blockNumber : U64)
  /-- Whether the time for the snapshot is up. -/
  | elapsed
  /-- The database over the node, on the blocking thread. -/
  | openDatabase (blockNumber : U64)
  | cachedSnapshot (blockNumber : U64)
  | retainSnapshots (oldest : U64)
  | insertSnapshot (blockNumber : U64) (snapshot : BlockSnapshot η)
  | cachedAccount (account : Address)
  | insertAccount (account : Address) (info : AccountInfo)

def SnapshotOp.Reply {η : Type} : SnapshotOp η → Type
  | .getBlockNumber => Except String U64
  | .getBlock .. => Except String (Option η)
  | .getTransactionCount .. => Except String U256
  | .getCode .. => Except String Bytes
  | .getBalance .. => Except String U256
  | .elapsed => Bool
  | .openDatabase .. => Except String Unit
  | .cachedSnapshot .. => Option (BlockSnapshot η)
  | .retainSnapshots .. => Unit
  | .insertSnapshot .. => Unit
  | .cachedAccount .. => Option AccountInfo
  | .insertAccount .. => Unit

abbrev snapshotPorts (η : Type) : Interface := ⟨SnapshotOp η, SnapshotOp.Reply⟩

/-- How a call ends that returns nothing: with the text of an error, or with a panic. -/
inductive SimulatorError where
  | failed (text : String)
  | panicked (p : Panic)

abbrev SnapshotM (η : Type) := Program (snapshotPorts η) SimulatorError

/-- An error of the node is passed on. -/
def SimulatorError.ofNode {α : Type} : Except String α → Except SimulatorError α
  | .ok a => .ok a
  | .error text => .error (.failed text)

variable {η : Type}

namespace RevmAdapter

def getBlockNumber : SnapshotM η (Except String U64) := .call .getBlockNumber .ret

def getBlock (blockNumber : U64) : SnapshotM η (Except String (Option η)) :=
  .call (.getBlock blockNumber) .ret

def getTransactionCount (account : Address) (blockNumber : U64) :
    SnapshotM η (Except String U256) :=
  .call (.getTransactionCount account blockNumber) .ret

def getCode (account : Address) (blockNumber : U64) : SnapshotM η (Except String Bytes) :=
  .call (.getCode account blockNumber) .ret

def getBalance (account : Address) (blockNumber : U64) : SnapshotM η (Except String U256) :=
  .call (.getBalance account blockNumber) .ret

def elapsed : SnapshotM η Bool := .call .elapsed .ret

def openDatabase (blockNumber : U64) : SnapshotM η (Except String Unit) :=
  .call (.openDatabase blockNumber) .ret

def cachedSnapshot (blockNumber : U64) : SnapshotM η (Option (BlockSnapshot η)) :=
  .call (.cachedSnapshot blockNumber) .ret

def retainSnapshots (oldest : U64) : SnapshotM η Unit := .call (.retainSnapshots oldest) .ret

def insertSnapshot (blockNumber : U64) (snapshot : BlockSnapshot η) : SnapshotM η Unit :=
  .call (.insertSnapshot blockNumber snapshot) .ret

def cachedAccount (account : Address) : SnapshotM η (Option AccountInfo) :=
  .call (.cachedAccount account) .ret

def insertAccount (account : Address) (info : AccountInfo) : SnapshotM η Unit :=
  .call (.insertAccount account info) .ret

/-- The end of a wait, unless the time for the snapshot was up before. -/
def awaited (blockNumber : U64) : SnapshotM η Unit := do
  if ← elapsed then
    let block := blockNumber.toNat
    .fail (.failed
      s!"⏱️ Snapshot construction timed out exceeding 2000ms budget for block {block}")
  else return ()

/-- `as_u64` panics on a larger number. -/
def asU64 (n : U256) : SnapshotM η U64 :=
  if n.toNat < 2 ^ 64 then return n.setWidth 64
  else .fail (.panicked ⟨"Integer overflow when casting to u64"⟩)

def accountInfo (config : RevmConfig) (balance : U256) (nonce : U64) (code : Bytes) :
    AccountInfo :=
  if code.isEmpty then ⟨balance, nonce, keccakEmpty, none⟩
  else ⟨balance, nonce, config.hashSlow code, some code⟩

/-- What the cache holds of the targets, and the targets that it does not hold. -/
def cachedTargets : List Address → SnapshotM η (List (Address × AccountInfo) × List Address)
  | [] => return ([], [])
  | addr :: rest => do
    let cached ← cachedAccount addr
    let (prewarmedAccounts, unCachedTargets) ← cachedTargets rest
    match cached with
    | some info => return ((addr, info) :: prewarmedAccounts, unCachedTargets)
    | none => return (prewarmedAccounts, addr :: unCachedTargets)

/-- An account at a block, if all three reads succeed. -/
def fetchAccount (config : RevmConfig) (blockNumber : U64) (addr : Address) :
    SnapshotM η (Option (Address × AccountInfo)) := do
  let code ← getCode addr blockNumber
  let balance ← getBalance addr blockNumber
  let nonce ← getTransactionCount addr blockNumber
  match code, balance, nonce with
  | .ok code, .ok balance, .ok nonce =>
    let nonce ← asU64 nonce
    return some (addr, accountInfo config balance nonce code)
  | _, _, _ => return none

/-- The accounts that could be fetched. -/
def fetchAccounts (config : RevmConfig) (blockNumber : U64) :
    List Address → SnapshotM η (List (Address × AccountInfo))
  | [] => return []
  | addr :: rest => do
    let account ← fetchAccount config blockNumber addr
    let accounts ← fetchAccounts config blockNumber rest
    return account.toList ++ accounts

def insertAccounts (results : List (Address × AccountInfo)) : SnapshotM η PUnit :=
  results.forM fun res => insertAccount res.1 res.2

/-- In the place of what was put in for the address before. -/
def insertAccountInfo (accounts : Address → Option AccountInfo) (account : Address × AccountInfo) :
    Address → Option AccountInfo :=
  Function.update accounts account.1 (some account.2)

/-- The keeper with all the balance there is, then the other accounts. -/
def populate (config : RevmConfig) (nonce : U64)
    (prewarmedAccounts : List (Address × AccountInfo)) :
    Address → Option AccountInfo :=
  prewarmedAccounts.foldl insertAccountInfo
    (insertAccountInfo (fun _ => none)
      (config.keeper, ⟨BitVec.allOnes 256, nonce, keccakEmpty, none⟩))

/-- The header, and the nonce of the keeper. -/
def fetchBlock (config : RevmConfig) (blockNumber : U64) : SnapshotM η (η × U64) := do
  let block ← getBlock blockNumber
  let nonce ← getTransactionCount config.keeper blockNumber
  awaited blockNumber
  let block ← Program.ofExcept (SimulatorError.ofNode block)
  let nonce ← Program.ofExcept (SimulatorError.ofNode nonce)
  match block with
  | none =>
    let block := blockNumber.toNat
    .fail (.failed s!"Block {block} not found on RPC")
  | some block => return (block, ← asU64 nonce)

/-- The targets, from the cache or from the node. What comes from the node goes into the cache. -/
def prewarm (config : RevmConfig) (blockNumber : U64) (warmTargets : List Address) :
    SnapshotM η (List (Address × AccountInfo)) := do
  let (prewarmedAccounts, unCachedTargets) ← cachedTargets warmTargets
  let results ← fetchAccounts config blockNumber unCachedTargets
  awaited blockNumber
  insertAccounts results
  return prewarmedAccounts ++ results

def buildSnapshotInternal (config : RevmConfig) (blockNumber : U64) (request : SnapshotRequest) :
    SnapshotM η (BlockSnapshot η) := do
  let (block, nonce) ← fetchBlock config blockNumber
  let prewarmedAccounts ← prewarm config blockNumber request.warmTargets
  let database ← openDatabase blockNumber
  awaited blockNumber
  Program.ofExcept (SimulatorError.ofNode database)
  return ⟨blockNumber, block, populate config nonce prewarmedAccounts⟩

/-- Block zero stands for the tip. -/
def resolveBlock (blockNumber : U64) : SnapshotM η U64 := do
  if blockNumber = 0 then
    let tip ← getBlockNumber
    Program.ofExcept (SimulatorError.ofNode tip)
  else return blockNumber

def buildSnapshot (config : RevmConfig) (request : SnapshotRequest) :
    SnapshotM η (BlockSnapshot η) := do
  let resolvedBlock ← resolveBlock request.blockNumber
  let cached ← cachedSnapshot resolvedBlock
  match cached with
  | some snapshot => return snapshot
  | none =>
    let snapshot ← buildSnapshotInternal config resolvedBlock request
    retainSnapshots (if resolvedBlock = 0 then 0 else resolvedBlock - 1)
    insertSnapshot resolvedBlock snapshot
    return snapshot

end RevmAdapter

end LiqRanger
