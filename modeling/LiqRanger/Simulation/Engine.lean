import LiqRanger.Core.Word
import LiqRanger.Simulation.Revert
import LiqRanger.Simulation.Snapshot

/-!
# The simulation engine

`SimulationEngine`: one transaction on top of a snapshot, and the reason why it reverts. The
virtual machine is an interface of its own, which answers whatever it answers; the decoding of the
standard errors is generated and taken as given.
-/

namespace LiqRanger

open Effect
open UniswapAbi (word)

/-! ### Environments -/

/-- The fields of a block that the engine reads. -/
structure Block where
  number : Option U64
  timestamp : U256
  author : Option Address
  gasLimit : U256
  baseFeePerGas : Option U256
  mixHash : Option H256
  deriving DecidableEq

structure BlockEnv where
  number : U256
  timestamp : U256
  coinbase : Address
  gasLimit : U256
  basefee : U256
  prevrandao : Option H256
  deriving DecidableEq

structure TxEnv where
  caller : Address
  transactTo : Address
  data : Bytes
  value : U256
  gasLimit : U64
  gasPrice : U256
  gasPriorityFee : Option U256
  chainId : Option U64
  deriving DecidableEq

/-- The chain of the configuration, the block and the transaction. -/
structure Env where
  chainId : U64
  block : BlockEnv
  tx : TxEnv
  deriving DecidableEq

def buildBlockEnv (block : Block) : Except Panic BlockEnv := do
  let basefee := block.baseFeePerGas.getD 0
  let prevrandao := block.mixHash.getD (.zero 32)
  let timestamp ← CacheKey.asU64 block.timestamp
  let gasLimit ← CacheKey.asU64 block.gasLimit
  return {
    number := (block.number.getD 0).setWidth 256
    timestamp := timestamp.setWidth 256
    coinbase := block.author.getD (.zero 20)
    gasLimit := gasLimit.setWidth 256
    basefee := basefee
    prevrandao := some prevrandao }

/-- The base fee of a block without one. -/
def defaultBaseFee : U256 := 30000000000

/-- 1.5 gwei. -/
def simulatedPriorityFee : U256 := 1500000000

def buildTxEnv (sender target : Address) (calldata : Bytes) (value : U256) (block : Block)
    (chainId : U64) : Except Panic TxEnv := do
  let baseFee := block.baseFeePerGas.getD defaultBaseFee
  let maxFeePerGas ← U256.add baseFee simulatedPriorityFee
  let gasLimit ← CacheKey.asU64 block.gasLimit
  return {
    caller := sender
    transactTo := target
    data := calldata
    value := value
    gasLimit := gasLimit
    gasPrice := maxFeePerGas
    gasPriorityFee := some simulatedPriorityFee
    chainId := some chainId }

/-! ### Running a transaction -/

structure SimulationTx where
  sender : Address
  target : Address
  calldata : Bytes
  value : U256

/-- How a transaction ends in the virtual machine, with the gas it used. -/
inductive ExecutionResult where
  | success (gasUsed : U64)
  | revert (output : Bytes) (gasUsed : U64)
  | halt (reason : Text) (gasUsed : U64)

structure SimulationResult where
  success : Bool
  gasUsed : U64
  revertReason : Option Text

inductive EvmOp where
  | transact (env : Env) (snapshot : BlockSnapshot Block)

/-- An error comes with its text. -/
def EvmOp.Reply : EvmOp → Type
  | .transact .. => Except Text ExecutionResult

abbrev evmPorts : Interface := ⟨EvmOp, EvmOp.Reply⟩

/-- The selector of `Panic(uint256)`. -/
def panicSelector : Bytes := [0x4e, 0x48, 0x7b, 0x71]

/-- A number in lower-case hexadecimal digits. -/
def U256.lowerHex (n : U256) : Text := Nat.toDigits 16 n.toNat

/-- The generated decoding of the standard errors, each token as its text. -/
structure StandardErrors extends RevertAbi where
  decodeUint : Bytes → Option (List Text)
  decode_word : ∀ code : U256, decodeUint (word code.toNat) = some [code.lowerHex]

structure SimulationEngine where
  chainId : U64
  errorRegistry : List (Bytes × Text)

namespace SimulationEngine

def new (chainId : U64) : SimulationEngine where
  chainId := chainId
  errorRegistry :=
    [([0x1e, 0x5d, 0x4c, 0x3f], "InsufficientCollateral()".toList),
      ([0x81, 0x1d, 0xcd, 0x3e], "HealthFactorNotBelowThreshold()".toList),
      ([0xed, 0x3d, 0x24, 0x98], "InsufficientFlashLoanLiquidity()".toList),
      ([0x0e, 0x22, 0x1f, 0xc1], "PriceSlippageExceeded()".toList)]

variable (errors : StandardErrors) (engine : SimulationEngine)

/-- What the selector stands for, if the data can be decoded. -/
def namedError (selector data : Bytes) : Option Text :=
  if selector = errorSelector then do
    let decoded ← errors.decodeString data
    let msg ← decoded.head?
    return "Revert: ".toList ++ msg
  else if selector = panicSelector then do
    let decoded ← errors.decodeUint data
    let code ← decoded.head?
    return "Panic Code: ".toList ++ code
  else do
    let knownError ← engine.errorRegistry.lookup selector
    return "Custom Error: ".toList ++ knownError

def decodeRevert (bytes : Bytes) : Text :=
  if bytes.length < 4 then "Execution reverted (0x".toList ++ Hex.encode bytes ++ [')']
  else
    let selector := bytes.take 4
    (engine.namedError errors selector (bytes.drop 4)).getD
      ("CustomError(0x".toList ++ Hex.encode selector ++ [')'])

def transact (env : Env) (snapshot : BlockSnapshot Block) :
    Program evmPorts Panic (Except Text ExecutionResult) :=
  .call (.transact env snapshot) .ret

def outcome : ExecutionResult → SimulationResult
  | .success gasUsed => ⟨true, gasUsed, none⟩
  | .revert output gasUsed => ⟨false, gasUsed, some (engine.decodeRevert errors output)⟩
  | .halt reason gasUsed => ⟨false, gasUsed, some ("EVM Halted: ".toList ++ reason)⟩

/-- The chain of the transaction is left open, so that it is not checked. -/
def simulate (snapshot : BlockSnapshot Block) (tx : SimulationTx) :
    Program evmPorts Panic (Except Text SimulationResult) := do
  let block ← Program.ofExcept (buildBlockEnv snapshot.block)
  let txEnv ← Program.ofExcept
    (buildTxEnv tx.sender tx.target tx.calldata tx.value snapshot.block engine.chainId)
  match ← transact ⟨engine.chainId, block, { txEnv with chainId := none }⟩ snapshot with
  | .error e => return .error ("EVM execution failed: ".toList ++ e)
  | .ok result => return .ok (engine.outcome errors result)

end SimulationEngine

/-- Decoding of both errors that reads the words as they are laid out. -/
def StandardErrors.reference : StandardErrors where
  toRevertAbi := .reference
  decodeUint data := some [(UniswapAbi.wordAt data 0).lowerHex]
  decode_word code := by
    have hword := wordAt_word_append code.isLt []
    rw [List.append_nil] at hword
    rw [U256.lowerHex, hword, U256.lowerHex]

/-! ### The environment of a simulation -/

lemma asU64_eq_ok_iff {n : U256} {m : U64} : CacheKey.asU64 n = .ok m ↔ m.toNat = n.toNat := by
  constructor
  · intro h
    by_cases hlt : n.toNat < 2 ^ 64
    · rw [CacheKey.asU64, if_pos hlt] at h
      obtain rfl := Except.ok.inj h
      rw [BitVec.toNat_setWidth, Nat.mod_eq_of_lt hlt]
    · rw [CacheKey.asU64, if_neg hlt] at h
      cases h
  · intro h
    have hlt : n.toNat < 2 ^ 64 := h ▸ m.isLt
    rw [CacheKey.asU64, if_pos hlt]
    refine congrArg Except.ok (BitVec.eq_of_toNat_eq ?_)
    rw [BitVec.toNat_setWidth, Nat.mod_eq_of_lt hlt, h]

lemma U64.toNat_setWidth (m : U64) : (m.setWidth 256).toNat = m.toNat := by
  have hlt : m.toNat < 2 ^ 256 := m.isLt.trans (by decide)
  rw [BitVec.toNat_setWidth, Nat.mod_eq_of_lt hlt]

/-- The numbers of the block fit where the engine puts them. -/
structure Block.Fits (block : Block) : Prop where
  timestamp_lt : block.timestamp.toNat < 2 ^ 64
  gasLimit_lt : block.gasLimit.toNat < 2 ^ 64
  maxFee_lt : (block.baseFeePerGas.getD defaultBaseFee).toNat + simulatedPriorityFee.toNat < 2 ^ 256

/-- The environment that the engine makes of a block and a transaction. -/
structure BuiltFrom (env : Env) (block : Block) (tx : SimulationTx) : Prop where
  caller_eq : env.tx.caller = tx.sender
  transactTo_eq : env.tx.transactTo = tx.target
  data_eq : env.tx.data = tx.calldata
  value_eq : env.tx.value = tx.value
  gasLimit_eq : env.tx.gasLimit.toNat = block.gasLimit.toNat
  gasPrice_eq : env.tx.gasPrice.toNat =
    (block.baseFeePerGas.getD defaultBaseFee).toNat + simulatedPriorityFee.toNat
  gasPriorityFee_eq : env.tx.gasPriorityFee = some simulatedPriorityFee
  txChainId_eq : env.tx.chainId = none
  blockGasLimit_eq : env.block.gasLimit.toNat = block.gasLimit.toNat
  basefee_eq : env.block.basefee = block.baseFeePerGas.getD 0

lemma buildBlockEnv_eq_ok {block : Block} {blockEnv : BlockEnv}
    (h : buildBlockEnv block = .ok blockEnv) :
    block.timestamp.toNat < 2 ^ 64 ∧ blockEnv.gasLimit.toNat = block.gasLimit.toNat ∧
      blockEnv.basefee = block.baseFeePerGas.getD 0 := by
  simp only [buildBlockEnv, Checked.bind_eq_ok_iff, asU64_eq_ok_iff] at h
  obtain ⟨timestamp, htimestamp, gasLimit, hgasLimit, henv⟩ := h
  obtain rfl := Except.ok.inj henv
  exact ⟨htimestamp ▸ timestamp.isLt, (U64.toNat_setWidth gasLimit).trans hgasLimit, rfl⟩

lemma buildTxEnv_eq_ok {sender target : Address} {calldata : Bytes} {value : U256} {block : Block}
    {chainId : U64} {txEnv : TxEnv}
    (h : buildTxEnv sender target calldata value block chainId = .ok txEnv) :
    txEnv.gasPrice.toNat =
        (block.baseFeePerGas.getD defaultBaseFee).toNat + simulatedPriorityFee.toNat ∧
      txEnv.gasLimit.toNat = block.gasLimit.toNat ∧
      txEnv = ⟨sender, target, calldata, value, txEnv.gasLimit, txEnv.gasPrice,
        some simulatedPriorityFee, some chainId⟩ := by
  simp only [buildTxEnv, Checked.bind_eq_ok_iff, asU64_eq_ok_iff, U256.add_eq_ok_iff] at h
  obtain ⟨maxFee, hmaxFee, gasLimit, hgasLimit, henv⟩ := h
  obtain rfl := Except.ok.inj henv
  exact ⟨hmaxFee, hgasLimit, rfl⟩

lemma exists_asU64 {n : U256} (h : n.toNat < 2 ^ 64) : ∃ m, CacheKey.asU64 n = .ok m :=
  ⟨_, if_pos h⟩

/-- Both environments are built exactly when the numbers fit. -/
lemma Block.fits_iff {block : Block} (tx : SimulationTx) (chainId : U64) :
    block.Fits ↔ ∃ blockEnv txEnv, buildBlockEnv block = .ok blockEnv ∧
      buildTxEnv tx.sender tx.target tx.calldata tx.value block chainId = .ok txEnv := by
  constructor
  · intro h
    obtain ⟨timestamp, htimestamp⟩ := exists_asU64 h.timestamp_lt
    obtain ⟨gasLimit, hgasLimit⟩ := exists_asU64 h.gasLimit_lt
    have hmaxFee := U256.add_eq_ok_iff.mpr (U256.toNat_ofNat_of_lt h.maxFee_lt)
    simp only [buildBlockEnv, buildTxEnv, htimestamp, hgasLimit, hmaxFee, Checked.ok_bind]
    exact ⟨_, _, rfl, rfl⟩
  · rintro ⟨blockEnv, txEnv, hblock, htx⟩
    obtain ⟨htimestamp, -, -⟩ := buildBlockEnv_eq_ok hblock
    obtain ⟨hprice, hgasLimit, -⟩ := buildTxEnv_eq_ok htx
    exact ⟨htimestamp, hgasLimit ▸ txEnv.gasLimit.isLt, hprice ▸ txEnv.gasPrice.isLt⟩

end LiqRanger
