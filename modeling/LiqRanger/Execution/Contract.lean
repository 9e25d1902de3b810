import LiqRanger.Effect.Program
import LiqRanger.Execution.Params

/-!
# The liquidator contract

`FlashLiquidatorAdapter`: the transaction that carries a job, with its fees and its gas, and the
task that waits for its receipt. An overflow of the fees panics before anything is sent.
-/

namespace LiqRanger

open Effect

structure Eip1559TransactionRequest where
  target : Address
  data : Bytes
  gas : U256
  maxFeePerGas : U256
  maxPriorityFeePerGas : U256
  deriving DecidableEq

/-- What is asked of the node. A started task polls for the receipt of a transaction. -/
inductive ContractOp where
  | estimateEip1559Fees
  | sendTransaction (tx : Eip1559TransactionRequest)
  | spawnPolling (txHash : H256)

def ContractOp.Reply : ContractOp → Type
  | .estimateEip1559Fees => Except String (U256 × U256)
  | .sendTransaction _ => Except String H256
  | .spawnPolling _ => Unit

abbrev contractPorts : Interface := ⟨ContractOp, ContractOp.Reply⟩

namespace FlashLiquidatorAdapter

/-- 200 and 50 gwei, when the node cannot tell. -/
def defaultFees : U256 × U256 := (200000000000, 50000000000)

def feesOf : Except String (U256 × U256) → U256 × U256
  | .ok fees => fees
  | .error _ => defaultFees

/-- `x * percent / 100`, where the product panics. -/
def scaled (x percent : U256) : Except Panic U256 := do
  let product ← U256.mul x percent
  U256.div product 100

/-- The priority fee and the maximal fee. -/
def boostedFees (baseMaxFee basePriorityFee : U256) : Except Panic (U256 × U256) := do
  let priorityFee ← scaled basePriorityFee 150
  let maxFee ← U256.add (← scaled baseMaxFee 120) priorityFee
  return (priorityFee, maxFee)

def extractCalldata (abi : FlashAbi) (flashAmt : U256) (params : LiquidationParams) :
    Except String Bytes :=
  match abi.encode flashAmt params with
  | some calldata => .ok calldata
  | none => .error "Failed to generate calldata"

def estimateEip1559Fees : Program contractPorts Panic (Except String (U256 × U256)) :=
  .call .estimateEip1559Fees .ret

def sendTransaction (tx : Eip1559TransactionRequest) :
    Program contractPorts Panic (Except String H256) :=
  .call (.sendTransaction tx) .ret

def spawnPolling (txHash : H256) : Program contractPorts Panic Unit :=
  .call (.spawnPolling txHash) .ret

def executeLiquidation (abi : FlashAbi) (job : LiquidationJob) (gasLimit : U256) :
    Program contractPorts Panic (Except String H256) :=
  match extractCalldata abi job.debtToCover job.params with
  | .error e => return .error e
  | .ok calldata => do
    let (baseMaxFee, basePriorityFee) := feesOf (← estimateEip1559Fees)
    let (priorityFee, maxFee) ← Program.ofExcept (boostedFees baseMaxFee basePriorityFee)
    let adjustedGasLimit ← Program.ofExcept (scaled gasLimit 120)
    match ← sendTransaction ⟨flashLiquidator, calldata, adjustedGasLimit, maxFee, priorityFee⟩ with
    | .error e => return .error s!"Failed to send tx: {e}"
    | .ok txHash => do
      spawnPolling txHash
      return .ok txHash

end FlashLiquidatorAdapter

/-! ### Waiting for a receipt -/

structure TransactionReceipt where
  status : Option U64
  deriving DecidableEq

inductive ReceiptOp where
  | getTransactionReceipt (txHash : H256)

def ReceiptOp.Reply : ReceiptOp → Type
  | .getTransactionReceipt _ => Except String (Option TransactionReceipt)

abbrev receiptPorts : Interface := ⟨ReceiptOp, ReceiptOp.Reply⟩

/-- What the task logs at its end. -/
inductive Verdict where
  | confirmed
  | reverted
  | failed
  | timedOut
  deriving DecidableEq

namespace FlashLiquidatorAdapter

def verdict (receipt : TransactionReceipt) : Verdict :=
  if receipt.status = some 1 then .confirmed else .reverted

/-- At most `n` more ticks. -/
def poll (txHash : H256) : ℕ → Program receiptPorts Empty Verdict
  | 0 => .ret .timedOut
  | n + 1 => .call (.getTransactionReceipt txHash) fun reply => match reply with
    | .ok (some receipt) => .ret (verdict receipt)
    | .ok none => poll txHash n
    | .error _ => .ret .failed

/-- One tick a second. -/
def pollReceipt (txHash : H256) : Program receiptPorts Empty Verdict := poll txHash 60

/-! ### Fees and gas -/

lemma scaled_eq_ok_iff {x percent z : U256} : scaled x percent = .ok z ↔
    x.toNat * percent.toNat < 2 ^ 256 ∧ z.toNat = x.toNat * percent.toNat / 100 :=
  U256.mul_div_eq_ok_iff (by decide)

lemma boostedFees_eq_ok_iff {baseMaxFee basePriorityFee priorityFee maxFee : U256} :
    boostedFees baseMaxFee basePriorityFee = .ok (priorityFee, maxFee) ↔
      basePriorityFee.toNat * 150 < 2 ^ 256 ∧ baseMaxFee.toNat * 120 < 2 ^ 256 ∧
        priorityFee.toNat = basePriorityFee.toNat * 150 / 100 ∧
        maxFee.toNat = baseMaxFee.toNat * 120 / 100 + priorityFee.toNat := by
  simp only [boostedFees, Checked.bind_eq_ok_iff, scaled_eq_ok_iff, U256.add_eq_ok_iff]
  constructor
  · rintro ⟨priority, ⟨hpriority, hvalue⟩, base, ⟨hbase, hbaseValue⟩, fee, hfee, heq⟩
    obtain ⟨rfl, rfl⟩ := Prod.mk.inj (Except.ok.inj heq)
    exact ⟨hpriority, hbase, hvalue, hbaseValue ▸ hfee⟩
  · rintro ⟨hpriority, hbase, hvalue, hfee⟩
    have hlt : baseMaxFee.toNat * 120 / 100 < 2 ^ 256 :=
      lt_of_le_of_lt (Nat.div_le_self _ _) hbase
    have hbaseValue := U256.toNat_ofNat_of_lt hlt
    exact ⟨priorityFee, ⟨hpriority, hvalue⟩, _, ⟨hbase, hbaseValue⟩, maxFee,
      hbaseValue.symm ▸ hfee, rfl⟩

/-- The boosted fees are numbers of 256 bits. -/
def FeesFit (fees : U256 × U256) : Prop :=
  fees.2.toNat * 150 < 2 ^ 256 ∧ fees.1.toNat * 120 < 2 ^ 256 ∧
    fees.1.toNat * 120 / 100 + fees.2.toNat * 150 / 100 < 2 ^ 256

lemma feesFit_iff {fees : U256 × U256} :
    FeesFit fees ↔ ∃ boosted, boostedFees fees.1 fees.2 = .ok boosted := by
  constructor
  · rintro ⟨hpriority, hbase, hsum⟩
    have hlt : fees.2.toNat * 150 / 100 < 2 ^ 256 :=
      lt_of_le_of_lt (Nat.le_add_left _ _) hsum
    have hvalue := U256.toNat_ofNat_of_lt hlt
    have hmax := U256.toNat_ofNat_of_lt hsum
    exact ⟨(_, _), boostedFees_eq_ok_iff.mpr ⟨hpriority, hbase, hvalue, by rw [hmax, hvalue]⟩⟩
  · rintro ⟨⟨priorityFee, maxFee⟩, h⟩
    obtain ⟨hpriority, hbase, hvalue, hfee⟩ := boostedFees_eq_ok_iff.mp h
    exact ⟨hpriority, hbase, hvalue ▸ hfee ▸ maxFee.isLt⟩

/-- Gas of 64 bits always has room for a fifth more. -/
lemma exists_scaled_gas (gasUsed : U64) :
    ∃ gas, scaled (gasUsed.setWidth 256) 120 = .ok gas ∧
      gas.toNat = gasUsed.toNat * 120 / 100 := by
  have hlt : gasUsed.toNat < 2 ^ 64 := gasUsed.isLt
  have hwide : (gasUsed.setWidth 256).toNat = gasUsed.toNat := by
    rw [BitVec.toNat_setWidth, Nat.mod_eq_of_lt (hlt.trans (by decide))]
  have hpercent : (120 : U256).toNat = 120 := rfl
  have hgas : gasUsed.toNat * 120 / 100 < 2 ^ 256 := by omega
  refine ⟨_, scaled_eq_ok_iff.mpr ⟨?_, ?_⟩, U256.toNat_ofNat_of_lt hgas⟩
  · rw [hwide, hpercent]
    omega
  · rw [hwide, hpercent]
    exact U256.toNat_ofNat_of_lt hgas

/-! ### What is sent -/

def feesEvent (reply : Except String (U256 × U256)) : Event contractPorts :=
  ⟨.estimateEip1559Fees, reply⟩

def sendEvent (tx : Eip1559TransactionRequest) (reply : Except String H256) :
    Event contractPorts :=
  ⟨.sendTransaction tx, reply⟩

/-- The task that is started for an accepted transaction. -/
def pollingEvents : Except String H256 → List (Event contractPorts)
  | .ok txHash => [⟨.spawnPolling txHash, ()⟩]
  | .error _ => []

/-- The transaction for a job, given the gas it used and the fees that the node estimated. -/
structure TransactionFor (abi : FlashAbi) (job : LiquidationJob) (gasUsed : U64)
    (fees : U256 × U256) (tx : Eip1559TransactionRequest) : Prop where
  target_eq : tx.target = flashLiquidator
  data_eq : abi.encode job.debtToCover job.params = some tx.data
  gas_eq : tx.gas.toNat = gasUsed.toNat * 120 / 100
  priority_eq : tx.maxPriorityFeePerGas.toNat = fees.2.toNat * 150 / 100
  maxFee_eq : tx.maxFeePerGas.toNat =
    fees.1.toNat * 120 / 100 + tx.maxPriorityFeePerGas.toNat

/-- The runs of `executeLiquidation`. -/
inductive ExecuteRun (abi : FlashAbi) (job : LiquidationJob) (gasUsed : U64) :
    List (Event contractPorts) → Except Panic (Except String H256) → Prop where
  | unencoded (e : String) (hdata : abi.encode job.debtToCover job.params = none) :
      ExecuteRun abi job gasUsed [] (.ok (.error e))
  | panicked (reply : Except String (U256 × U256)) (p : Panic)
      (hdata : abi.encode job.debtToCover job.params ≠ none) (hfees : ¬ FeesFit (feesOf reply)) :
      ExecuteRun abi job gasUsed [feesEvent reply] (.error p)
  | sent (reply : Except String (U256 × U256)) (tx : Eip1559TransactionRequest)
      (answer result : Except String H256) (hfees : FeesFit (feesOf reply))
      (htx : TransactionFor abi job gasUsed (feesOf reply) tx) :
      ExecuteRun abi job gasUsed (feesEvent reply :: sendEvent tx answer :: pollingEvents answer)
        (.ok result)

lemma executeLiquidation_trace {abi : FlashAbi} {job : LiquidationJob} {gasUsed : U64}
    {t : List (Event contractPorts)} {o : Except Panic (Except String H256)}
    (h : (executeLiquidation abi job (gasUsed.setWidth 256)).Trace t o) :
    ExecuteRun abi job gasUsed t o := by
  cases hdata : abi.encode job.debtToCover job.params with
  | none =>
    rw [executeLiquidation, extractCalldata, hdata] at h
    obtain ⟨rfl, rfl⟩ := h
    exact .unencoded _ hdata
  | some calldata =>
    rw [executeLiquidation, extractCalldata, hdata] at h
    obtain ⟨reply, t', rfl, h⟩ := h
    change (Program.ofExcept (boostedFees (feesOf reply).1 (feesOf reply).2) >>= _).Trace t' o at h
    by_cases hfit : FeesFit (feesOf reply)
    · obtain ⟨⟨priorityFee, maxFee⟩, hboosted⟩ := feesFit_iff.mp hfit
      obtain ⟨gas, hscaled, hgas⟩ := exists_scaled_gas gasUsed
      obtain ⟨-, -, hpriority, hmax⟩ := boostedFees_eq_ok_iff.mp hboosted
      rw [hboosted, hscaled] at h
      obtain ⟨answer, t'', rfl, h⟩ := h
      have htx : TransactionFor abi job gasUsed (feesOf reply)
          ⟨flashLiquidator, calldata, gas, maxFee, priorityFee⟩ :=
        ⟨rfl, hdata, hgas, hpriority, hmax⟩
      cases answer with
      | error e =>
        obtain ⟨rfl, rfl⟩ := h
        exact .sent reply _ (.error e) _ hfit htx
      | ok txHash =>
        obtain ⟨⟨⟩, t₃, rfl, rfl, rfl⟩ := h
        exact .sent reply _ (.ok txHash) _ hfit htx
    · cases hboosted : boostedFees (feesOf reply).1 (feesOf reply).2 with
      | ok boosted => exact absurd (feesFit_iff.mpr ⟨boosted, hboosted⟩) hfit
      | error p =>
        rw [hboosted] at h
        obtain ⟨rfl, rfl⟩ := h
        exact .panicked reply p (by simp [hdata]) hfit

/-- There is one transaction in such a run. -/
lemma split_at_send {reply : Except String (U256 × U256)} {tx tx' : Eip1559TransactionRequest}
    {answer answer' : Except String H256} {before after : List (Event contractPorts)}
    (h : feesEvent reply :: sendEvent tx answer :: pollingEvents answer =
      before ++ sendEvent tx' answer' :: after) :
    before = [feesEvent reply] ∧ tx' = tx ∧ answer' = answer ∧ after = pollingEvents answer := by
  rcases before with _ | ⟨e, _ | ⟨e', before⟩⟩
  · cases (List.cons.inj h).1
  · simp only [List.cons_append, List.nil_append, List.cons.injEq] at h
    obtain ⟨rfl, hsend, rfl⟩ := h
    cases hsend
    exact ⟨rfl, rfl, rfl, rfl⟩
  · have htail : pollingEvents answer = before ++ sendEvent tx' answer' :: after := by
      simpa using (List.cons.inj (List.cons.inj h).2).2
    have hmem : sendEvent tx' answer' ∈ pollingEvents answer := by
      rw [htail]
      exact List.mem_append_right _ List.mem_cons_self
    cases answer with
    | error e => cases hmem
    | ok txHash => cases (Event.mk.inj (List.mem_singleton.mp hmem)).1

/-- What is sent can be included: it offers at least what the node estimated, and never less than
the priority fee alone; it has the gas that was used before. The task panics exactly when the
boosted fees do not fit, and then sends nothing. -/
theorem executeLiquidation_priced (abi : FlashAbi) (job : LiquidationJob) (gasUsed : U64)
    (t : List (Event contractPorts)) (o : Except Panic (Except String H256))
    (h : (executeLiquidation abi job (gasUsed.setWidth 256)).Trace t o) :
    (∀ before tx answer after, t = before ++ sendEvent tx answer :: after →
        (∃ reply, before = [feesEvent reply] ∧ (feesOf reply).1.toNat ≤ tx.maxFeePerGas.toNat ∧
          (feesOf reply).2.toNat ≤ tx.maxPriorityFeePerGas.toNat) ∧
        tx.maxPriorityFeePerGas.toNat ≤ tx.maxFeePerGas.toNat ∧ gasUsed.toNat ≤ tx.gas.toNat ∧
        after = pollingEvents answer) ∧
      ((∃ p, o = .error p) ↔ ∃ reply, t = [feesEvent reply] ∧ ¬ FeesFit (feesOf reply)) := by
  cases executeLiquidation_trace h with
  | unencoded e hdata => simp
  | panicked reply p hdata hfees =>
    refine ⟨?_, iff_of_true ⟨p, rfl⟩ ⟨reply, rfl, hfees⟩⟩
    rintro (_ | ⟨e, before⟩) tx answer after ht
    · cases (List.cons.inj ht).1
    · simp at ht
  | sent reply tx answer result hfees htx =>
    refine ⟨?_, iff_of_false (by simp) (by simp)⟩
    intro before tx' answer' after ht
    obtain ⟨rfl, rfl, rfl, rfl⟩ := split_at_send ht
    have hmax := htx.maxFee_eq
    have hpriority := htx.priority_eq
    have hgas := htx.gas_eq
    exact ⟨⟨reply, rfl, by omega, by omega⟩, by omega, by omega, rfl⟩

/-- Offered at the default fees, with the gas that the simulation used and a fifth more. -/
theorem executeLiquidation_priced_sample : ∃ tx : Eip1559TransactionRequest,
    tx.gas = 372000 ∧ (50000000000 : U256).toNat ≤ tx.maxPriorityFeePerGas.toNat := by
  let job : LiquidationJob := ⟨.zero 20, usdc, weth, 1000, .zero 20, .zero 20, [], none, none, none,
    .aave, 1000, [], 1000⟩
  let tx : Eip1559TransactionRequest := ⟨flashLiquidator,
    FlashAbi.selector ++ FlashAbi.layout 1000 job.params, 372000, 315000000000, 75000000000⟩
  have h := executeLiquidation_priced .reference job 310000
    [feesEvent (.error "timeout"), sendEvent tx (.error "nonce too low")]
    (.ok (.error "Failed to send tx: nonce too low"))
    ⟨.error "timeout", _, rfl, .error "nonce too low", [], rfl, rfl, rfl⟩
  obtain ⟨⟨reply, hbefore, -, hpriority⟩, -⟩ := h.1 [feesEvent (.error "timeout")] tx _ [] rfl
  obtain rfl : .error "timeout" = reply := by
    cases hbefore
    rfl
  exact ⟨tx, rfl, hpriority⟩

/-! ### How the wait ends -/

def receiptEvent (txHash : H256) (reply : Except String (Option TransactionReceipt)) :
    Event receiptPorts :=
  ⟨.getTransactionReceipt txHash, reply⟩

/-- What a reply other than that of a pending transaction leads to. -/
def verdictOf? : Except String (Option TransactionReceipt) → Option Verdict
  | .ok (some receipt) => some (verdict receipt)
  | .ok none => none
  | .error _ => some .failed

lemma poll_trace_iff {txHash : H256} {n : ℕ} {t : List (Event receiptPorts)}
    {o : Except Empty Verdict} : (poll txHash n).Trace t o ↔
      (t = List.replicate n (receiptEvent txHash (.ok none)) ∧ o = .ok .timedOut) ∨
      ∃ k reply v, k < n ∧ verdictOf? reply = some v ∧ o = .ok v ∧
        t = List.replicate k (receiptEvent txHash (.ok none)) ++ [receiptEvent txHash reply] := by
  induction n generalizing t with
  | zero =>
    constructor
    · rintro ⟨rfl, rfl⟩
      exact Or.inl ⟨rfl, rfl⟩
    · rintro (⟨rfl, rfl⟩ | ⟨k, -, -, hk, -⟩)
      · exact ⟨rfl, rfl⟩
      · exact absurd hk (Nat.not_lt_zero k)
  | succ n ih =>
    constructor
    · rintro ⟨reply, t', rfl, h⟩
      match reply with
      | .ok (some receipt) =>
        obtain ⟨rfl, rfl⟩ := h
        exact Or.inr ⟨0, _, _, Nat.succ_pos n, rfl, rfl, rfl⟩
      | .error e =>
        obtain ⟨rfl, rfl⟩ := h
        exact Or.inr ⟨0, _, _, Nat.succ_pos n, rfl, rfl, rfl⟩
      | .ok none =>
        rcases ih.mp h with ⟨rfl, rfl⟩ | ⟨k, reply, v, hk, hv, rfl, rfl⟩
        · exact Or.inl ⟨rfl, rfl⟩
        · exact Or.inr ⟨k + 1, reply, v, Nat.succ_lt_succ hk, hv, rfl, rfl⟩
    · rintro (⟨rfl, rfl⟩ | ⟨k, reply, v, hk, hv, rfl, rfl⟩)
      · exact ⟨.ok none, _, rfl, ih.mpr (Or.inl ⟨rfl, rfl⟩)⟩
      · cases k with
        | zero =>
          match reply, hv with
          | .ok (some receipt), rfl => exact ⟨.ok (some receipt), [], rfl, rfl, rfl⟩
          | .error e, rfl => exact ⟨.error e, [], rfl, rfl, rfl⟩
        | succ k =>
          exact ⟨.ok none, _, rfl,
            ih.mpr (Or.inr ⟨k, reply, v, Nat.lt_of_succ_lt_succ hk, hv, rfl, rfl⟩)⟩

/-- The wait ends at the first reply that is not pending and with what it says, or after a minute of
pending replies; it asks for nothing else. -/
theorem pollReceipt_trace_iff (txHash : H256) (t : List (Event receiptPorts))
    (o : Except Empty Verdict) : (pollReceipt txHash).Trace t o ↔
      (t = List.replicate 60 (receiptEvent txHash (.ok none)) ∧ o = .ok .timedOut) ∨
      ∃ k reply v, k < 60 ∧ verdictOf? reply = some v ∧ o = .ok v ∧
        t = List.replicate k (receiptEvent txHash (.ok none)) ++ [receiptEvent txHash reply] :=
  poll_trace_iff

end FlashLiquidatorAdapter

end LiqRanger
