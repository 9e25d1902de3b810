import LiqRanger.Effect.Residual
import LiqRanger.Execution.Contract
import LiqRanger.Execution.Simulator
import LiqRanger.Pipeline.Properties

/-!
# The pipeline over its adapters

The pipeline as it is deployed: the simulator and the contract are the adapters of this repository,
with their own calls to the node and to the virtual machine, while the route finder and the readers
answer whatever they answer. A transaction is sent only after the machine ran it with success, and
it is then the last one that it ran.
-/

namespace LiqRanger

open Effect

variable {ρ : Type}

/-- The ports that are left open. -/
inductive ScoutOp (ρ : Type) where
  | getSwapQuote (srcToken destToken : Address) (srcDecimals destDecimals : UInt8)
      (amount : U256)
  | refreshBorrower (reader : ρ) (identity : Text)

def ScoutOp.Reply : ScoutOp ρ → Type
  | .getSwapQuote .. => Except String MarketQuote
  | .refreshBorrower .. => Except String BorrowerProfile

abbrev scoutPorts (ρ : Type) : Interface := ⟨ScoutOp ρ, ScoutOp.Reply⟩

abbrev nodePorts : Interface := simulatorPorts.sum contractPorts

abbrev wiredPorts (ρ : Type) : Interface := (scoutPorts ρ).sum nodePorts

namespace Deployment

/-- The adapter behind each port. -/
def adapter (deployment : Deployment) :
    (op : PipelineOp ρ) → Program (wiredPorts ρ) Panic (PipelineOp.Reply op)
  | .getSwapQuote srcToken destToken srcDecimals destDecimals amount =>
    .call (.inl (.getSwapQuote srcToken destToken srcDecimals destDecimals amount)) .ret
  | .simulateLiquidation blockNumber job =>
    ((RevmAdapter.awaitSimulation deployment blockNumber job).left contractPorts).right
      (scoutPorts ρ)
  | .refreshBorrower reader identity => .call (.inl (.refreshBorrower reader identity)) .ret
  | .executeLiquidation job gasLimit =>
    ((FlashLiquidatorAdapter.executeLiquidation deployment.abi job gasLimit).right
      simulatorPorts).right (scoutPorts ρ)

def processPayload (deployment : Deployment) (payload : LiqPayload ρ) :
    Program (wiredPorts ρ) Panic (Except Empty Unit) :=
  (LiqRanger.processPayload payload).interpret (I := ports ρ) deployment.adapter

end Deployment

/-! ### The calls of the adapters -/

/-- The machine answered to a transaction on top of a snapshot. -/
def executedEvent (env : Env) (snapshot : BlockSnapshot Block)
    (reply : Except Text ExecutionResult) : Event (wiredPorts ρ) :=
  .right (scoutPorts ρ) (.left contractPorts (RevmAdapter.executedEvent env snapshot reply))

/-- The node answered to a transaction that was sent. -/
def sentEvent (tx : Eip1559TransactionRequest) (answer : Except String H256) :
    Event (wiredPorts ρ) :=
  .right (scoutPorts ρ) (.right simulatorPorts (FlashLiquidatorAdapter.sendEvent tx answer))

def isSent (e : Event (wiredPorts ρ)) : Bool :=
  match e.op with
  | .inr (.inr (.sendTransaction _)) => true
  | _ => false

def isExecuted (e : Event (wiredPorts ρ)) : Bool :=
  match e.op with
  | .inr (.inl (.inr (.transact ..))) => true
  | _ => false

section
variable {deployment : Deployment} {op : PipelineOp ρ} {t : List (Event (ports ρ))}
  {u : List (Event (wiredPorts ρ))}

instance (op : PipelineOp ρ) : Nonempty ((ports ρ).Reply op) := by
  cases op <;> exact ⟨.error ""⟩

/-- Only the adapter of the contract sends. -/
lemma isSent_of_adapter {r : Except Panic (PipelineOp.Reply op)}
    (h : (deployment.adapter op).Trace u r) {e : Event (wiredPorts ρ)} (he : e ∈ u)
    (hsent : isSent e = true) : ∃ job gasLimit, op = .executeLiquidation job gasLimit := by
  cases op with
  | getSwapQuote =>
    obtain ⟨reply, _, rfl, rfl, -⟩ := h
    rw [List.mem_singleton.mp he] at hsent
    cases hsent
  | simulateLiquidation blockNumber job =>
    obtain ⟨v, rfl, hv⟩ := Program.trace_right.mp h
    obtain ⟨w, rfl, -⟩ := Program.trace_left.mp hv
    rw [List.map_map] at he
    obtain ⟨e', -, rfl⟩ := List.mem_map.mp he
    cases hsent
  | refreshBorrower =>
    obtain ⟨reply, _, rfl, rfl, -⟩ := h
    rw [List.mem_singleton.mp he] at hsent
    cases hsent
  | executeLiquidation job gasLimit => exact ⟨job, gasLimit, rfl⟩

/-- Where nothing is broadcast, nothing is sent. -/
lemma not_isSent_of_carriesOut (h : CarriesOut (I := ports ρ) deployment.adapter t u)
    (hquiet : ∀ e ∈ t, isBroadcast e = false) : ∀ e ∈ u, isSent e = false := by
  intro e he
  by_contra hsent
  rw [Bool.not_eq_false] at hsent
  obtain ⟨before, after, hu⟩ := List.append_of_mem he
  obtain ⟨t₁, op, r, t₂, u₁, v₁, v₂, u₂, rfl, -, htrace, -⟩ := h.split hu
  obtain ⟨job, gasLimit, rfl⟩ := isSent_of_adapter htrace (by simp) hsent
  have hfalse := hquiet _ (List.mem_append_right t₁ List.mem_cons_self)
  cases hfalse

/-- A refresh runs nothing on the machine. -/
lemma not_isExecuted_of_carriesOut (h : CarriesOut (I := ports ρ) deployment.adapter t u)
    (hrefresh : ∀ e ∈ t, isRefresh e = true) : ∀ e ∈ u, isExecuted e = false := by
  intro e he
  obtain ⟨before, after, hu⟩ := List.append_of_mem he
  obtain ⟨t₁, op, r, t₂, u₁, v₁, v₂, u₂, rfl, -, htrace, -⟩ := h.split hu
  have hop := hrefresh _ (List.mem_append_right t₁ List.mem_cons_self)
  cases op with
  | refreshBorrower =>
    obtain ⟨reply, _, heq, rfl, -⟩ := htrace
    have hmem : e ∈ v₁ ++ e :: v₂ := by simp
    rw [heq, List.mem_singleton] at hmem
    rw [hmem]
    rfl
  | getSwapQuote => cases hop
  | simulateLiquidation => cases hop
  | executeLiquidation => cases hop

end

/-! ### Before a broadcast -/

/-- What is known of a run of the pipeline at its broadcast. -/
structure BroadcastAt (payload : LiqPayload ρ) (job : LiquidationJob) (gas : U64)
    (before after : List (Event (ports ρ))) : Prop where
  last : after = []
  quiet : ∀ e ∈ before, isBroadcast e = false
  covers : job.debtToCover ≤ job.minAmtOut
  borrower_eq : job.borrower = payload.profile.address
  debtAsset_eq : job.debtAsset = payload.profile.debtAsset
  simulated : ∃ earlier blockNumber later,
    before = earlier ++ simulateEvent blockNumber job (.ok gas) :: later ∧
      ∀ e ∈ later, isRefresh e = true

lemma BroadcastRun.borrower_eq {payload : LiqPayload ρ} {refreshed : BorrowerProfile}
    {job : LiquidationJob} {gas : U64} {t : List (Event (ports ρ))}
    (h : BroadcastRun payload refreshed job gas t) :
    job.borrower = payload.profile.address ∧ job.debtAsset = payload.profile.debtAsset := by
  cases h <;> exact ⟨rfl, rfl⟩

lemma exists_broadcastAt {payload : LiqPayload ρ} {before after : List (Event (ports ρ))}
    {job : LiquidationJob} {gasLimit : U256} {reply : Except String H256} {o : Except Empty Unit}
    (h : (processPayload payload).Trace (before ++ executeEvent job gasLimit reply :: after) o) :
    ∃ gas, gasLimit = gasLimitOf gas ∧ BroadcastAt payload job gas before after := by
  rcases processPayload_trace h with hquiet | ⟨refreshed, job', gas, hrun⟩
  · have hfalse := hquiet _ (List.mem_append_right before List.mem_cons_self)
    cases hfalse
  · have hsame := hrun.borrower_eq
    obtain ⟨init, reply', heq, hquiet, hcovers, hsimulated, -⟩ := hrun.before
    obtain ⟨rfl, hevent⟩ := split_at_broadcast hquiet rfl heq.symm
    obtain ⟨rfl, rfl⟩ := executeEvent_inj hevent
    have hlast := (List.cons.inj (List.append_cancel_left heq)).2
    exact ⟨gas, rfl, hlast, hquiet, hcovers, hsame.1, hsame.2, hsimulated⟩

/-! ### What is sent -/

/-- The last transaction that the machine ran was this one, for the keeper and with success; the gas
it used is what is offered, and a fifth more. -/
def Rehearsed (keeper : Address) (tx : Eip1559TransactionRequest)
    (before : List (Event (wiredPorts ρ))) : Prop :=
  ∃ earlier env snapshot gas later,
    before = earlier ++ executedEvent env snapshot (.ok (.success gas)) :: later ∧
    (∀ e ∈ later, isExecuted e = false) ∧ env.tx.caller = keeper ∧
    env.tx.transactTo = tx.target ∧ env.tx.data = tx.data ∧ env.tx.value = 0 ∧
    tx.gas.toNat = gas.toNat * 120 / 100

section
open FlashLiquidatorAdapter

variable {deployment : Deployment} {job : LiquidationJob} {gas : U64}
  {tx : Eip1559TransactionRequest} {answer : Except String H256}

def contractEvent (e : Event contractPorts) : Event (wiredPorts ρ) :=
  .right (scoutPorts ρ) (.right simulatorPorts e)

lemma contractEvent_injective : Function.Injective (contractEvent (ρ := ρ)) := by
  rintro ⟨op, r⟩ ⟨op', r'⟩ h
  cases h
  rfl

lemma isSent_polling (answer : Except String H256) :
    ∀ e ∈ (pollingEvents answer).map (contractEvent (ρ := ρ)), isSent e = false := by
  cases answer with
  | ok txHash => simp [pollingEvents, contractEvent, Event.right, isSent]
  | error e => simp [pollingEvents]

/-- The adapter asks for the fees, sends, and starts the task that waits. -/
lemma adapter_sends {v₁ v₂ : List (Event (wiredPorts ρ))} {o : Except Panic (Except String H256)}
    (h : (deployment.adapter (.executeLiquidation job (gasLimitOf gas))).Trace
      (v₁ ++ sentEvent tx answer :: v₂) o) :
    ∃ reply result, TransactionFor deployment.abi job gas (feesOf reply) tx ∧
      v₁ = [contractEvent (feesEvent reply)] ∧
      v₂ = (pollingEvents answer).map contractEvent ∧ o = .ok result := by
  obtain ⟨w, hw, hright⟩ := Program.trace_right.mp h
  obtain ⟨t, rfl, hexecute⟩ := Program.trace_right.mp hright
  rw [List.map_map] at hw
  obtain ⟨l₁, l₂, rfl, hl₁, hl₂⟩ := List.map_eq_append_iff.mp hw.symm
  obtain ⟨e, l₃, rfl, he, hl₃⟩ := List.map_eq_cons_iff.mp hl₂
  obtain rfl : e = sendEvent tx answer := contractEvent_injective he
  generalize ht : l₁ ++ sendEvent tx answer :: l₃ = t at hexecute
  cases executeLiquidation_trace hexecute with
  | unencoded => simp at ht
  | panicked reply p =>
    have hlen := congrArg List.length ht
    have hmem : sendEvent tx answer ∈ [feesEvent reply] := by
      rw [← ht]
      simp
    cases List.mem_singleton.mp hmem
  | sent reply tx' answer' result hfees htx =>
    obtain ⟨rfl, rfl, rfl, rfl⟩ := split_at_send ht.symm
    exact ⟨reply, result, htx, hl₁.symm, hl₃.symm, rfl⟩

/-- What the simulator did for a job that went through. -/
lemma adapter_simulates {blockNumber : U64} {v : List (Event (wiredPorts ρ))}
    (h : (deployment.adapter (.simulateLiquidation blockNumber job)).Trace v (.ok (.ok gas))) :
    ∃ earlier env snapshot, RevmAdapter.Executes deployment job env ∧
      v = earlier ++ [executedEvent env snapshot (.ok (.success gas))] := by
  obtain ⟨w, rfl, hleft⟩ := Program.trace_right.mp h
  obtain ⟨t, rfl, hawait⟩ := Program.trace_left.mp hleft
  obtain ⟨o, hsim, ho⟩ := RevmAdapter.trace_awaitSimulation.mp hawait
  obtain rfl := RevmAdapter.callerOutcome_eq_gas ho.symm
  obtain ⟨built, env, snapshot, hexecutes, rfl⟩ := RevmAdapter.simulateLiquidation_trace_ok hsim
  rw [List.map_append, List.map_append]
  exact ⟨_, env, snapshot, hexecutes, rfl⟩

/-- Before the contract is called the job was rehearsed. -/
lemma rehearsed_of_broadcastAt {payload : LiqPayload ρ} {fees : U256 × U256}
    {before after : List (Event (ports ρ))} {u v : List (Event (wiredPorts ρ))}
    (h : BroadcastAt payload job gas before after)
    (hu : CarriesOut (I := ports ρ) deployment.adapter before u)
    (htx : TransactionFor deployment.abi job gas fees tx)
    (hv : ∀ e ∈ v, isExecuted e = false) : Rehearsed deployment.revm.keeper tx (u ++ v) := by
  obtain ⟨earlier, blockNumber, later, rfl, hlater⟩ := h.simulated
  obtain ⟨u₁, u₂, rfl, -, hrest⟩ := hu.append_inv
  cases hrest with
  | cons hsim hlaterCarries =>
    obtain ⟨w, env, snapshot, hexecutes, rfl⟩ := adapter_simulates hsim
    have hdata := hexecutes.data_eq.symm.trans htx.data_eq
    rename_i x
    have hquiet : ∀ e ∈ x ++ v, isExecuted e = false :=
      List.forall_mem_append.mpr ⟨not_isExecuted_of_carriesOut hlaterCarries hlater, hv⟩
    exact ⟨u₁ ++ w, env, snapshot, gas, x ++ v, by simp, hquiet, hexecutes.caller_eq,
      hexecutes.transactTo_eq.trans htx.target_eq.symm, Option.some.inj hdata,
      hexecutes.value_eq, htx.gas_eq⟩

end

/-- The calldata of a transaction names the borrower and the debt asset of the profile, and the swap
must pay for what is borrowed. -/
def AsksFor (abi : FlashAbi) (profile : BorrowerProfile) (data : Bytes) : Prop :=
  ∃ flashAmount params, abi.decode data = some (flashAmount, params) ∧
    flashAmount ≤ params.minAmtOut ∧ params.borrower = profile.address ∧
    params.flashAsset = profile.debtAsset

/-- A transaction for a job, sent after the calls of `before`: the pipeline broadcast the job after
the calls `t`, the adapters had carried these out, and then the contract's asked for the fees. -/
structure SentFor (deployment : Deployment) (payload : LiqPayload ρ) (job : LiquidationJob)
    (t : List (Event (ports ρ))) (before : List (Event (wiredPorts ρ)))
    (tx : Eip1559TransactionRequest) : Prop where
  broadcast : ∃ gas reply, BroadcastAt payload job gas t [] ∧
    FlashLiquidatorAdapter.TransactionFor deployment.abi job gas
      (FlashLiquidatorAdapter.feesOf reply) tx ∧
    ∃ u, CarriesOut (I := ports ρ) deployment.adapter t u ∧
      before = u ++ [contractEvent (FlashLiquidatorAdapter.feesEvent reply)]
  trace : ∃ gasLimit answer o,
    (processPayload payload).Trace (t ++ [executeEvent job gasLimit answer]) o

/-- A transaction is sent by the last call of the pipeline. -/
lemma sent_at {deployment : Deployment} {payload : LiqPayload ρ} {op : PipelineOp ρ}
    {r : (ports ρ).Reply op} {t₁ t₂ : List (Event (ports ρ))} {o : Except Empty Unit}
    {u v₁ v₂ : List (Event (wiredPorts ρ))} {tx : Eip1559TransactionRequest}
    {answer : Except String H256} {o' : Except Panic (PipelineOp.Reply op)}
    (h : (processPayload payload).Trace (t₁ ++ ⟨op, r⟩ :: t₂) o)
    (hu : CarriesOut (I := ports ρ) deployment.adapter t₁ u)
    (hop : (deployment.adapter op).Trace (v₁ ++ sentEvent tx answer :: v₂) o') :
    t₂ = [] ∧ (∃ result, o' = .ok result) ∧
      v₂ = (FlashLiquidatorAdapter.pollingEvents answer).map contractEvent ∧
      ∃ job, SentFor deployment payload job t₁ (u ++ v₁) tx := by
  obtain ⟨job, gasLimit, rfl⟩ := isSent_of_adapter hop (e := sentEvent tx answer) (by simp) rfl
  obtain ⟨gas, rfl, hat⟩ := exists_broadcastAt h
  obtain ⟨reply, result, htx, rfl, rfl, rfl⟩ := adapter_sends hop
  obtain rfl := hat.last
  exact ⟨rfl, ⟨result, rfl⟩, rfl, job, ⟨gas, reply, hat, htx, u, hu, rfl⟩, _, _, o, h⟩

/-- Every transaction is sent for a job, and what comes after it is the task that waits. -/
lemma exists_sentFor {deployment : Deployment} {payload : LiqPayload ρ}
    {u before after : List (Event (wiredPorts ρ))} {o : Except Panic (Except Empty Unit)}
    {tx : Eip1559TransactionRequest} {answer : Except String H256}
    (h : (deployment.processPayload payload).Trace u o)
    (hu : u = before ++ sentEvent tx answer :: after) :
    after = (FlashLiquidatorAdapter.pollingEvents answer).map contractEvent ∧
      ∃ job t, SentFor deployment payload job t before tx := by
  rcases Program.trace_interpret.mp h with ⟨t, o', htrace, hcarries, -⟩ |
    ⟨t, op, u₁, u₂, p, hasks, hcarries, hfail, rfl, -⟩
  · obtain ⟨t₁, op, r, t₂, u₁, v₁, v₂, u₂, rfl, h₁, hop, h₂, rfl, rfl⟩ := hcarries.split hu
    obtain ⟨rfl, -, rfl, job, hsent⟩ := sent_at htrace h₁ hop
    cases h₂
    exact ⟨List.append_nil _, job, t₁, hsent⟩
  · -- An adapter that panics does so before it sends, and no call of the pipeline precedes it that
    -- sends: a broadcast is the last call of all.
    obtain ⟨t', o', htrace⟩ := hasks.exists_trace (Classical.arbitrary _)
    rcases append_split hu with ⟨mid, rfl, rfl⟩ | ⟨mid, rfl, rfl⟩
    · obtain ⟨t₁, op', r, t₂, v₁, w₁, w₂, v₂, rfl, h₁, hop, -⟩ := hcarries.split rfl
      rw [List.append_assoc, List.cons_append] at htrace
      obtain ⟨hlast, -⟩ := sent_at htrace h₁ hop
      simp at hlast
    · obtain ⟨-, ⟨result, hresult⟩, -⟩ := sent_at htrace hcarries hfail
      cases hresult

/-- The pipeline went through one of its two runs that end in a broadcast. -/
lemma SentFor.run {deployment : Deployment} {payload : LiqPayload ρ} {job : LiquidationJob}
    {t : List (Event (ports ρ))} {before : List (Event (wiredPorts ρ))}
    {tx : Eip1559TransactionRequest} (h : SentFor deployment payload job t before tx) :
    ∃ refreshed gas reply,
      BroadcastRun payload refreshed job gas (t ++ [executeEvent job (gasLimitOf gas) reply]) := by
  obtain ⟨gasLimit, answer, o, htrace⟩ := h.trace
  rcases processPayload_trace htrace with hquiet | ⟨refreshed, job', gas, hrun⟩
  · have hfalse := hquiet _ (List.mem_append_right t List.mem_cons_self)
    cases hfalse
  obtain ⟨init, reply, heq, -⟩ := hrun.before
  obtain ⟨rfl, hlast⟩ := List.append_inj' heq rfl
  obtain ⟨rfl, rfl⟩ := executeEvent_inj (List.cons.inj hlast).1
  exact ⟨refreshed, gas, answer, hrun⟩

lemma SentFor.rehearsed {deployment : Deployment} {payload : LiqPayload ρ} {job : LiquidationJob}
    {t : List (Event (ports ρ))} {before : List (Event (wiredPorts ρ))}
    {tx : Eip1559TransactionRequest} (h : SentFor deployment payload job t before tx) :
    Rehearsed deployment.revm.keeper tx before ∧ ∀ e ∈ before, isSent e = false := by
  obtain ⟨gas, reply, hat, htx, u, hcarries, rfl⟩ := h.broadcast
  constructor
  · refine rehearsed_of_broadcastAt hat hcarries htx fun e he => ?_
    rw [List.mem_singleton.mp he]
    rfl
  · refine List.forall_mem_append.mpr ⟨not_isSent_of_carriesOut hcarries hat.quiet, ?_⟩
    intro e he
    rw [List.mem_singleton.mp he]
    rfl

lemma SentFor.asksFor {deployment : Deployment} {payload : LiqPayload ρ} {job : LiquidationJob}
    {t : List (Event (ports ρ))} {before : List (Event (wiredPorts ρ))}
    {tx : Eip1559TransactionRequest} (h : SentFor deployment payload job t before tx) :
    AsksFor deployment.abi payload.profile tx.data := by
  obtain ⟨gas, reply, hat, htx, -⟩ := h.broadcast
  refine ⟨_, _, deployment.abi.decode_encode _ _ _ htx.data_eq, ?_, ?_, ?_⟩
  · rw [LiquidationJob.params_minAmtOut]
    exact hat.covers
  · rw [LiquidationJob.params_borrower, hat.borrower_eq]
  · rw [LiquidationJob.params_flashAsset, hat.debtAsset_eq]

lemma rehearsed_of_trace {deployment : Deployment} {payload : LiqPayload ρ}
    {u before after : List (Event (wiredPorts ρ))} {o : Except Panic (Except Empty Unit)}
    {tx : Eip1559TransactionRequest} {answer : Except String H256}
    (h : (deployment.processPayload payload).Trace u o)
    (hu : u = before ++ sentEvent tx answer :: after) :
    Rehearsed deployment.revm.keeper tx before ∧
      (∀ e ∈ before ++ after, isSent e = false) ∧
      AsksFor deployment.abi payload.profile tx.data := by
  obtain ⟨rfl, job, t, hsent⟩ := exists_sentFor h hu
  exact ⟨hsent.rehearsed.1, List.forall_mem_append.mpr ⟨hsent.rehearsed.2, isSent_polling answer⟩,
    hsent.asksFor⟩

instance (op : (wiredPorts ρ).Op) : Nonempty ((wiredPorts ρ).Reply op) := by
  rcases op with scout | (snapshot | evm) | contract
  · cases scout <;> exact ⟨.error ""⟩
  · cases snapshot with
    | elapsed => exact ⟨false⟩
    | retainSnapshots => exact ⟨()⟩
    | insertSnapshot => exact ⟨()⟩
    | insertAccount => exact ⟨()⟩
    | cachedSnapshot => exact ⟨none⟩
    | cachedAccount => exact ⟨none⟩
    | _ => exact ⟨.error ""⟩
  · cases evm
    exact ⟨.error []⟩
  · cases contract with
    | spawnPolling => exact ⟨()⟩
    | _ => exact ⟨.error ""⟩

/-- At any moment of the work on a payload, and whatever the node, the machine, the route finder and
the readers answer: a transaction was sent at most once, and only after the machine ran it last and
with success. Its calldata is for the borrower and the debt of the payload, and asks the swap for no
less than is borrowed. -/
theorem sent_rehearsed (deployment : Deployment) (payload : LiqPayload ρ)
    (u : List (Event (wiredPorts ρ))) (rest : Program (wiredPorts ρ) Panic (Except Empty Unit))
    (h : (deployment.processPayload payload).After u rest)
    (before : List (Event (wiredPorts ρ))) (tx : Eip1559TransactionRequest)
    (answer : Except String H256) (after : List (Event (wiredPorts ρ)))
    (hu : u = before ++ sentEvent tx answer :: after) :
    Rehearsed deployment.revm.keeper tx before ∧
      (∀ e ∈ before ++ after, isSent e = false) ∧
      AsksFor deployment.abi payload.profile tx.data := by
  obtain ⟨v, o, htrace⟩ := h.exists_trace
  rw [hu, List.append_assoc, List.cons_append] at htrace
  obtain ⟨hrehearsed, hquiet, hasksFor⟩ := rehearsed_of_trace htrace rfl
  rw [← List.append_assoc] at hquiet
  exact ⟨hrehearsed, fun e he => hquiet e (List.mem_append_left v he), hasksFor⟩

/-! ### A payload that is sent -/

def sampleDeployment : Deployment where
  revm := ⟨.ofNat 20 0x11, fun _ => keccakEmpty⟩
  abi := .reference
  errors := .reference
  joinError p := p.message

def sampleCalldata : Bytes := FlashAbi.selector ++ FlashAbi.layout 100 sampleJob.params

def sampleSentTx : Eip1559TransactionRequest :=
  ⟨flashLiquidator, sampleCalldata, 240, 72000000000, 36000000000⟩

/-- The snapshot is in the cache. -/
def sampleSimulation (data : Bytes) : List (Event simulatorPorts) :=
  [.left evmPorts ⟨.cachedSnapshot 500, some sampleSnapshot⟩,
    RevmAdapter.executedEvent { sampleEnv with tx := { sampleEnv.tx with data := data } }
      sampleSnapshot (.ok (.success 200))]

def sampleSending (data : Bytes) : List (Event contractPorts) :=
  [FlashLiquidatorAdapter.feesEvent (.ok (30000000000, 24000000000)),
    FlashLiquidatorAdapter.sendEvent { sampleSentTx with data := data } (.ok (.zero 32)),
    ⟨.spawnPolling (.zero 32), ()⟩]

/-- The calls for a job that is simulated and broadcast as it was scanned. -/
def sampleCalls (profile refreshed : BorrowerProfile) (quote : MarketQuote) (job : LiquidationJob) :
    List (Event (ports Unit)) :=
  [quoteEvent profile (.ok quote), simulateEvent 500 job (.ok 200),
    refreshEvent () profile.identity (.ok refreshed),
    executeEvent job (gasLimitOf 200) (.ok (.zero 32))]

def sampleWired (profile refreshed : BorrowerProfile) (quote : MarketQuote) (data : Bytes) :
    List (Event (wiredPorts Unit)) :=
  [.left nodePorts ⟨.getSwapQuote profile.collateralAsset profile.debtAsset profile.srcDecimals
      profile.destDecimals profile.seizeAmount, .ok quote⟩] ++
    (((sampleSimulation data).map (Event.left contractPorts)).map (Event.right (scoutPorts Unit)) ++
    ([.left nodePorts ⟨.refreshBorrower () profile.identity, .ok refreshed⟩] ++
    (((sampleSending data).map (Event.right simulatorPorts)).map (Event.right (scoutPorts Unit)) ++
      [])))

section
variable {job : LiquidationJob} {data : Bytes}

lemma sampleSimulation_trace (hne : job.collateralAsset ≠ job.debtAsset)
    (hdata : sampleDeployment.abi.encode job.debtToCover job.params = some data) :
    (RevmAdapter.simulateLiquidation sampleDeployment 500 job).Trace (sampleSimulation data)
      (.ok 200) := by
  rw [RevmAdapter.simulateLiquidation, if_neg hne, hdata]
  exact ⟨some sampleSnapshot, _, rfl, .ok (.success 200), _, rfl, rfl, rfl⟩

lemma sampleSending_trace
    (hdata : sampleDeployment.abi.encode job.debtToCover job.params = some data) :
    (FlashLiquidatorAdapter.executeLiquidation sampleDeployment.abi job
      (gasLimitOf 200)).Trace (sampleSending data) (.ok (.ok (.zero 32))) := by
  have hcalldata : FlashLiquidatorAdapter.extractCalldata sampleDeployment.abi job.debtToCover
      job.params = .ok data := by
    rw [FlashLiquidatorAdapter.extractCalldata, hdata]
  rw [FlashLiquidatorAdapter.executeLiquidation, hcalldata]
  exact ⟨.ok (30000000000, 24000000000), _, rfl, .ok (.zero 32), _, rfl, (), _, rfl, rfl, rfl⟩

lemma sampleCalls_carriesOut (profile refreshed : BorrowerProfile) (quote : MarketQuote)
    (hne : job.collateralAsset ≠ job.debtAsset)
    (hdata : sampleDeployment.abi.encode job.debtToCover job.params = some data) :
    CarriesOut (I := ports Unit) sampleDeployment.adapter (sampleCalls profile refreshed quote job)
      (sampleWired profile refreshed quote data) := by
  refine .cons ⟨_, _, rfl, rfl, rfl⟩ (.cons ?_ (.cons ⟨_, _, rfl, rfl, rfl⟩ (.cons ?_ .nil)))
  · exact Program.trace_right.mpr ⟨_, rfl, Program.trace_left.mpr
      ⟨_, rfl, RevmAdapter.trace_awaitSimulation.mpr ⟨_, sampleSimulation_trace hne hdata, rfl⟩⟩⟩
  · exact Program.trace_right.mpr
      ⟨_, rfl, Program.trace_right.mpr ⟨_, rfl, sampleSending_trace hdata⟩⟩

end

lemma sampleWired_carriesOut : CarriesOut (I := ports Unit) sampleDeployment.adapter
    sampleModeChangeCalls
    (sampleWired sampleScan sampleModeChange (sampleQuote 50 110) sampleCalldata) :=
  sampleCalls_carriesOut sampleScan sampleModeChange (sampleQuote 50 110) (by decide) rfl

/-- What is sent for the sample was rehearsed. -/
theorem sent_rehearsed_sample : ∃ before : List (Event (wiredPorts Unit)),
    Rehearsed sampleDeployment.revm.keeper sampleSentTx before := by
  have htrace : (sampleDeployment.processPayload samplePayload).Trace _ (.ok (.ok ())) :=
    Program.trace_interpret.mpr
      (Or.inl ⟨_, _, sampleModeChange_trace, sampleWired_carriesOut, rfl⟩)
  have h := sent_rehearsed sampleDeployment samplePayload _ _ (.of_trace htrace)
    [_, _, _, _, _] sampleSentTx (.ok (.zero 32)) [_] rfl
  exact ⟨_, h.1⟩

end LiqRanger
