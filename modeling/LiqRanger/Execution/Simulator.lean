import LiqRanger.Effect.Interpret
import LiqRanger.Execution.Params
import LiqRanger.Simulation.Reasons

/-!
# Simulating a job

`RevmAdapter::simulate_liquidation`: the snapshot of a block, the calldata of the job, and one
transaction of the keeper to the liquidator contract on top of the snapshot. A panic of the machine
is caught, and one of the snapshot ends the task that simulates.
-/

namespace LiqRanger

open Effect

/-- The keeper, the generated code, and the text of the error of a worker that panicked. -/
structure Deployment where
  revm : RevmConfig
  abi : FlashAbi
  errors : StandardErrors
  joinError : Panic → String

/-- Chain 137. -/
def chainId : U64 := 137

abbrev simulatorPorts : Interface := (snapshotPorts Block).sum evmPorts

namespace RevmAdapter

def simulationTx (deployment : Deployment) (calldata : Bytes) : SimulationTx where
  sender := deployment.revm.keeper
  target := flashLiquidator
  calldata := calldata
  value := 0

/-- The gas of a successful result, and the reason of any other. -/
def gasOf (result : SimulationResult) : Except String U64 :=
  if result.success then .ok result.gasUsed
  else
    let reason := result.revertReason.getD "Unknown revert".toList
    .error (String.ofList ("Simulation reverted: ".toList ++ reason))

/-- The execution on a worker of its own, and its result. -/
def simulateOn (deployment : Deployment) (snapshot : BlockSnapshot Block) (calldata : Bytes) :
    Program simulatorPorts SimulatorError U64 := do
  let simulation := (SimulationEngine.new chainId).simulate deployment.errors snapshot
    (simulationTx deployment calldata)
  match ← (simulation.right (snapshotPorts Block)).attempt with
  | .error p => .fail (.failed ("REVM execution worker panicked: " ++ deployment.joinError p))
  | .ok (.error e) => .fail (.failed (String.ofList e))
  | .ok (.ok result) => Program.ofExcept (SimulatorError.ofNode (gasOf result))

def simulateLiquidation (deployment : Deployment) (blockNumber : U64) (job : LiquidationJob) :
    Program simulatorPorts SimulatorError U64 :=
  if job.collateralAsset = job.debtAsset then
    .fail (.failed "Self-liquidation swap shortcut: collateral equals debt asset")
  else do
    let request := ⟨blockNumber, job.debtAsset, job.collateralAsset, job.borrower⟩
    let snapshot ← (buildSnapshot deployment.revm request).left evmPorts
    match deployment.abi.encode job.debtToCover job.params with
    | none => .fail (.failed "Failed to encode liquidation calldata")
    | some calldata => simulateOn deployment snapshot calldata

/-- What the caller gets: an error as a reply, and a panic as its own. -/
def callerOutcome : Except SimulatorError U64 → Except Panic (Except String U64)
  | .ok gas => .ok (.ok gas)
  | .error (.failed text) => .ok (.error text)
  | .error (.panicked p) => .error p

/-- The simulation in the task of its caller. -/
def awaitSimulation (deployment : Deployment) (blockNumber : U64) (job : LiquidationJob) :
    Program simulatorPorts Panic (Except String U64) := do
  let outcome ← (simulateLiquidation deployment blockNumber job).attempt
  Program.ofExcept (callerOutcome outcome)

lemma trace_awaitSimulation {deployment : Deployment} {blockNumber : U64} {job : LiquidationJob}
    {t : List (Event simulatorPorts)} {o : Except Panic (Except String U64)} :
    (awaitSimulation deployment blockNumber job).Trace t o ↔
      ∃ o', (simulateLiquidation deployment blockNumber job).Trace t o' ∧ o = callerOutcome o' :=
  Program.trace_attempt_ofExcept

lemma callerOutcome_eq_gas {o : Except SimulatorError U64} {gas : U64}
    (h : callerOutcome o = .ok (.ok gas)) : o = .ok gas := by
  cases o with
  | ok gas' =>
    cases h
    rfl
  | error e => cases e <;> cases h

/-! ### What a success rests on -/

/-- The answer of the machine to a transaction on top of a snapshot. -/
def executedEvent (env : Env) (snapshot : BlockSnapshot Block)
    (reply : Except Text ExecutionResult) : Event simulatorPorts :=
  .right (snapshotPorts Block) (SimulationEngine.transactEvent env snapshot reply)

/-- The machine ran the job for the keeper, with this calldata. -/
structure Executes (deployment : Deployment) (job : LiquidationJob) (env : Env) : Prop where
  caller_eq : env.tx.caller = deployment.revm.keeper
  transactTo_eq : env.tx.transactTo = flashLiquidator
  data_eq : deployment.abi.encode job.debtToCover job.params = some env.tx.data
  value_eq : env.tx.value = 0

lemma gasOf_outcome_eq_ok {errors : StandardErrors} {engine : SimulationEngine}
    {result : ExecutionResult} {gas : U64} (h : gasOf (engine.outcome errors result) = .ok gas) :
    result = .success gas := by
  cases result with
  | success gasUsed =>
    obtain rfl := Except.ok.inj h
    rfl
  | revert output gasUsed => cases h
  | halt reason gasUsed => cases h

lemma simulateOn_trace_ok {deployment : Deployment} {snapshot : BlockSnapshot Block}
    {calldata : Bytes} {t : List (Event simulatorPorts)} {gas : U64}
    (h : (simulateOn deployment snapshot calldata).Trace t (.ok gas)) :
    ∃ env, BuiltFrom env snapshot.block (simulationTx deployment calldata) ∧
      t = [executedEvent env snapshot (.ok (.success gas))] := by
  rw [simulateOn, Program.trace_bind] at h
  obtain ⟨e, -, he⟩ | ⟨t₁, t₂, outcome, rfl, hattempt, hrest⟩ := h
  · cases he
  obtain ⟨o, hright, ho⟩ := (Program.trace_attempt _ _ _).mp hattempt
  cases ho
  obtain ⟨t₃, rfl, hsim⟩ := Program.trace_right.mp hright
  rcases SimulationEngine.simulate_trace hsim with
    ⟨-, env, reply, hbuilt, rfl, rfl⟩ | ⟨-, -, p, rfl⟩
  · cases reply with
    | error e => cases hrest.2
    | ok result =>
      cases hgas : gasOf ((SimulationEngine.new chainId).outcome deployment.errors result) with
      | error e =>
        simp only [SimulationEngine.result, hgas] at hrest
        cases hrest.2
      | ok gasUsed =>
        simp only [SimulationEngine.result, hgas] at hrest
        obtain ⟨rfl, hok⟩ := hrest
        cases hok
        obtain rfl := gasOf_outcome_eq_ok hgas
        exact ⟨env, hbuilt, rfl⟩
  · cases hrest.2

/-- A simulation that returns gas ends with a transaction of the job that used it. -/
lemma simulateLiquidation_trace_ok {deployment : Deployment} {blockNumber : U64}
    {job : LiquidationJob} {t : List (Event simulatorPorts)} {gas : U64}
    (h : (simulateLiquidation deployment blockNumber job).Trace t (.ok gas)) :
    ∃ (built : List (Event (snapshotPorts Block))) (env : Env) (snapshot : BlockSnapshot Block),
      Executes deployment job env ∧
      t = built.map (Event.left evmPorts) ++ [executedEvent env snapshot (.ok (.success gas))] := by
  rw [simulateLiquidation] at h
  split_ifs at h with hself
  · cases h.2
  · rw [Program.trace_bind] at h
    obtain ⟨e, -, he⟩ | ⟨t₁, t₂, snapshot, rfl, hbuild, hrest⟩ := h
    · cases he
    obtain ⟨built, rfl, -⟩ := Program.trace_left.mp hbuild
    cases hdata : deployment.abi.encode job.debtToCover job.params with
    | none =>
      rw [hdata] at hrest
      cases hrest.2
    | some calldata =>
      rw [hdata] at hrest
      obtain ⟨env, hbuilt, rfl⟩ := simulateOn_trace_ok hrest
      refine ⟨built, env, snapshot, ?_, rfl⟩
      exact ⟨hbuilt.caller_eq, hbuilt.transactTo_eq, hbuilt.data_eq ▸ hdata, hbuilt.value_eq⟩

end RevmAdapter

end LiqRanger
