import LiqRanger.Pipeline.Properties
import LiqRanger.Transition.System

/-!
# Shutdown

The tasks of a started engine, and `shutdown_all_tasks`, which waits for the registered ones. The
pipeline is registered with a task that only spawns the receive loop; the loop, the evaluations that
it spawns, the maintenance tasks of the pruner, the polling for receipts, and the cron scheduler of
the profit distributor with its jobs are not registered. So a shutdown waits for everything exactly
when these have ended before the last registered task is waited for (`shutdownWaits_iff`).
-/

namespace LiqRanger

open Effect Transition

variable {ρ : Type}

/-! ### Tasks -/

/-- The registered tasks, one for each `start_*` function. -/
inductive Service where
  | pipelineEngine
  | protocolScanner
  | aaveWatchlistUpdater
  | morphoWatchlistUpdater
  | watchlistPruner
  | profitDistributor
  | liqDataExtractor
  | blockWatcher
  deriving DecidableEq

/-- In the order in which they are registered. -/
def Service.registered : List Service :=
  [.pipelineEngine, .protocolScanner, .aaveWatchlistUpdater, .morphoWatchlistUpdater,
    .watchlistPruner, .profitDistributor, .liqDataExtractor, .blockWatcher]

/-- The main task: until the signal, in `shutdown_all_tasks` with the handles that are left, and
after it. -/
inductive MainPhase where
  | untilSignal
  | shuttingDown (handles : List Service)
  | returned

/-- The task that `start_pipeline` spawns. -/
inductive ReceiveLoop (ρ : Type) where
  | unspawned
  | selecting
  /-- A payload waits for a permit. -/
  | acquiring (payload : LiqPayload ρ)
  | ended

structure EngineTasks (ρ : Type) where
  main : MainPhase
  running : Service → Bool
  loop : ReceiveLoop ρ
  /-- What is left of each `process_payload` task. -/
  evaluations : List (Program (ports ρ) Empty Unit)
  /-- The cron scheduler of the profit distributor is on. -/
  scheduling : Bool
  /-- The number of maintenance tasks, pollings for receipts and cron jobs that run. -/
  detached : ℕ
  /-- The calls of `execute_liquidation`, oldest first. -/
  executions : List (LiquidationJob × U256)

/-- The task is not over, and holds its permit. -/
def evaluating (task : Program (ports ρ) Empty Unit) : Bool :=
  match task with
  | .call .. => true
  | _ => false

def executionOf : PipelineOp ρ → List (LiquidationJob × U256)
  | .executeLiquidation job gasLimit => [(job, gasLimit)]
  | _ => []

/-- A transaction that was sent is polled for. -/
def pollingOf : (op : PipelineOp ρ) → op.Reply → ℕ
  | .executeLiquidation .., .ok _ => 1
  | _, _ => 0

namespace EngineTasks

/-- After the last `start_*` function. -/
def initial : EngineTasks ρ where
  main := .untilSignal
  running := fun _ => true
  loop := .unspawned
  evaluations := []
  scheduling := false
  detached := 0
  executions := []

def stop (s : EngineTasks ρ) (service : Service) : Service → Bool :=
  fun k => if k = service then false else s.running k

/-- One step of a task. A service may end at any time, with an error or a panic before the signal.
At most `limit` evaluations hold a permit. -/
inductive Step (limit : ℕ) : EngineTasks ρ → EngineTasks ρ → Prop where
  /-- The registered task of the pipeline calls `start_pipeline` and ends. -/
  | startPipeline (s : EngineTasks ρ) (hrunning : s.running .pipelineEngine = true) :
      Step limit s { s with running := s.stop .pipelineEngine, loop := .selecting }
  | serviceEnds (s : EngineTasks ρ) (service : Service) (hother : service ≠ .pipelineEngine)
      (hrunning : s.running service = true) :
      Step limit s { s with running := s.stop service }
  | receive (s : EngineTasks ρ) (payload : LiqPayload ρ) (hloop : s.loop = .selecting) :
      Step limit s { s with loop := .acquiring payload }
  | acquire (s : EngineTasks ρ) (payload : LiqPayload ρ) (hloop : s.loop = .acquiring payload)
      (hpermit : s.evaluations.countP evaluating < limit) :
      Step limit s { s with
        loop := .selecting
        evaluations := s.evaluations ++ [processPayload payload] }
  | loopEnds (s : EngineTasks ρ) (hloop : s.loop = .selecting) (hsignal : s.main ≠ .untilSignal) :
      Step limit s { s with loop := .ended }
  | call (s : EngineTasks ρ) (before after : List (Program (ports ρ) Empty Unit))
      (op : PipelineOp ρ) (next : op.Reply → Program (ports ρ) Empty Unit) (reply : op.Reply)
      (htask : s.evaluations = before ++ .call op next :: after) :
      Step limit s { s with
        evaluations := before ++ next reply :: after
        detached := s.detached + pollingOf op reply
        executions := s.executions ++ executionOf op }
  | panics (s : EngineTasks ρ) (before after : List (Program (ports ρ) Empty Unit))
      (task : Program (ports ρ) Empty Unit) (htask : s.evaluations = before ++ task :: after)
      (hrunning : evaluating task = true) :
      Step limit s { s with evaluations := before ++ .ret () :: after }
  /-- The pruner spawns a maintenance task. -/
  | maintenance (s : EngineTasks ρ) (hrunning : s.running .watchlistPruner = true) :
      Step limit s { s with detached := s.detached + 1 }
  /-- The profit distributor starts the cron scheduler. -/
  | schedules (s : EngineTasks ρ) (hrunning : s.running .profitDistributor = true) :
      Step limit s { s with scheduling := true }
  /-- The scheduler starts a settlement. Its jobs outlive it. -/
  | cronJob (s : EngineTasks ρ) (hscheduling : s.scheduling = true) :
      Step limit s { s with detached := s.detached + 1 }
  /-- The profit distributor asks for this at the signal, and ignores an error of it. -/
  | schedulerStops (s : EngineTasks ρ) (hscheduling : s.scheduling = true)
      (hsignal : s.main ≠ .untilSignal) :
      Step limit s { s with scheduling := false }
  | detachedEnds (s : EngineTasks ρ) (n : ℕ) (hdetached : s.detached = n + 1) :
      Step limit s { s with detached := n }
  | signal (s : EngineTasks ρ) (hmain : s.main = .untilSignal) :
      Step limit s { s with main := .shuttingDown Service.registered }
  | join (s : EngineTasks ρ) (service : Service) (handles : List Service)
      (hmain : s.main = .shuttingDown (service :: handles)) (hended : s.running service = false) :
      Step limit s { s with main := .shuttingDown handles }
  | returns (s : EngineTasks ρ) (hmain : s.main = .shuttingDown []) :
      Step limit s { s with main := .returned }

/-! ### What is waited for -/

/-- The tasks that are not registered have ended. -/
structure UnregisteredEnded (s : EngineTasks ρ) : Prop where
  loop : s.loop = .ended
  evaluations : ∀ task ∈ s.evaluations, task = .ret ()
  scheduling : s.scheduling = false
  detached : s.detached = 0

/-- After `shutdown_all_tasks` every task has ended, and nothing is executed from then on. -/
def ShutdownWaits (limit : ℕ) (s : EngineTasks ρ) : Prop :=
  s.main = .returned → (∀ service, s.running service = false) ∧ s.UnregisteredEnded ∧
    ∀ s', Run (Step limit) s s' → s'.executions = s.executions

/-- A step in which `shutdown_all_tasks` returns finds the unregistered tasks ended. -/
def ReturnsLast (s s' : EngineTasks ρ) : Prop :=
  s.main ≠ .returned → s'.main = .returned → s.UnregisteredEnded

/-- The registered tasks whose handles are gone have ended. -/
def JoinedEnded (s : EngineTasks ρ) : Prop :=
  match s.main with
  | .untilSignal => True
  | .shuttingDown handles => ∀ service, service ∈ handles ∨ s.running service = false
  | .returned => ∀ service, s.running service = false

variable {limit : ℕ} {s s' : EngineTasks ρ}

lemma mem_registered (service : Service) : service ∈ Service.registered := by
  cases service <;> decide

lemma JoinedEnded.mem_or_ended {handles : List Service} (h : s.JoinedEnded)
    (hmain : s.main = .shuttingDown handles) (service : Service) :
    service ∈ handles ∨ s.running service = false := by
  rw [JoinedEnded, hmain] at h
  exact h service

/-- With no handle left every registered task has ended. -/
lemma JoinedEnded.ended (h : s.JoinedEnded) (hmain : s.main = .shuttingDown [])
    (service : Service) : s.running service = false :=
  (h.mem_or_ended hmain service).resolve_left List.not_mem_nil

/-- The end of a service keeps it. -/
lemma JoinedEnded.stop (h : s.JoinedEnded) (service : Service) :
    JoinedEnded { s with running := s.stop service } := by
  have hkeep : ∀ k, s.running k = false → s.stop service k = false := by
    intro k hk
    rw [EngineTasks.stop, hk, ite_self]
  unfold JoinedEnded at h ⊢
  cases hmain : s.main with
  | untilSignal => trivial
  | shuttingDown handles =>
    rw [hmain] at h
    exact fun k => (h k).imp_right (hkeep k)
  | returned =>
    rw [hmain] at h
    exact fun k => hkeep k (h k)

lemma joinedEnded_step : Preserves (Step limit) (JoinedEnded (ρ := ρ)) := by
  intro s s' hstep h
  cases hstep with
  | startPipeline hrunning => exact h.stop .pipelineEngine
  | serviceEnds service hother hrunning => exact h.stop service
  | signal hmain => exact fun service => Or.inl (mem_registered service)
  | join service handles hmain hended =>
    intro k
    rcases h.mem_or_ended hmain k with hmem | hk
    · rcases List.mem_cons.mp hmem with rfl | hmem
      · exact Or.inr hended
      · exact Or.inl hmem
    · exact Or.inr hk
  | returns hmain => exact h.ended hmain
  | _ => exact h

/-- The only step that returns. -/
lemma eq_of_returns (hstep : Step limit s s') (hmain : s.main ≠ .returned)
    (hmain' : s'.main = .returned) :
    s.main = .shuttingDown [] ∧ s' = { s with main := .returned } := by
  cases hstep with
  | returns hhandles => exact ⟨hhandles, rfl⟩
  | signal hsignal => cases hmain'
  | join service handles hhandles hended => cases hmain'
  | _ => exact absurd hmain' hmain

/-- When every task has ended, nothing is left to do. -/
lemma not_step_of_ended (hmain : s.main = .returned)
    (hservices : ∀ service, s.running service = false) (hended : s.UnregisteredEnded) :
    ¬ Step limit s s' := by
  intro hstep
  cases hstep with
  | startPipeline hrunning => simp [hservices] at hrunning
  | serviceEnds service hother hrunning => simp [hservices] at hrunning
  | maintenance hrunning => simp [hservices] at hrunning
  | schedules hrunning => simp [hservices] at hrunning
  | cronJob hscheduling => simp [hended.scheduling] at hscheduling
  | schedulerStops hscheduling hsignal => simp [hended.scheduling] at hscheduling
  | receive payload hloop => simp [hended.loop] at hloop
  | acquire payload hloop hpermit => simp [hended.loop] at hloop
  | loopEnds hloop hsignal => simp [hended.loop] at hloop
  | call before after op next reply htask =>
    have htask' := hended.evaluations (.call op next) (by simp [htask])
    cases htask'
  | panics before after task htask hrunning =>
    rw [hended.evaluations task (by simp [htask])] at hrunning
    cases hrunning
  | detachedEnds n hdetached => simp [hended.detached] at hdetached
  | signal hmain' => simp [hmain] at hmain'
  | join service handles hmain' hended => simp [hmain] at hmain'
  | returns hmain' => simp [hmain] at hmain'

/-- Returning after the unregistered tasks is returning after all of them. -/
lemma shutdownWaits_of_returnsLast (hjoined : s.JoinedEnded) (hstep : Step limit s s')
    (hlast : ReturnsLast s s') (hwaits : s.ShutdownWaits limit) : s'.ShutdownWaits limit := by
  intro hmain'
  by_cases hmain : s.main = .returned
  · obtain ⟨hservices, hended, -⟩ := hwaits hmain
    exact absurd hstep (not_step_of_ended hmain hservices hended)
  · have hended := hlast hmain hmain'
    obtain ⟨hhandles, rfl⟩ := eq_of_returns hstep hmain hmain'
    have hservices := hjoined.ended hhandles
    have hended' : UnregisteredEnded { s with main := .returned } :=
      ⟨hended.loop, hended.evaluations, hended.scheduling, hended.detached⟩
    refine ⟨hservices, hended', fun s'' hrun => ?_⟩
    rcases hrun.cases_head with rfl | ⟨s₁, hfirst, -⟩
    · rfl
    · exact absurd hfirst (not_step_of_ended rfl hservices hended')

end EngineTasks

open EngineTasks

/-- In a run in which `shutdown_all_tasks` returns only after the unregistered tasks have ended, it
has waited for every task and nothing is executed afterwards; and where it returns before, it has
not. -/
theorem shutdownWaits_iff (ρ : Type) (limit : ℕ) :
    (∀ s : EngineTasks ρ, Run (Restrict (EngineTasks.Step limit) ReturnsLast) .initial s →
      s.ShutdownWaits limit) ∧
    ∀ s s' : EngineTasks ρ, Run (EngineTasks.Step limit) .initial s → EngineTasks.Step limit s s' →
      ¬ ReturnsLast s s' → ¬ s'.ShutdownWaits limit := by
  constructor
  · intro s hrun
    have hjoined : (EngineTasks.initial : EngineTasks ρ).JoinedEnded := trivial
    exact run_restrict joinedEnded_step (fun _ _ => shutdownWaits_of_returnsLast) hjoined nofun hrun
  · intro s s' _ hstep hlast hwaits
    simp only [ReturnsLast, Classical.not_imp] at hlast
    obtain ⟨hmain, hmain', hrunning⟩ := hlast
    obtain ⟨-, hended, -⟩ := hwaits hmain'
    obtain ⟨-, rfl⟩ := eq_of_returns hstep hmain hmain'
    exact hrunning ⟨hended.loop, hended.evaluations, hended.scheduling, hended.detached⟩

/-! ### Sample shutdowns -/

section
variable {limit : ℕ} {s s' : EngineTasks ρ}

lemma returnsLast_of_ne (h : s'.main ≠ .returned) : ReturnsLast s s' := fun _ h' => absurd h' h

/-- The services end one after the other. -/
lemma run_services (hmain : s.main ≠ .returned) (services : List Service)
    (hother : ∀ service ∈ services, service ≠ .pipelineEngine) :
    Run (Restrict (EngineTasks.Step limit) ReturnsLast) s
      { s with running := fun k => if k ∈ services then false else s.running k } := by
  induction services generalizing s with
  | nil => simpa using Relation.ReflTransGen.refl
  | cons service services ih =>
    have hother' := fun k hk => hother k (List.mem_cons_of_mem service hk)
    have hrest (k : Service) : (if k ∈ services then false else s.stop service k)
        = if k ∈ service :: services then false else s.running k := by
      by_cases hk : k = service <;> simp [EngineTasks.stop, hk]
    cases hrunning : s.running service with
    | true =>
      have hstep : EngineTasks.Step limit s { s with running := s.stop service } :=
        .serviceEnds s service (hother service List.mem_cons_self) hrunning
      have hrun := ih (s := { s with running := s.stop service }) hmain hother'
      simp only [hrest] at hrun
      exact .head ⟨hstep, returnsLast_of_ne hmain⟩ hrun
    | false =>
      have hstop : s.stop service = s.running := by
        funext k
        by_cases hk : k = service <;> simp [EngineTasks.stop, hk, hrunning]
      have hrun := ih hmain hother'
      rw [← hstop] at hrun
      simpa only [hrest] using hrun

/-- The handles of ended services are waited for one after the other. -/
lemma run_handles {handles : List Service} (hmain : s.main = .shuttingDown handles)
    (hended : ∀ service, s.running service = false) :
    Run (Restrict (EngineTasks.Step limit) ReturnsLast) s { s with main := .shuttingDown [] } := by
  induction handles generalizing s with
  | nil => rw [← hmain]
  | cons service handles ih =>
    exact .head ⟨.join s service handles hmain (hended service), returnsLast_of_ne nofun⟩
      (ih (s := { s with main := .shuttingDown handles }) rfl hended)

/-- Once the pipeline's registered task is over, the other services can end and be waited for. -/
lemma run_joined (hmain : s.main = .untilSignal) (hpipeline : s.running .pipelineEngine = false) :
    Run (Restrict (EngineTasks.Step limit) ReturnsLast) s
      { s with main := .shuttingDown [], running := fun _ => false } := by
  have hservices : Run (Restrict (EngineTasks.Step limit) ReturnsLast) s _ := run_services
    (by simp [hmain]) [.protocolScanner, .aaveWatchlistUpdater, .morphoWatchlistUpdater,
      .watchlistPruner, .profitDistributor, .liqDataExtractor, .blockWatcher] (by decide)
  have hall : (fun k => if k ∈ [Service.protocolScanner, .aaveWatchlistUpdater,
      .morphoWatchlistUpdater, .watchlistPruner, .profitDistributor, .liqDataExtractor,
      .blockWatcher] then false else s.running k) = fun _ => false := by
    funext k
    cases k <;> simp [hpipeline]
  rw [hall] at hservices
  have hsignal := hservices.tail ⟨.signal _ hmain, returnsLast_of_ne nofun⟩
  exact hsignal.trans (run_handles rfl fun _ => rfl)

/-- An evaluation goes through the calls of any of its traces. -/
lemma run_of_trace {p : Program (ports ρ) Empty Unit} {t : List (Event (ports ρ))}
    (ht : p.Trace t (.ok ())) (htask : s.evaluations = [p]) :
    ∃ n, Run (EngineTasks.Step limit) s { s with
      evaluations := [.ret ()]
      detached := n
      executions := s.executions ++ t.flatMap fun e => executionOf e.op } := by
  induction p generalizing s t with
  | ret a =>
    obtain ⟨rfl, -⟩ := ht
    refine ⟨s.detached, ?_⟩
    rw [List.flatMap_nil, List.append_nil, ← htask]
  | fail e => cases e
  | call op next ih =>
    obtain ⟨reply, t', rfl, ht'⟩ := ht
    obtain ⟨n, hrun⟩ := ih reply ht' (s := { s with
      evaluations := [next reply]
      detached := s.detached + pollingOf op reply
      executions := s.executions ++ executionOf op }) rfl
    refine ⟨n, .head (.call s [] [] op next reply htask) ?_⟩
    simpa [List.append_assoc] using hrun

end

/-- A shutdown before any payload and after a settlement: the receive loop ends, then
`shutdown_all_tasks` returns. -/
theorem shutdownWaits_iff_sample : ∃ s : EngineTasks Unit,
    s.main = .returned ∧ Run (EngineTasks.Step 10) .initial s ∧ s.ShutdownWaits 10 := by
  have hstart : EngineTasks.Step 10 (EngineTasks.initial : EngineTasks Unit) _ :=
    .startPipeline _ rfl
  have hstarted := Relation.ReflTransGen.single (r := Restrict (EngineTasks.Step 10) ReturnsLast)
    ⟨hstart, returnsLast_of_ne nofun⟩
  have hsettling := (hstarted.tail ⟨.schedules _ rfl, returnsLast_of_ne nofun⟩).tail
    ⟨.cronJob _ rfl, returnsLast_of_ne nofun⟩
  have hsettled := hsettling.tail ⟨.detachedEnds _ 0 rfl, returnsLast_of_ne nofun⟩
  have hjoined := hsettled.trans (run_joined rfl rfl)
  have hended := (hjoined.tail ⟨.schedulerStops _ rfl nofun, returnsLast_of_ne nofun⟩).tail
    ⟨.loopEnds _ rfl nofun, returnsLast_of_ne nofun⟩
  have hrun := hended.tail ⟨.returns _ rfl, fun _ _ =>
    ⟨rfl, by simp [EngineTasks.initial], rfl, rfl⟩⟩
  exact ⟨_, rfl, Run.of_restrict hrun, (shutdownWaits_iff Unit 10).1 _ hrun⟩

/-- `shutdown_all_tasks` has returned while the loop listens and an evaluation is under way. -/
def sampleReturned : EngineTasks Unit where
  main := .returned
  running := fun _ => false
  loop := .selecting
  evaluations := [processPayload samplePayload]
  scheduling := false
  detached := 0
  executions := []

/-- It returns with an evaluation under way, which then executes a liquidation. -/
theorem shutdownWaits_fails :
    ¬ ∀ s : EngineTasks Unit, Run (EngineTasks.Step 10) .initial s → s.ShutdownWaits 10 := by
  intro h
  have hstart : EngineTasks.Step 10 (EngineTasks.initial : EngineTasks Unit) _ :=
    .startPipeline _ rfl
  have hspawned := ((Relation.ReflTransGen.single hstart).tail (.receive _ samplePayload rfl)).tail
    (.acquire _ samplePayload rfl (by decide))
  have hreturned : Run (EngineTasks.Step 10) .initial sampleReturned :=
    (hspawned.trans (Run.of_restrict (run_joined rfl rfl))).tail (.returns _ rfl)
  obtain ⟨-, -, hnothing⟩ := h sampleReturned hreturned rfl
  obtain ⟨n, hrun⟩ := run_of_trace (s := sampleReturned) sampleModeChange_trace rfl
  have hexecutions := congrArg List.length (hnothing _ hrun)
  simp [sampleReturned, sampleModeChangeCalls, executionOf, executeEvent] at hexecutions

end LiqRanger
