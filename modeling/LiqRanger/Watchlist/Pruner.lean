import LiqRanger.Core.Types
import LiqRanger.Transition.System
import Mathlib.Data.List.Chain

/-!
# The pruner

The loop of `WatchListPruner` and the maintenance tasks that it spawns. The loop looks at each
height on its own, so a run keeps its prunes exactly when no height steps over a multiple of the
interval (`pruneKept_iff`). A stream without gaps never does (`pruneKept_of_dense`).
-/

namespace LiqRanger

open Transition

def pruneInterval : U64 := 50

/-- A maintenance task: the updaters that it has sent a prune to, and those that follow. -/
structure Maintenance where
  sent : List Protocol
  waiting : List Protocol

def Maintenance.spawn : Maintenance := ⟨[], [.aave, .morpho]⟩

/-- A height that the loop has handled, with the task that it spawned for it. -/
structure HandledHeight where
  height : U64
  task : Option Maintenance

/-- What the loop does, and the result it returns. -/
inductive PrunerPhase where
  | selecting
  | stopped (result : Except String Unit)

structure WatchListPruner where
  interval : U64
  phase : PrunerPhase
  /-- Oldest first. -/
  handled : List HandledHeight

namespace WatchListPruner

def new : WatchListPruner where
  interval := pruneInterval
  phase := .selecting
  handled := []

def handleBlock (s : WatchListPruner) (blockNumber : U64) : HandledHeight where
  height := blockNumber
  task := if blockNumber % s.interval = 0 then some .spawn else none

/-- One step of the loop or of a task. The outcome of a send is only logged, like a lag of the
stream. -/
inductive Step : WatchListPruner → WatchListPruner → Prop where
  | shutdown (s : WatchListPruner) (hphase : s.phase = .selecting) :
      Step s { s with phase := .stopped (.ok ()) }
  | block (s : WatchListPruner) (blockNumber : U64) (hphase : s.phase = .selecting) :
      Step s { s with handled := s.handled ++ [s.handleBlock blockNumber] }
  | lagged (s : WatchListPruner) (hphase : s.phase = .selecting) : Step s s
  | closed (s : WatchListPruner) (hphase : s.phase = .selecting) :
      Step s { s with phase := .stopped (.error "Block stream closed") }
  | send (s : WatchListPruner) (before after : List HandledHeight) (height : U64)
      (protocol : Protocol) (sent waiting : List Protocol)
      (htask : s.handled = before ++ ⟨height, some ⟨sent, protocol :: waiting⟩⟩ :: after) :
      Step s { s with
        handled := before ++ ⟨height, some ⟨sent ++ [protocol], waiting⟩⟩ :: after }

/-- The heights in the order in which they were handled. -/
def heights (s : WatchListPruner) : List ℕ := s.handled.map fun e => e.height.toNat

end WatchListPruner

/-- A prune for the updater was sent at this height, or its task is about to send it. -/
def HandledHeight.Issued (e : HandledHeight) (protocol : Protocol) : Prop :=
  ∃ task ∈ e.task, protocol ∈ task.sent ++ task.waiting

namespace WatchListPruner

/-- For each multiple of the interval after the first height, by the time the first height from
there on is handled, a prune for each updater was issued at a height from there on. -/
def PruneKept (s : WatchListPruner) : Prop :=
  ∀ k before e after, s.interval.toNat ∣ k → s.handled = before ++ e :: after → before ≠ [] →
    (∀ e' ∈ before, e'.height.toNat < k) → k ≤ e.height.toNat →
    ∀ protocol, ∃ e' ∈ before ++ [e], k ≤ e'.height.toNat ∧ e'.Issued protocol

/-- A height that is the first one past a multiple of the interval is a multiple itself. -/
def StepsOnto (interval a b : ℕ) : Prop := a / interval < b / interval → interval ∣ b

/-! ### Issued prunes -/

/-- A task sends to both updaters, in their order. -/
def TasksSound (s : WatchListPruner) : Prop :=
  ∀ e ∈ s.handled, (e.task.isSome ↔ e.height % s.interval = 0) ∧
    ∀ task ∈ e.task, task.sent ++ task.waiting = [.aave, .morpho]

variable {s s' : WatchListPruner} {e : HandledHeight}

lemma tasksSound_step : Preserves Step TasksSound := by
  intro s s' hstep h
  cases hstep with
  | shutdown hphase => exact h
  | lagged hphase => exact h
  | closed hphase => exact h
  | block blockNumber hphase =>
    intro e he
    rcases List.mem_append.mp he with he | he
    · exact h e he
    · rw [List.mem_singleton.mp he, handleBlock]
      by_cases hzero : blockNumber % s.interval = 0
      · simp [hzero, Maintenance.spawn]
      · simp only [if_neg hzero]
        simpa using hzero
  | send before after height protocol sent waiting htask =>
    rw [TasksSound, htask] at h
    -- the task that sends has the same prunes before and after
    exact forall_mem_of_part h fun hsound => by simpa using hsound

lemma tasksSound_of_run (hrun : Run Step new s) : s.TasksSound :=
  tasksSound_step.run hrun (by simp [TasksSound, new])

/-- Prunes are issued at the multiples of the interval, for both updaters. -/
lemma issued_iff (hsound : s.TasksSound) (he : e ∈ s.handled) (protocol : Protocol) :
    e.Issued protocol ↔ s.interval.toNat ∣ e.height.toNat := by
  obtain ⟨hsome, hboth⟩ := hsound e he
  have hdvd : s.interval.toNat ∣ e.height.toNat ↔ e.height % s.interval = 0 := by
    rw [Nat.dvd_iff_mod_eq_zero, ← BitVec.toNat_umod, ← BitVec.toNat_inj]
    rfl
  rw [hdvd, ← hsome, Option.isSome_iff_exists]
  constructor
  · rintro ⟨task, htask, -⟩
    exact ⟨task, htask⟩
  · rintro ⟨task, htask⟩
    refine ⟨task, htask, ?_⟩
    rw [hboth task htask]
    cases protocol <;> decide

/-! ### Kept prunes -/

/-- Along heights that never decrease, the prunes are kept exactly when every height past a
multiple of the interval is one. -/
lemma pruneKept_iff_stepsOnto (hsound : s.TasksSound) (hsorted : s.heights.Pairwise (· ≤ ·)) :
    s.PruneKept ↔ s.heights.IsChain (StepsOnto s.interval.toNat) := by
  rw [heights, List.isChain_map, List.isChain_iff_forall_rel_of_append_cons_cons]
  rw [heights, List.pairwise_map] at hsorted
  constructor
  · intro hkept a b before after hsplit hstep
    have hpos : 0 < s.interval.toNat := by
      refine Nat.pos_of_ne_zero fun hzero => ?_
      simp [hzero] at hstep
    -- `b` is the first height from the last multiple up to it
    have hlt : a.height.toNat < b.height.toNat / s.interval.toNat * s.interval.toNat :=
      (Nat.div_lt_iff_lt_mul hpos).mp hstep
    have hbefore : ∀ e ∈ before ++ [a],
        e.height.toNat < b.height.toNat / s.interval.toNat * s.interval.toNat := by
      intro e he
      rw [hsplit, List.pairwise_append] at hsorted
      rcases List.mem_append.mp he with he | he
      · exact (hsorted.2.2 e he a List.mem_cons_self).trans_lt hlt
      · rwa [List.mem_singleton.mp he]
    obtain ⟨e, he, hle, hissued⟩ := hkept _ (before ++ [a]) b after (Nat.dvd_mul_left _ _)
      (by simp [hsplit]) (by simp) hbefore (Nat.div_mul_le_self _ _) .aave
    rcases List.mem_append.mp he with he | he
    · exact absurd (hbefore e he) (Nat.not_lt.mpr hle)
    · obtain rfl := List.mem_singleton.mp he
      exact (issued_iff hsound (by simp [hsplit]) .aave).mp hissued
  · rintro hchain k before e after ⟨m, rfl⟩ hsplit hne hbefore hle protocol
    obtain ⟨before, a, rfl⟩ := before.eq_nil_or_concat.resolve_left hne
    have ha : a.height.toNat < s.interval.toNat * m := hbefore a (by simp)
    have hpos : 0 < s.interval.toNat := Nat.pos_of_mul_pos_right (Nat.zero_lt_of_lt ha)
    have hlt : a.height.toNat / s.interval.toNat < e.height.toNat / s.interval.toNat :=
      (Nat.div_lt_of_lt_mul ha).trans_le
        ((Nat.le_div_iff_mul_le hpos).mpr (Nat.mul_comm m _ ▸ hle))
    have hdvd := hchain (a := a) (b := e) (by simpa using hsplit) hlt
    exact ⟨e, by simp, hle, (issued_iff hsound (by simp [hsplit]) protocol).mpr hdvd⟩

end WatchListPruner

open WatchListPruner

/-- In a run whose heights never decrease, the prunes are kept exactly when every height that is
the first one past a multiple of the interval is a multiple itself. -/
theorem pruneKept_iff (s : WatchListPruner) (hrun : Run WatchListPruner.Step .new s)
    (hsorted : s.heights.Pairwise (· ≤ ·)) :
    s.PruneKept ↔ s.heights.IsChain (StepsOnto pruneInterval.toNat) := by
  have hinterval : s.interval = pruneInterval := by
    have hinv : Preserves WatchListPruner.Step fun s => s.interval = pruneInterval := by
      rintro s s' hstep h
      cases hstep <;> exact h
    exact hinv.run hrun rfl
  rw [← hinterval]
  exact pruneKept_iff_stepsOnto (tasksSound_of_run hrun) hsorted

/-- Two heights received one after the other. -/
lemma run_two (a b : U64) : Run WatchListPruner.Step .new
    { WatchListPruner.new with handled := [new.handleBlock a, new.handleBlock b] } :=
  (Relation.ReflTransGen.refl.tail (.block .new a rfl)).tail (.block _ b rfl)

/-- The heights 49 and 50 keep the prune at 50. -/
theorem pruneKept_iff_sample :
    PruneKept { WatchListPruner.new with handled := [new.handleBlock 49, new.handleBlock 50] } := by
  refine (pruneKept_iff _ (run_two 49 50) ?_).mpr ?_
  · simp [heights, handleBlock]
  · simp [heights, handleBlock, StepsOnto, pruneInterval]

/-- The heights 49 and 51 lose the prune at 50. -/
theorem pruneKept_fails :
    ¬ ∀ s : WatchListPruner, Run WatchListPruner.Step .new s → s.heights.Pairwise (· ≤ ·) →
      s.PruneKept := by
  intro h
  have hkept := h _ (run_two 49 51) (by simp [heights, handleBlock])
  rw [pruneKept_iff_stepsOnto (tasksSound_of_run (run_two 49 51)) (by simp [heights, handleBlock])]
    at hkept
  simp [heights, handleBlock, StepsOnto, new, pruneInterval] at hkept

/-- A stream without gaps loses no prune. -/
theorem pruneKept_of_dense {s : WatchListPruner} (hrun : Run WatchListPruner.Step .new s)
    (hsorted : s.heights.Pairwise (· ≤ ·)) (hdense : s.heights.IsChain fun a b => b ≤ a + 1) :
    s.PruneKept := by
  rw [pruneKept_iff_stepsOnto (tasksSound_of_run hrun) hsorted]
  refine hdense.imp fun a b hle hstep => ?_
  -- the quotient grows at a multiple only
  obtain rfl : b = a + 1 :=
    hle.antisymm (Nat.lt_of_not_le fun h => Nat.not_le.mpr hstep (Nat.div_le_div_right h))
  by_contra hdvd
  rw [Nat.succ_div, if_neg hdvd] at hstep
  exact Nat.lt_irrefl _ hstep

end LiqRanger
