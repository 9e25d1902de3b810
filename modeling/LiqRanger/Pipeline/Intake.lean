import LiqRanger.Effect.Residual
import LiqRanger.Pipeline.Shutdown
import LiqRanger.Pipeline.Wired
import LiqRanger.Scanner.Properties

/-!
# From a scan to a transaction

The scanner, the bounded channel of payloads, the receive loop with its permits, and the evaluations
of the payloads over the adapters, in any interleaving. Payloads are evaluated in the order in which
they were pushed and once each, and what they lead to goes back to a profile that a reader returned.
-/

namespace LiqRanger

open Effect Transition

variable {ρ : Type}

def queueCapacity : ℕ := 200

/-- The work on one payload: the calls made so far, and what is left of it. -/
structure PayloadTask (ρ : Type) where
  payload : LiqPayload ρ
  calls : List (Event (wiredPorts ρ))
  rest : Program (wiredPorts ρ) Panic (Except Empty Unit)

/-- It is not over, and holds its permit. -/
def PayloadTask.active (evaluation : PayloadTask ρ) : Bool :=
  match evaluation.rest with
  | .call .. => true
  | _ => false

def ReceiveLoop.acquired : ReceiveLoop ρ → List (LiqPayload ρ)
  | .acquiring payload => [payload]
  | .unspawned | .selecting | .ended => []

/-- The payloads that the scans have pushed, oldest first. -/
def Scanner.pushed (s : Scanner ρ) : List (LiqPayload ρ) := s.channel.map Pushed.payload

structure Intake (ρ : Type) where
  shutdown : Bool
  scanner : Scanner ρ
  /-- How many payloads were received from the channel. -/
  taken : ℕ
  loop : ReceiveLoop ρ
  evaluations : List (PayloadTask ρ)

namespace Intake

def initial : Intake ρ where
  shutdown := false
  scanner := .initial
  taken := 0
  loop := .unspawned
  evaluations := []

/-- One step of a task. A push waits until the channel has room, and the channel is closed by the
end of the receive loop only. -/
inductive Step (readers : List ρ) (deployment : Deployment) (limit : ℕ) :
    Intake ρ → Intake ρ → Prop where
  | signalShutdown (s : Intake ρ) : Step readers deployment limit s { s with shutdown := true }
  | scanner (s : Intake ρ) (scanner : Scanner ρ)
      (hstep : Scanner.Step readers s.scanner scanner)
      (hroom : scanner.channel.length ≤ s.taken + queueCapacity)
      (hclosed : scanner.channelClosed = true → s.loop = .ended) :
      Step readers deployment limit s { s with scanner := scanner }
  | startPipeline (s : Intake ρ) (hloop : s.loop = .unspawned) :
      Step readers deployment limit s { s with loop := .selecting }
  | receive (s : Intake ρ) (pushed : Pushed ρ) (hloop : s.loop = .selecting)
      (hpushed : s.scanner.channel[s.taken]? = some pushed) :
      Step readers deployment limit s
        { s with loop := .acquiring pushed.payload, taken := s.taken + 1 }
  | acquire (s : Intake ρ) (payload : LiqPayload ρ) (hloop : s.loop = .acquiring payload)
      (hpermit : s.evaluations.countP PayloadTask.active < limit) :
      Step readers deployment limit s { s with
        loop := .selecting
        evaluations := s.evaluations ++ [⟨payload, [], deployment.processPayload payload⟩] }
  | loopEnds (s : Intake ρ) (hloop : s.loop = .selecting) (hshutdown : s.shutdown = true) :
      Step readers deployment limit s { s with loop := .ended }
  | call (s : Intake ρ) (before after : List (PayloadTask ρ)) (payload : LiqPayload ρ)
      (calls : List (Event (wiredPorts ρ))) (op : (wiredPorts ρ).Op)
      (next : (wiredPorts ρ).Reply op → Program (wiredPorts ρ) Panic (Except Empty Unit))
      (reply : (wiredPorts ρ).Reply op)
      (htask : s.evaluations = before ++ ⟨payload, calls, .call op next⟩ :: after) :
      Step readers deployment limit s { s with
        evaluations := before ++ ⟨payload, calls ++ [⟨op, reply⟩], next reply⟩ :: after }
  /-- A port that is left open may panic. -/
  | panics (s : Intake ρ) (before after : List (PayloadTask ρ)) (evaluation : PayloadTask ρ)
      (p : Panic) (htask : s.evaluations = before ++ evaluation :: after)
      (hactive : evaluation.active = true) :
      Step readers deployment limit s { s with
        evaluations := before ++ { evaluation with rest := .fail p } :: after }

/-! ### What is asked of it -/

/-- The pushed payloads that are in the channel. -/
def waiting (s : Intake ρ) : List (LiqPayload ρ) := s.scanner.pushed.drop s.taken

/-- All transactions that were sent. -/
def sent (s : Intake ρ) : List (Event (wiredPorts ρ)) :=
  (s.evaluations.flatMap PayloadTask.calls).filter isSent

end Intake

/-- A reader returned the profile in a scan. -/
def Scanner.Found (readers : List ρ) (s : Scanner ρ) (payload : LiqPayload ρ) : Prop :=
  ∃ scan ∈ s.scans, ∃ future ∈ scan.futures, future.reader ∈ readers ∧
    ∃ profile ∈ future.progress.profiles, payload = scan.payload future.reader profile

/-- What is known of the work on a payload, at any moment. -/
structure PayloadTask.Safe (deployment : Deployment) (evaluation : PayloadTask ρ) : Prop where
  once : (evaluation.calls.filter isSent).length ≤ 1
  rehearsed : ∀ before tx answer after,
    evaluation.calls = before ++ sentEvent tx answer :: after →
      Rehearsed deployment.revm.keeper tx before ∧
        AsksFor deployment.abi evaluation.payload.profile tx.data

variable {readers : List ρ} {deployment : Deployment} {limit : ℕ}

/-! ### One evaluation -/

namespace PayloadTask

/-- The calls are those of the program of the payload, as far as it is. What is left of the program
is left to do, except after a panic. -/
def UnderWay (deployment : Deployment) (evaluation : PayloadTask ρ) : Prop :=
  ∃ rest, (deployment.processPayload evaluation.payload).After evaluation.calls rest ∧
    (evaluation.rest = rest ∨ ∃ p, evaluation.rest = .fail p)

lemma eq_sentEvent {e : Event (wiredPorts ρ)} (h : isSent e = true) :
    ∃ tx answer, e = sentEvent tx answer := by
  obtain ⟨op, r⟩ := e
  rcases op with scout | (snapshot | evm) | contract
  · cases h
  · cases h
  · cases h
  · cases contract with
    | sendTransaction tx => exact ⟨tx, r, rfl⟩
    | _ => cases h

lemma UnderWay.rehearsed {evaluation : PayloadTask ρ} (h : evaluation.UnderWay deployment)
    {before after : List (Event (wiredPorts ρ))} {tx : Eip1559TransactionRequest}
    {answer : Except String H256}
    (hcalls : evaluation.calls = before ++ sentEvent tx answer :: after) :
    Rehearsed deployment.revm.keeper tx before ∧
      (∀ e ∈ before ++ after, isSent e = false) ∧
      AsksFor deployment.abi evaluation.payload.profile tx.data := by
  obtain ⟨rest, hafter, -⟩ := h
  obtain ⟨v, o, htrace⟩ := hafter.exists_trace
  rw [hcalls, List.append_assoc, List.cons_append] at htrace
  obtain ⟨hrehearsed, hquiet, hasksFor⟩ := rehearsed_of_trace htrace rfl
  rw [← List.append_assoc] at hquiet
  exact ⟨hrehearsed, fun e he => hquiet e (List.mem_append_left v he), hasksFor⟩

lemma UnderWay.once {evaluation : PayloadTask ρ} (h : evaluation.UnderWay deployment) :
    (evaluation.calls.filter isSent).length ≤ 1 := by
  by_cases hquiet : ∀ e ∈ evaluation.calls, isSent e = false
  · rw [List.filter_eq_nil_iff.mpr fun e he => by simp [hquiet e he]]
    exact Nat.zero_le _
  · simp only [not_forall, Bool.not_eq_false] at hquiet
    obtain ⟨e, hmem, hsent⟩ := hquiet
    obtain ⟨tx, answer, rfl⟩ := eq_sentEvent hsent
    obtain ⟨before, after, hcalls⟩ := List.append_of_mem hmem
    have hothers := (h.rehearsed hcalls).2.1
    have hnone : (before ++ after).filter isSent = [] :=
      List.filter_eq_nil_iff.mpr fun e he => by simp [hothers e he]
    rw [List.filter_append, List.append_eq_nil_iff] at hnone
    simp [hcalls, List.filter_append, hsent, hnone]

lemma UnderWay.safe {evaluation : PayloadTask ρ} (h : evaluation.UnderWay deployment) :
    evaluation.Safe deployment where
  once := h.once
  rehearsed _ _ _ _ hcalls := ⟨(h.rehearsed hcalls).1, (h.rehearsed hcalls).2.2⟩

/-- A reply leaves no more evaluations active. -/
lemma countP_active_le {before after : List (PayloadTask ρ)}
    {evaluation evaluation' : PayloadTask ρ} (h : evaluation.active = true) :
    (before ++ evaluation' :: after).countP active ≤
      (before ++ evaluation :: after).countP active := by
  simp only [List.countP_append, List.countP_cons, h, if_true]
  split <;> omega

end PayloadTask

/-! ### The scans -/

namespace Scanner

lemma Delivers.found {s : Scanner ρ} (h : Delivers readers s) {p : Pushed ρ}
    (hp : p ∈ s.channel) : s.Found readers p.payload := by
  obtain ⟨scan, hscan, hlt⟩ := h.known p hp
  have hfuture := List.getElem?_eq_getElem hlt
  have hmem : p.payload ∈ s.pushedBy p.scan p.future :=
    List.mem_map.mpr ⟨p, List.mem_filter.mpr ⟨hp, by simp⟩, rfl⟩
  rw [h.sent _ _ _ _ hscan hfuture, List.mem_map] at hmem
  obtain ⟨profile, hprofile, heq⟩ := hmem
  refine ⟨scan, List.mem_of_getElem? hscan, _, List.mem_of_getElem? hfuture, ?_, profile, ?_,
    heq.symm⟩
  · rw [← h.asked scan (List.mem_of_getElem? hscan)]
    exact List.mem_map_of_mem (List.mem_of_getElem? hfuture)
  · exact (ScanProgress.pushed_prefix_profiles _).subset hprofile

/-- What was pushed stays pushed. -/
lemma Step.pushed_prefix {s s' : Scanner ρ} (h : Step readers s s') : s.pushed <+: s'.pushed := by
  apply List.IsPrefix.map
  rcases h.cases with ⟨k, hscan⟩ | hkeeps | hspawns
  · cases hscan with
    | move => exact List.prefix_append _ _
    | ended => exact List.prefix_rfl
  · exact hkeeps.channel ▸ List.prefix_rfl
  · exact hspawns.channel ▸ List.prefix_rfl

end Scanner

/-! ### Every run -/

namespace Intake

variable {s s' : Intake ρ}

structure Sound (readers : List ρ) (deployment : Deployment) (limit : ℕ) (s : Intake ρ) :
    Prop where
  scanner_run : Run (Scanner.Step readers) .initial s.scanner
  room : s.scanner.pushed.length ≤ s.taken + queueCapacity
  taken_le : s.taken ≤ s.scanner.pushed.length
  fifo : s.evaluations.map PayloadTask.payload ++ s.loop.acquired = s.scanner.pushed.take s.taken
  permits : s.evaluations.countP PayloadTask.active ≤ limit
  under_way : ∀ e ∈ s.evaluations, e.UnderWay deployment

lemma sound_initial : Sound readers deployment limit (initial : Intake ρ) where
  scanner_run := .refl
  room := Nat.zero_le _
  taken_le := Nat.le_refl _
  fifo := rfl
  permits := Nat.zero_le _
  under_way := nofun

/-- Work that goes on is done on the same payloads. -/
lemma Sound.replace (h : Sound readers deployment limit s) {before after : List (PayloadTask ρ)}
    {evaluation evaluation' : PayloadTask ρ} (htask : s.evaluations = before ++ evaluation :: after)
    (hpayload : evaluation'.payload = evaluation.payload) (hactive : evaluation.active = true)
    (hunder : evaluation.UnderWay deployment → evaluation'.UnderWay deployment) :
    Sound readers deployment limit { s with evaluations := before ++ evaluation' :: after } where
  scanner_run := h.scanner_run
  room := h.room
  taken_le := h.taken_le
  fifo := by
    have hfifo := h.fifo
    rw [htask] at hfifo
    simpa [hpayload] using hfifo
  permits := by
    have hpermits := h.permits
    rw [htask] at hpermits
    exact (PayloadTask.countP_active_le hactive).trans hpermits
  under_way := by
    have hall := h.under_way
    rw [htask] at hall
    exact forall_mem_of_part hall hunder

lemma Sound.scanner (h : Sound readers deployment limit s) {scanner : Scanner ρ}
    (hstep : Scanner.Step readers s.scanner scanner)
    (hroom : scanner.channel.length ≤ s.taken + queueCapacity) :
    Sound readers deployment limit { s with scanner := scanner } where
  scanner_run := h.scanner_run.tail hstep
  room := by simpa [Scanner.pushed] using hroom
  taken_le := h.taken_le.trans hstep.pushed_prefix.length_le
  fifo := by
    obtain ⟨new, hnew⟩ := hstep.pushed_prefix
    rw [h.fifo, ← hnew]
    exact (List.take_append_of_le_length h.taken_le).symm
  permits := h.permits
  under_way := h.under_way

lemma Sound.receive (h : Sound readers deployment limit s) {new : Pushed ρ}
    (hloop : s.loop = .selecting) (hnew : s.scanner.channel[s.taken]? = some new) :
    Sound readers deployment limit
      { s with loop := .acquiring new.payload, taken := s.taken + 1 } where
  scanner_run := h.scanner_run
  room := h.room.trans (by simp)
  taken_le := by
    have hlt := (List.getElem?_eq_some_iff.mp hnew).choose
    rwa [Scanner.pushed, List.length_map]
  fifo := by
    have hpushed : s.scanner.pushed[s.taken]? = some new.payload := by simp [Scanner.pushed, hnew]
    have hfifo := h.fifo
    rw [hloop] at hfifo
    simpa [List.take_add_one, hpushed, ReceiveLoop.acquired] using hfifo
  permits := h.permits
  under_way := h.under_way

lemma Sound.acquire (h : Sound readers deployment limit s) {payload : LiqPayload ρ}
    (hloop : s.loop = .acquiring payload)
    (hpermit : s.evaluations.countP PayloadTask.active < limit) :
    Sound readers deployment limit { s with
      loop := .selecting
      evaluations := s.evaluations ++ [⟨payload, [], deployment.processPayload payload⟩] } where
  scanner_run := h.scanner_run
  room := h.room
  taken_le := h.taken_le
  fifo := by
    have hfifo := h.fifo
    rw [hloop] at hfifo
    simpa [ReceiveLoop.acquired] using hfifo
  permits := by
    rw [List.countP_append]
    have hone : List.countP PayloadTask.active
        [⟨payload, [], deployment.processPayload payload⟩] ≤ 1 := List.countP_le_length
    omega
  under_way := by
    rw [List.forall_mem_append, List.forall_mem_singleton]
    exact ⟨h.under_way, _, .start, Or.inl rfl⟩

lemma sound_step : Preserves (Step readers deployment limit) (Sound readers deployment limit) := by
  intro s s' hstep h
  cases hstep with
  | signalShutdown => exact ⟨h.scanner_run, h.room, h.taken_le, h.fifo, h.permits, h.under_way⟩
  | scanner scanner hstep hroom hclosed => exact h.scanner hstep hroom
  | startPipeline hloop =>
    refine ⟨h.scanner_run, h.room, h.taken_le, ?_, h.permits, h.under_way⟩
    have hfifo := h.fifo
    rw [hloop] at hfifo
    exact hfifo
  | receive pushed hloop hpushed => exact h.receive hloop hpushed
  | acquire payload hloop hpermit => exact h.acquire hloop hpermit
  | loopEnds hloop hshutdown =>
    refine ⟨h.scanner_run, h.room, h.taken_le, ?_, h.permits, h.under_way⟩
    have hfifo := h.fifo
    rw [hloop] at hfifo
    exact hfifo
  | call before after payload calls op next reply htask =>
    refine h.replace htask ?_ rfl ?_
    · rfl
    · rintro ⟨rest, hafter, rfl | ⟨p, hfail⟩⟩
      · exact ⟨_, hafter.call reply, Or.inl rfl⟩
      · cases hfail
  | panics before after evaluation p htask hactive =>
    refine h.replace htask ?_ hactive ?_
    · rfl
    · rintro ⟨rest, hafter, -⟩
      exact ⟨rest, hafter, Or.inr ⟨p, rfl⟩⟩

/-- At most one transaction for each evaluation. -/
lemma Sound.length_sent_le (h : Sound readers deployment limit s) :
    s.sent.length ≤ s.evaluations.length := by
  rw [sent]
  have hall := h.under_way
  generalize s.evaluations = evaluations at hall ⊢
  induction evaluations with
  | nil => exact Nat.le_refl 0
  | cons evaluation evaluations ih =>
    rw [List.forall_mem_cons] at hall
    have honce := hall.1.once
    have hrest := ih hall.2
    simp only [List.flatMap_cons, List.filter_append, List.length_append, List.length_cons]
    omega

/-- An evaluation is carried on to the end of a trace, with no step of the scanner. -/
lemma run_trace (before after : List (PayloadTask ρ)) {payload : LiqPayload ρ}
    {calls u : List (Event (wiredPorts ρ))}
    {rest : Program (wiredPorts ρ) Panic (Except Empty Unit)}
    {o : Except Panic (Except Empty Unit)} (h : rest.Trace u o)
    (htask : s.evaluations = before ++ ⟨payload, calls, rest⟩ :: after) :
    Run (Restrict (Step readers deployment limit) fun s s' => s'.scanner = s.scanner) s { s with
      evaluations := before ++ ⟨payload, calls ++ u, Program.ofExcept o⟩ :: after } := by
  induction rest generalizing s calls u with
  | ret a =>
    obtain ⟨rfl, rfl⟩ := h
    rw [List.append_nil, Program.ofExcept, ← htask]
  | fail p =>
    obtain ⟨rfl, rfl⟩ := h
    rw [List.append_nil, Program.ofExcept, ← htask]
  | call op next ih =>
    obtain ⟨reply, u, rfl, h⟩ := h
    refine .head ⟨.call s before after payload calls op next reply htask, rfl⟩ ?_
    have hrest := ih (s := { s with
      evaluations := before ++ ⟨payload, calls ++ [⟨op, reply⟩], next reply⟩ :: after }) reply h rfl
    rwa [List.append_assoc, List.singleton_append] at hrest

/-- One reader in a scan of block 500, and what it has pushed. -/
def sampleScanning (progress : ScanProgress) (sent : List BorrowerProfile) : Scanner Unit where
  phase := .selecting
  lastProcessedBlock := 500
  scans := [⟨500, [⟨(), progress⟩], none⟩]
  tracker := [0]
  channel := sent.map fun profile => ⟨0, 0, ⟨profile, (), 500⟩⟩
  channelClosed := false

def sampleIntake (progress : ScanProgress) (sent : List BorrowerProfile) (taken : ℕ)
    (loop : ReceiveLoop Unit) (evaluations : List (PayloadTask Unit)) : Intake Unit :=
  ⟨false, sampleScanning progress sent, taken, loop, evaluations⟩

lemma sampleIntake_move {progress progress' : ScanProgress} {out : Option BorrowerProfile}
    (hmove : ScanProgress.Move false progress progress' out) :
    Step [()] deployment limit (sampleIntake progress [] 0 .selecting [])
      (sampleIntake progress' out.toList 0 .selecting []) := by
  have hstep : Scanner.ScanStep 0 (sampleScanning progress []) (sampleScanning progress'
      out.toList) := by
    have hmoved := Scanner.ScanStep.move (k := 0) (sampleScanning progress [])
      ⟨500, [⟨(), progress⟩], none⟩ 0 ⟨(), progress⟩ progress' out rfl rfl rfl hmove
    cases out <;> exact hmoved
  refine .scanner (sampleIntake progress [] 0 .selecting []) _ (.scan _ _ 0 hstep) ?_ nofun
  cases out <;> simp [sampleScanning, sampleIntake, queueCapacity]

/-- The reader returns one profile, which is pushed and evaluated. -/
lemma sampleIntake_run : Run (Step [()] deployment 1) initial
    (sampleIntake (.streaming [sampleScan] []) [sampleScan] 1 .selecting
      [⟨samplePayload, [], deployment.processPayload samplePayload⟩]) := by
  refine .head (.startPipeline initial rfl) ?_
  refine .head (.scanner _ (sampleScanning .fetching []) (.block _ 500 rfl) (Nat.zero_le _)
    nofun) ?_
  refine .head (sampleIntake_move (.fetch (.ok [sampleScan]))) ?_
  refine .head (sampleIntake_move (.push [] [] sampleScan rfl)) ?_
  refine .head (.receive _ ⟨0, 0, samplePayload⟩ rfl rfl) ?_
  exact .single (.acquire (sampleIntake (.streaming [sampleScan] []) [sampleScan] 1
    (.acquiring samplePayload) []) samplePayload rfl (Nat.lt_succ_self 0))

end Intake

end LiqRanger
