import LiqRanger.Channel.Broadcast
import LiqRanger.Watchlist.Pruner

/-!
# Blocks on their way to the pruner

`BlockWatcher` together with the channel of heights that it fills and with the pruner that reads
them, as they are started: the watcher last, when the receiver of the pruner is there. The three and
the signal to shut down take their steps in any order. The watcher never stops for another reason
than that signal, and no height is lost but in a lag.
-/

namespace LiqRanger

open Transition
open Broadcast (Received receive Accounts messages missed withGaps)

def channelCapacity : ℕ := 64

/-- Where the loop of the watcher is. -/
inductive WatcherPhase where
  | checking
  | subscribing
  /-- Five seconds after a failed subscription. -/
  | sleeping
  | streaming
  | stopped
  deriving DecidableEq

/-- What the pruner does with what it is handed. -/
def WatchListPruner.onReceived (s : WatchListPruner) : Received U64 → WatchListPruner
  | .message blockNumber => { s with handled := s.handled ++ [s.handleBlock blockNumber] }
  | .lagged _ => s
  | .closed => { s with phase := .stopped (.error "Block stream closed") }

structure BlockFeed where
  shutdown : Bool
  watcher : WatcherPhase
  /-- The heights of all blocks that the node has streamed, where it gave them. -/
  blocks : List (Option U64)
  /-- What was sent to the channel, oldest first. -/
  sent : List U64
  pruner : WatchListPruner
  /-- The position of the pruner's receiver, and what it was handed. -/
  next : ℕ
  received : List (Received U64)

namespace BlockFeed

def initial : BlockFeed where
  shutdown := false
  watcher := .checking
  blocks := []
  sent := []
  pruner := .new
  next := 0
  received := []

/-- The watcher holds the only sender. -/
def closed (s : BlockFeed) : Bool := s.watcher = .stopped

inductive Step : BlockFeed → BlockFeed → Prop where
  | signalShutdown (s : BlockFeed) : Step s { s with shutdown := true }
  | check (s : BlockFeed) (hwatcher : s.watcher = .checking) :
      Step s { s with watcher := if s.shutdown then .stopped else .subscribing }
  | subscribed (s : BlockFeed) (hwatcher : s.watcher = .subscribing) :
      Step s { s with watcher := .streaming }
  | subscribeFailed (s : BlockFeed) (hwatcher : s.watcher = .subscribing) :
      Step s { s with watcher := .sleeping }
  | slept (s : BlockFeed) (hwatcher : s.watcher = .sleeping) :
      Step s { s with watcher := .checking }
  | block (s : BlockFeed) (number : Option U64) (hwatcher : s.watcher = .streaming) :
      Step s { s with blocks := s.blocks ++ [number], sent := s.sent ++ number.toList }
  | streamEnded (s : BlockFeed) (hwatcher : s.watcher = .streaming) :
      Step s { s with watcher := .checking }
  | watcherShutdown (s : BlockFeed) (hwatcher : s.watcher = .streaming)
      (hshutdown : s.shutdown = true) : Step s { s with watcher := .stopped }
  | receive (s : BlockFeed) (r : Received U64) (next' : ℕ)
      (hphase : s.pruner.phase = .selecting)
      (hreceive : Broadcast.receive channelCapacity s.sent s.closed s.next = some (r, next')) :
      Step s { s with
        pruner := s.pruner.onReceived r, next := next', received := s.received ++ [r] }
  | prunerShutdown (s : BlockFeed) (hphase : s.pruner.phase = .selecting)
      (hshutdown : s.shutdown = true) :
      Step s { s with pruner := { s.pruner with phase := .stopped (.ok ()) } }
  /-- A maintenance task sends a prune. -/
  | maintenance (s : BlockFeed) (before after : List HandledHeight) (height : U64)
      (protocol : Protocol) (sent waiting : List Protocol)
      (htask : s.pruner.handled = before ++ ⟨height, some ⟨sent, protocol :: waiting⟩⟩ :: after) :
      Step s { s with pruner := { s.pruner with
        handled := before ++ ⟨height, some ⟨sent ++ [protocol], waiting⟩⟩ :: after } }

/-! ### The pruner of a feed -/

variable {s s' : BlockFeed}

lemma onReceived_step {p : WatchListPruner} (hphase : p.phase = .selecting) (r : Received U64) :
    WatchListPruner.Step p (p.onReceived r) := by
  cases r with
  | message blockNumber => exact .block p blockNumber hphase
  | lagged n => exact .lagged p hphase
  | closed => exact .closed p hphase

/-- The pruner of a feed does what a pruner does. -/
lemma run_pruner (hrun : Run Step initial s) : Run WatchListPruner.Step .new s.pruner := by
  have hkeep : Preserves Step fun s => Run WatchListPruner.Step .new s.pruner := by
    intro s s' hstep h
    cases hstep with
    | receive r next' hphase => exact h.tail (onReceived_step hphase r)
    | prunerShutdown hphase => exact h.tail (.shutdown _ hphase)
    | maintenance before after height protocol sent waiting htask =>
      exact h.tail (.send _ before after height protocol sent waiting htask)
    | _ => exact h
  exact hkeep.run hrun .refl

/-- What holds of every feed: the heights that were handled are the messages handed over, these
account for the heights of the blocks, and a channel is closed only after a shutdown. -/
structure Sound (s : BlockFeed) : Prop where
  sent_eq : s.sent = s.blocks.filterMap id
  accounts : Accounts s.sent s.received s.next
  heights_eq : s.pruner.handled.map HandledHeight.height = messages s.received
  stopped : s.watcher = .stopped → s.shutdown = true
  ended : ∀ e, s.pruner.phase = .stopped (.error e) →
    s.watcher = .stopped ∧ s.next = s.sent.length

lemma heights_onReceived (p : WatchListPruner) (r : Received U64) :
    (p.onReceived r).handled.map HandledHeight.height =
      p.handled.map HandledHeight.height ++ messages [r] := by
  cases r <;> simp [WatchListPruner.onReceived, WatchListPruner.handleBlock, messages]

/-- The watcher moves on, while nobody has been told of the end yet. -/
lemma Sound.watcher (h : Sound s) (hrunning : s.watcher ≠ .stopped) (watcher : WatcherPhase)
    (hwatcher : watcher = .stopped → s.shutdown = true) : Sound { s with watcher := watcher } where
  sent_eq := h.sent_eq
  accounts := h.accounts
  heights_eq := h.heights_eq
  stopped := hwatcher
  ended e he := absurd (h.ended e he).1 hrunning

lemma Sound.onReceived (h : Sound s) (hphase : s.pruner.phase = .selecting) {r : Received U64}
    {next' : ℕ} (hreceive : Broadcast.receive channelCapacity s.sent s.closed s.next
      = some (r, next')) :
    Sound { s with
      pruner := s.pruner.onReceived r, next := next', received := s.received ++ [r] } where
  sent_eq := h.sent_eq
  accounts := h.accounts.receive hreceive
  heights_eq := by rw [heights_onReceived, h.heights_eq, Broadcast.messages_append]
  stopped := h.stopped
  ended e he := by
    rcases Broadcast.receive_cases hreceive with ⟨-, -, rfl⟩ | ⟨x, -, rfl, -⟩ |
      ⟨hclosed, hle, rfl, rfl⟩
    · rw [WatchListPruner.onReceived, hphase] at he
      cases he
    · change s.pruner.phase = _ at he
      rw [hphase] at he
      cases he
    · exact ⟨of_decide_eq_true hclosed, h.accounts.next_le.antisymm hle⟩

lemma sound_step : Preserves Step Sound := by
  intro s s' hstep h
  cases hstep with
  | signalShutdown => exact { h with stopped := fun _ => rfl }
  | check hwatcher =>
    refine h.watcher (by simp [hwatcher]) _ fun hstopped => ?_
    by_contra hshutdown
    simp [hshutdown] at hstopped
  | subscribed hwatcher => exact h.watcher (by simp [hwatcher]) _ (by simp)
  | subscribeFailed hwatcher => exact h.watcher (by simp [hwatcher]) _ (by simp)
  | slept hwatcher => exact h.watcher (by simp [hwatcher]) _ (by simp)
  | block number hwatcher =>
    have hrunning : s.watcher ≠ .stopped := by simp [hwatcher]
    refine ⟨?_, h.accounts.append _, h.heights_eq, h.stopped, ?_⟩
    · cases number <;> simp [h.sent_eq]
    · intro e he
      exact absurd (h.ended e he).1 hrunning
  | streamEnded hwatcher => exact h.watcher (by simp [hwatcher]) _ (by simp)
  | watcherShutdown hwatcher hshutdown =>
    exact h.watcher (by simp [hwatcher]) _ fun _ => hshutdown
  | receive r next' hphase hreceive => exact h.onReceived hphase hreceive
  | prunerShutdown hphase hshutdown =>
    refine { h with ended := fun e he => ?_ }
    cases he
  | maintenance before after height protocol sent waiting htask =>
    refine { h with heights_eq := ?_ }
    have hheights := h.heights_eq
    rw [htask] at hheights
    simpa using hheights

lemma sound_of_run (hrun : Run Step initial s) : Sound s :=
  sound_step.run hrun
    { sent_eq := rfl
      accounts := .start
      heights_eq := rfl
      stopped := by simp [initial]
      ended := by simp [initial, WatchListPruner.new] }

/-! ### Sample feeds -/

/-- Nothing is handed to a pruner that is further behind than the channel is long. -/
def KeepsUp (s s' : BlockFeed) : Prop :=
  s'.received ≠ s.received → s.sent.length ≤ s.next + channelCapacity

/-- The heights 49 and 50 were streamed and handled. -/
def sampleFeed : BlockFeed where
  shutdown := false
  watcher := .streaming
  blocks := [some 49, some 50]
  sent := [49, 50]
  pruner := { WatchListPruner.new with
    handled := [WatchListPruner.new.handleBlock 49, WatchListPruner.new.handleBlock 50] }
  next := 2
  received := [.message 49, .message 50]

lemma sampleFeed_run : Run (Restrict Step KeepsUp) initial sampleFeed := by
  have hchecked : Run (Restrict Step KeepsUp) initial { initial with watcher := .subscribing } :=
    .single ⟨.check initial rfl, fun h => absurd rfl h⟩
  have hsubscribed := hchecked.tail ⟨.subscribed _ rfl, fun h => absurd rfl h⟩
  have hfirst := hsubscribed.tail ⟨.block _ (some 49) rfl, fun h => absurd rfl h⟩
  have hsecond := hfirst.tail ⟨.block _ (some 50) rfl, fun h => absurd rfl h⟩
  have hmessage := hsecond.tail ⟨.receive _ (.message 49) 1 rfl rfl, fun _ => by decide⟩
  exact hmessage.tail ⟨.receive _ (.message 50) 2 rfl rfl, fun _ => by decide⟩

/-- The shutdown has stopped the watcher, and the pruner was told of the end. -/
def closedFeed : BlockFeed where
  shutdown := true
  watcher := .stopped
  blocks := sampleFeed.blocks
  sent := sampleFeed.sent
  pruner := { sampleFeed.pruner with phase := .stopped (.error "Block stream closed") }
  next := 2
  received := [.message 49, .message 50, .closed]

lemma closedFeed_run : Run Step initial closedFeed := by
  have hsignal : Run Step initial { sampleFeed with shutdown := true } :=
    (Run.of_restrict sampleFeed_run).tail (.signalShutdown _)
  have hstopped := hsignal.tail (.watcherShutdown _ rfl rfl)
  exact hstopped.tail (.receive _ .closed 2 rfl rfl)

/-- Seventy heights, of which the first is `first + 1`. -/
def laterHeights (first : ℕ) : List U64 :=
  (List.range 70).map fun i => BitVec.ofNat 64 (first + 1 + i)

/-- The height `first` was handled. Seventy more were streamed before the pruner came back: it lost
six of them and handled the next. -/
def laggingFeed (first : ℕ) : BlockFeed where
  shutdown := false
  watcher := .streaming
  blocks := some (BitVec.ofNat 64 first) :: (laterHeights first).map some
  sent := BitVec.ofNat 64 first :: laterHeights first
  pruner := { WatchListPruner.new with
    handled := [WatchListPruner.new.handleBlock (BitVec.ofNat 64 first),
      WatchListPruner.new.handleBlock (BitVec.ofNat 64 (first + 7))] }
  next := 8
  received := [.message (BitVec.ofNat 64 first), .lagged 6,
    .message (BitVec.ofNat 64 (first + 7))]

lemma run_blocks (hwatcher : s.watcher = .streaming) (heights : List U64) :
    Run Step s { s with blocks := s.blocks ++ heights.map some, sent := s.sent ++ heights } := by
  induction heights generalizing s with
  | nil => simpa using (Relation.ReflTransGen.refl : Run Step s s)
  | cons height heights ih =>
    have hblock := Step.block s (some height) hwatcher
    have hrest := Relation.ReflTransGen.head hblock (ih hwatcher)
    simpa using hrest

lemma laggingFeed_run (first : ℕ) : Run Step initial (laggingFeed first) := by
  have hchecked : Run Step initial { initial with watcher := .subscribing } :=
    .single (.check initial rfl)
  have hsubscribed := hchecked.tail (.subscribed _ rfl)
  have hfirst := hsubscribed.tail (.block _ (some (BitVec.ofNat 64 first)) rfl)
  have hhandled := hfirst.tail (.receive _ (.message (BitVec.ofNat 64 first)) 1 rfl rfl)
  have hstreamed := hhandled.trans (run_blocks rfl (laterHeights first))
  have hlagged := hstreamed.tail (.receive _ (.lagged 6) 7 rfl rfl)
  exact hlagged.tail (.receive _ (.message (BitVec.ofNat 64 (first + 7))) 8 rfl rfl)

/-! ### What became of the heights -/

/-- In every run, up to the position of the pruner's receiver, each streamed height was handled, in
the order of the blocks, or is counted in a lag. The pruner ends with an error only after a
shutdown, and then the position is the end of what was streamed. -/
theorem feed_accounted (s : BlockFeed) (hrun : Run Step initial s) :
    s.next = s.pruner.handled.length + missed s.received ∧
      (s.pruner.handled.map HandledHeight.height).Sublist ((s.blocks.filterMap id).take s.next) ∧
      s.next ≤ (s.blocks.filterMap id).length ∧
      ∀ e, s.pruner.phase = .stopped (.error e) →
        s.shutdown = true ∧ s.next = (s.blocks.filterMap id).length := by
  have h := sound_of_run hrun
  have hnext : s.next = s.pruner.handled.length + missed s.received := by
    rw [h.accounts.next_eq, ← h.heights_eq, List.length_map]
  rw [← h.sent_eq, h.heights_eq]
  refine ⟨hnext, h.accounts.sublist, h.accounts.next_le, ?_⟩
  intro e he
  obtain ⟨hstopped, hend⟩ := h.ended e he
  exact ⟨h.stopped hstopped, hend⟩

theorem feed_accounted_sample :
    ((laggingFeed 43).next = 2 + 6 ∧
      [43, 50].Sublist (((laggingFeed 43).blocks.filterMap id).take 8) ∧
      8 ≤ (laggingFeed 43).blocks.length) ∧
    closedFeed.shutdown = true ∧ closedFeed.next = (closedFeed.blocks.filterMap id).length :=
  have hlagging := feed_accounted (laggingFeed 43) (laggingFeed_run 43)
  have hclosed := feed_accounted closedFeed closedFeed_run
  ⟨⟨hlagging.1, hlagging.2.1, hlagging.2.2.1⟩, hclosed.2.2.2 "Block stream closed" rfl⟩

/-! ### Prunes of a feed -/

/-- The streamed heights grow by one. -/
def Consecutive (s : BlockFeed) : Prop :=
  (s.blocks.filterMap id).IsChain fun a b => b.toNat = a.toNat + 1

/-- The lag before a height skips no multiple of the interval, unless the height is one. -/
def LagHarmless (missed : ℕ) (height : U64) : Prop :=
  (∃ k, height.toNat ≤ pruneInterval.toNat * k + missed ∧
    pruneInterval.toNat * k < height.toNat) → pruneInterval.toNat ∣ height.toNat

/-- A height that follows another after a lag steps over no multiple exactly when the lag is
harmless. -/
lemma stepsOnto_iff_lagHarmless {missed : ℕ} {a b : U64} (h : b.toNat = a.toNat + missed + 1) :
    WatchListPruner.StepsOnto pruneInterval.toNat a.toNat b.toNat ↔ LagHarmless missed b := by
  have hpos : 0 < pruneInterval.toNat := by decide
  rw [WatchListPruner.StepsOnto, LagHarmless]
  constructor
  · rintro hsteps ⟨k, hle, hlt⟩
    refine hsteps (lt_of_lt_of_le (b := k) ?_ ?_)
    · rw [Nat.div_lt_iff_lt_mul hpos, Nat.mul_comm]
      omega
    · rw [Nat.le_div_iff_mul_le hpos, Nat.mul_comm]
      exact hlt.le
  · intro hharmless hlt
    by_contra hdvd
    have hle := Nat.mul_div_le b.toNat pruneInterval.toNat
    have hne : pruneInterval.toNat * (b.toNat / pruneInterval.toNat) ≠ b.toNat :=
      fun heq => hdvd ⟨_, heq.symm⟩
    have hbelow : a.toNat < pruneInterval.toNat * (b.toNat / pruneInterval.toNat) := by
      rwa [Nat.div_lt_iff_lt_mul hpos, Nat.mul_comm] at hlt
    exact hdvd (hharmless ⟨b.toNat / pruneInterval.toNat, by omega, by omega⟩)

lemma interval_of_run (hrun : Run Step initial s) : s.pruner.interval = pruneInterval := by
  have hkeep : Preserves WatchListPruner.Step fun p => p.interval = pruneInterval := by
    intro p p' hstep h
    cases hstep <;> exact h
  exact hkeep.run (run_pruner hrun) rfl

lemma heights_eq_map (hrun : Run Step initial s) :
    s.pruner.heights = (withGaps 0 s.received).map fun p => p.2.toNat := by
  have hheights := (sound_of_run hrun).heights_eq
  rw [← Broadcast.withGaps_map_snd 0] at hheights
  have htoNat := congrArg (List.map BitVec.toNat) hheights
  rwa [List.map_map, List.map_map] at htoNat

/-- Along consecutive blocks, a height is followed by the one past what was lost. -/
lemma isChain_withGaps_of_run (hrun : Run Step initial s) (hconsecutive : s.Consecutive) :
    (withGaps 0 s.received).IsChain fun p q => q.2.toNat = p.2.toNat + q.1 + 1 := by
  have h := sound_of_run hrun
  rw [Consecutive, ← h.sent_eq] at hconsecutive
  have hstep : ∀ i a b, s.sent[i]? = some a → s.sent[i + 1]? = some b →
      b.toNat = a.toNat + 1 := by
    intro i a b ha hb
    obtain ⟨hi, rfl⟩ := List.getElem?_eq_some_iff.mp hb
    obtain ⟨_, rfl⟩ := List.getElem?_eq_some_iff.mp ha
    exact List.isChain_iff_getElem.mp hconsecutive i hi
  refine h.accounts.isChain_withGaps (R := fun n a b => b.toNat = a.toNat + n + 1) ?_
  intro i n a b ha hb
  induction n generalizing b with
  | zero => exact hstep i a b ha hb
  | succ n ih =>
    obtain ⟨hlt, -⟩ := List.getElem?_eq_some_iff.mp hb
    have hmid : s.sent[i + n + 1]? = some _ := List.getElem?_eq_getElem (by omega)
    have hlast := hstep (i + n + 1) _ b hmid hb
    rw [hlast, ih _ hmid]
    omega

/-- Along consecutive blocks, the prunes are kept exactly when no lag between two handled heights
skips a multiple of the interval, but for lags that end right before a multiple. What was lost
before the first handled height keeps nothing from being pruned. -/
theorem pruneKept_feed_iff (s : BlockFeed) (hrun : Run Step initial s)
    (hconsecutive : s.Consecutive) :
    s.pruner.PruneKept ↔ ∀ p ∈ (withGaps 0 s.received).tail, LagHarmless p.1 p.2 := by
  have hchain := isChain_withGaps_of_run hrun hconsecutive
  have hsorted : s.pruner.heights.Pairwise (· ≤ ·) := by
    rw [heights_eq_map hrun, ← List.isChain_iff_pairwise, List.isChain_map]
    exact hchain.imp fun p q h => by omega
  have hsound := WatchListPruner.tasksSound_of_run (run_pruner hrun)
  rw [WatchListPruner.pruneKept_iff_stepsOnto hsound hsorted, interval_of_run hrun,
    heights_eq_map hrun, List.isChain_map]
  exact Broadcast.isChain_iff_forall_tail hchain fun p q h => stepsOnto_iff_lagHarmless h

lemma laggingFeed_consecutive {first : ℕ} (hfirst : first + 70 < 2 ^ 64) :
    (laggingFeed first).Consecutive := by
  have hsent : (laggingFeed first).blocks.filterMap id =
      (List.range 71).map fun i => BitVec.ofNat 64 (first + i) := by
    simp [laggingFeed, laterHeights, List.range_succ_eq_map (n := 70), Nat.add_right_comm,
      Nat.add_assoc]
  rw [Consecutive, hsent, List.isChain_map, List.isChain_iff_getElem]
  intro i hi
  rw [List.length_range] at hi
  rw [List.getElem_range, List.getElem_range, BitVec.toNat_ofNat, BitVec.toNat_ofNat,
    Nat.mod_eq_of_lt (by omega), Nat.mod_eq_of_lt (by omega)]
  omega

/-- A lag that ends right before a multiple of the interval loses no prune, and one that skips it
does. -/
theorem pruneKept_feed_iff_sample :
    (laggingFeed 43).pruner.PruneKept ∧ ¬ (laggingFeed 45).pruner.PruneKept := by
  constructor
  · refine (pruneKept_feed_iff (laggingFeed 43) (laggingFeed_run 43)
      (laggingFeed_consecutive (by decide))).mpr ?_
    simp [laggingFeed, withGaps, LagHarmless, pruneInterval]
  · rw [pruneKept_feed_iff (laggingFeed 45) (laggingFeed_run 45)
      (laggingFeed_consecutive (by decide))]
    intro hharmless
    have hskips := hharmless (6, 52) (by simp [laggingFeed, withGaps]) ⟨1, by decide, by decide⟩
    revert hskips
    decide

lemma missed_of_keepsUp (hrun : Run (Restrict Step KeepsUp) initial s) :
    missed s.received = 0 := by
  have hkeep : Preserves (Restrict Step KeepsUp) fun s => missed s.received = 0 := by
    rintro s s' ⟨hstep, hnear⟩ h
    cases hstep with
    | receive r next' hphase hreceive =>
      rw [Broadcast.missed_append, h, Nat.zero_add]
      exact Broadcast.missed_receive hreceive (hnear (by simp))
    | _ => exact h
  exact hkeep.run hrun rfl

/-- A pruner that keeps up handles every streamed height as far as it came, and along consecutive
blocks all prunes are kept. -/
theorem feed_keepsUp (s : BlockFeed) (hrun : Run (Restrict Step KeepsUp) initial s) :
    s.pruner.handled.map HandledHeight.height = (s.blocks.filterMap id).take s.next ∧
      (s.Consecutive → s.pruner.PruneKept) := by
  have hsteps : Run Step initial s := .of_restrict hrun
  have h := sound_of_run hsteps
  have hmissed := missed_of_keepsUp hrun
  constructor
  · rw [h.heights_eq, h.accounts.messages_eq hmissed, h.sent_eq]
  · intro hconsecutive
    refine (pruneKept_feed_iff s hsteps hconsecutive).mpr ?_
    rintro p hp ⟨k, hle, hlt⟩
    have hzero := Broadcast.fst_eq_zero_of_mem_withGaps hmissed p (List.mem_of_mem_tail hp)
    omega

lemma sampleFeed_consecutive : sampleFeed.Consecutive := by
  simp [Consecutive, sampleFeed]

theorem feed_keepsUp_sample :
    sampleFeed.pruner.handled.map HandledHeight.height = [49, 50] ∧ sampleFeed.pruner.PruneKept :=
  ⟨(feed_keepsUp sampleFeed sampleFeed_run).1,
    (feed_keepsUp sampleFeed sampleFeed_run).2 sampleFeed_consecutive⟩

end BlockFeed

end LiqRanger
