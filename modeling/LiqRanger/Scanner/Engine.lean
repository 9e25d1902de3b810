import LiqRanger.Core.Types
import LiqRanger.Transition.System

/-!
# The protocol scanner

The loop of `ProtocolScanner` and the scans that it spawns. The loop waits for whichever comes
first: a shutdown, the end of a scan, or a block number. A scan asks all readers at once and pushes
what they return into the pipeline channel, which takes payloads one by one and may be closed at
the other end. The loop and the scans take their steps in any order.
-/

namespace LiqRanger

open Transition

/-- Execution interval in blocks. -/
def blockInterval : U64 := 3

/-- How far one reader of a scan is. -/
inductive ScanProgress where
  | fetching
  | failed (error : String)
  | streaming (pushed waiting : List BorrowerProfile)
  /-- A push found the channel closed. -/
  | cutOff (pushed waiting : List BorrowerProfile)

namespace ScanProgress

/-- What a reader's answer leaves to do. -/
def fetched : Except String (List BorrowerProfile) → ScanProgress
  | .ok profiles => .streaming [] profiles
  | .error e => .failed e

def isFetching : ScanProgress → Bool
  | .fetching => true
  | _ => false

def isCutOff : ScanProgress → Bool
  | .cutOff .. => true
  | _ => false

/-- Nothing is left to do. -/
def isReturned : ScanProgress → Bool
  | .fetching => false
  | .streaming _ waiting => waiting.isEmpty
  | .failed _ | .cutOff .. => true

/-- The profiles that the reader returned. -/
def profiles : ScanProgress → List BorrowerProfile
  | .fetching | .failed _ => []
  | .streaming pushed waiting | .cutOff pushed waiting => pushed ++ waiting

/-- Those of them that are in the channel. -/
def pushed : ScanProgress → List BorrowerProfile
  | .fetching | .failed _ => []
  | .streaming pushed _ | .cutOff pushed _ => pushed

/-- One move, and the profile that it pushes. -/
inductive Move (channelClosed : Bool) :
    ScanProgress → ScanProgress → Option BorrowerProfile → Prop where
  | fetch (reply : Except String (List BorrowerProfile)) :
      Move channelClosed .fetching (.fetched reply) none
  | push (pushed waiting : List BorrowerProfile) (profile : BorrowerProfile)
      (hopen : channelClosed = false) :
      Move channelClosed (.streaming pushed (profile :: waiting))
        (.streaming (pushed ++ [profile]) waiting) (some profile)
  | cutOff (pushed waiting : List BorrowerProfile) (profile : BorrowerProfile)
      (hclosed : channelClosed = true) :
      Move channelClosed (.streaming pushed (profile :: waiting))
        (.cutOff pushed (profile :: waiting)) none

end ScanProgress

/-- The future of one reader. -/
structure ScanFuture (ρ : Type) where
  reader : ρ
  progress : ScanProgress

/-- How a task of the join set ended. -/
inductive ScanEnd where
  | finished
  | panicked
  | aborted
  deriving DecidableEq

/-- A scan task. -/
structure Scan (ρ : Type) where
  blockNumber : U64
  futures : List (ScanFuture ρ)
  ended : Option ScanEnd

/-- A payload that was pushed, with the scan and the future that pushed it. -/
structure Pushed (ρ : Type) where
  scan : ℕ
  future : ℕ
  payload : LiqPayload ρ

/-- What the loop waits for. -/
inductive LoopPhase where
  | selecting
  /-- The reply to `get_block_number`. -/
  | queryingTip
  /-- The end of the tasks that it aborts. -/
  | aborting
  | stopped

structure Scanner (ρ : Type) where
  phase : LoopPhase
  lastProcessedBlock : U64
  /-- All scans, in the order in which they were started. -/
  scans : List (Scan ρ)
  /-- The scans in the join set: those that were not joined. -/
  tracker : List ℕ
  /-- Everything that was pushed, oldest first. -/
  channel : List (Pushed ρ)
  channelClosed : Bool

variable {ρ : Type}

def Scan.spawn (readers : List ρ) (blockNumber : U64) : Scan ρ where
  blockNumber := blockNumber
  futures := readers.map fun reader => ⟨reader, .fetching⟩
  ended := none

/-- A future of the scan panics while its reader fetches. The scan finishes when all futures have
returned. -/
def Scan.MayEnd (scan : Scan ρ) (phase : LoopPhase) : ScanEnd → Prop
  | .finished => ∀ future ∈ scan.futures, future.progress.isReturned = true
  | .panicked => ∃ future ∈ scan.futures, future.progress.isFetching = true
  | .aborted => phase = .aborting

namespace Scanner

def initial : Scanner ρ where
  phase := .selecting
  lastProcessedBlock := 0
  scans := []
  tracker := []
  channel := []
  channelClosed := false

/-- A block number, from the stream or from the client: too early, skipped because a task is still
in the join set, or the block of the next scan. -/
def processBlock (readers : List ρ) (s : Scanner ρ) (blockNumber : U64) : Scanner ρ :=
  if blockNumber ≤ s.lastProcessedBlock ∨ blockNumber - s.lastProcessedBlock < blockInterval then s
  else if 0 < s.tracker.length then s
  else
    { s with
      lastProcessedBlock := blockNumber
      scans := s.scans ++ [.spawn readers blockNumber]
      tracker := s.tracker ++ [s.scans.length] }

/-- What the loop does with the client's reply to a lag of the stream. -/
def processTip (readers : List ρ) (s : Scanner ρ) : Except String U64 → Scanner ρ
  | .ok blockNumber => processBlock readers { s with phase := .selecting } blockNumber
  | .error _ => { s with phase := .selecting }

/-- One step of the scan with number `k`. -/
inductive ScanStep (k : ℕ) : Scanner ρ → Scanner ρ → Prop where
  | move (s : Scanner ρ) (scan : Scan ρ) (i : ℕ) (future : ScanFuture ρ) (progress : ScanProgress)
      (out : Option BorrowerProfile) (hscan : s.scans[k]? = some scan)
      (hrunning : scan.ended = none) (hfuture : scan.futures[i]? = some future)
      (hmove : ScanProgress.Move s.channelClosed future.progress progress out) :
      ScanStep k s
        { s with
          scans := s.scans.set k
            { scan with futures := scan.futures.set i { future with progress := progress } }
          channel := s.channel ++ (out.map fun profile =>
            ⟨k, i, ⟨profile, future.reader, scan.blockNumber⟩⟩).toList }
  | ended (s : Scanner ρ) (scan : Scan ρ) (how : ScanEnd) (hscan : s.scans[k]? = some scan)
      (hrunning : scan.ended = none) (hhow : scan.MayEnd s.phase how) :
      ScanStep k s { s with scans := s.scans.set k { scan with ended := some how } }

/-- One step of the loop, of a scan or of the other end of the channel. -/
inductive Step (readers : List ρ) : Scanner ρ → Scanner ρ → Prop where
  | scan (s s' : Scanner ρ) (k : ℕ) (hstep : ScanStep k s s') : Step readers s s'
  | closeChannel (s : Scanner ρ) : Step readers s { s with channelClosed := true }
  | shutdown (s : Scanner ρ) (hphase : s.phase = .selecting) :
      Step readers s { s with phase := .aborting }
  /-- An ended task leaves the join set, in the loop or after the tasks were aborted. -/
  | joinNext (s : Scanner ρ) (before after : List ℕ) (k : ℕ) (scan : Scan ρ)
      (hphase : s.phase = .selecting ∨ s.phase = .aborting)
      (htracker : s.tracker = before ++ k :: after) (hscan : s.scans[k]? = some scan)
      (hended : scan.ended ≠ none) : Step readers s { s with tracker := before ++ after }
  | block (s : Scanner ρ) (blockNumber : U64) (hphase : s.phase = .selecting) :
      Step readers s (s.processBlock readers blockNumber)
  | lagged (s : Scanner ρ) (hphase : s.phase = .selecting) :
      Step readers s { s with phase := .queryingTip }
  | tip (s : Scanner ρ) (reply : Except String U64) (hphase : s.phase = .queryingTip) :
      Step readers s (s.processTip readers reply)
  | blocksClosed (s : Scanner ρ) (hphase : s.phase = .selecting) :
      Step readers s { s with phase := .aborting }
  | stop (s : Scanner ρ) (hphase : s.phase = .aborting) (htracker : s.tracker = []) :
      Step readers s { s with phase := .stopped }

/-! ### What is asked of the scanner -/

/-- The blocks for which scans were started. -/
def starts (s : Scanner ρ) : List ℕ := s.scans.map fun scan => scan.blockNumber.toNat

/-- The scan with number `k` is unfinished. -/
def Running (s : Scanner ρ) (k : ℕ) : Prop :=
  ∃ scan, s.scans[k]? = some scan ∧ scan.ended = none

/-- What one future of a scan has pushed. -/
def pushedBy (s : Scanner ρ) (k i : ℕ) : List (LiqPayload ρ) :=
  (s.channel.filter fun p => p.scan = k ∧ p.future = i).map Pushed.payload

end Scanner

/-- A payload of a scan: tagged with the reader and with the block number. -/
def Scan.payload (scan : Scan ρ) (reader : ρ) (profile : BorrowerProfile) : LiqPayload ρ :=
  ⟨profile, reader, scan.blockNumber⟩

/-- The scan was aborted, or one of its pushes found the channel closed. -/
def Scan.Excused (scan : Scan ρ) : Prop :=
  scan.ended = some .aborted ∨ ∃ future ∈ scan.futures, future.progress.isCutOff = true

/-- A scan has one future for each reader, and each has pushed exactly the profiles that its reader
returned, in their order and with their tags. -/
structure Scanner.SendsExactly (readers : List ρ) (s : Scanner ρ) (k : ℕ) (scan : Scan ρ) :
    Prop where
  asked : scan.futures.map ScanFuture.reader = readers
  sent : ∀ i future, scan.futures[i]? = some future →
    s.pushedBy k i = future.progress.profiles.map (scan.payload future.reader)
  nothingElse : ∀ p ∈ s.channel, p.scan = k → p.future < scan.futures.length

end LiqRanger
