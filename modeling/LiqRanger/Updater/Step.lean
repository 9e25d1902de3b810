import LiqRanger.Core.Constants
import LiqRanger.Core.Events
import LiqRanger.Transition.System
import LiqRanger.Watchlist.Calls

/-!
# Watchlist updaters

An updater and the chain it follows. The chain changes debts and appends events to the updater's
streams; the updater takes one event or one prune command at a time, and in between it reads the
chain and changes its list in separate steps. The Aave updater has one stream for all events, the
Morpho updater one for each kind. Debt checks and writes may fail; the streams deliver every
event.
-/

namespace LiqRanger

open Transition

/-- What ends an updater. -/
inductive UpdaterError where
  | identity (e : IdentityError)
  | call (e : String)

/-- What an updater differs in; `ι` are its streams. -/
structure UpdaterConfig (κ ι : Type) where
  kind : ListKind κ
  whitelist : List κ
  streamOf : EventKind → ι
  snapshot : List (Address × List κ) → List Text
  /-- What a check ends with when its debt cannot be read. -/
  debtFailure : String → Except UpdaterError Unit

/-- `check_and_remove_by_identity` under way. -/
inductive CheckAndRemove (κ : Type) where
  | check (identity : Text)
  | remove (call : WatchCall κ)
  | done (result : Except UpdaterError Unit)

/-- What an updater is busy with. -/
inductive UpdaterActivity (κ : Type) where
  | idle
  | adding (call : WatchCall κ)
  | clearing (task : CheckAndRemove κ)
  | pruning (waiting : List Text) (running : List (CheckAndRemove κ))
  | stopped (result : Except UpdaterError Unit)

structure UpdaterState (κ ι : Type) where
  /-- The debts on the chain: variable debt on Aave, borrow shares on Morpho. -/
  debt : Address → κ → ℕ
  /-- The events that each stream has yet to deliver, oldest first. -/
  streams : ι → List (PositionLog κ)
  list : WatchList κ
  activity : UpdaterActivity κ

variable {κ ι : Type} [DecidableEq κ] [DecidableEq ι] (config : UpdaterConfig κ ι) (T : EthersText)

/-! ### The updater -/

/-- One step of a check: the debt read, then the moves of the removal. `hasDebt` is what the
chain answers, `sled` whether a write applies. -/
def CheckAndRemove.step (hasDebt : Address → κ → Except String Bool) (sled : Except String Unit)
    (task : CheckAndRemove κ) (w : WatchList κ) : CheckAndRemove κ × WatchList κ :=
  match task with
  | .check identity =>
    match TrackerIdentity.fromStr T identity with
    | .error e => (.done (.error (.identity e)), w)
    | .ok id =>
      match config.kind.pairOf id with
      | some (borrower, x) =>
        match hasDebt borrower x with
        | .ok false => (.remove (.ofRemove config.kind T identity), w)
        | .ok true => (.done (.ok ()), w)
        | .error e => (.done (config.debtFailure e), w)
      | none => (.done (.ok ()), w)
  | .remove call =>
    match call.step sled w with
    | (.done (.ok ()), w') => (.done (.ok ()), w')
    | (.done (.error e), w') => (.done (.error (.call e)), w')
    | (call', w') => (.remove call', w')
  | .done result => (.done result, w)

/-- What an event starts, with the list after its first move. Events outside the whitelist are
dropped. -/
def handleEvent (log : PositionLog κ) (w : WatchList κ) : UpdaterActivity κ × WatchList κ :=
  if log.market ∈ config.whitelist then
    let identity := config.kind.text T log.borrower log.market
    match log.kind with
    | .borrow =>
      -- nothing is awaited between the event and the move that puts it in the cache
      let (call, w') := (WatchCall.ofAdd config.kind T identity).step (.ok ()) w
      (.adding call, w')
    | .repay | .liquidation => (.clearing (.check identity), w)
  else (.idle, w)

/-- An addition goes on until it is done; its error ends the updater. -/
def afterAdding (call : WatchCall κ) : UpdaterActivity κ :=
  match call with
  | .done (.ok ()) => .idle
  | .done (.error e) => .stopped (.error (.call e))
  | call => .adding call

/-- So does the check that an event started. -/
def afterClearing (task : CheckAndRemove κ) : UpdaterActivity κ :=
  match task with
  | .done (.ok ()) => .idle
  | .done (.error e) => .stopped (.error e)
  | task => .clearing task

/-- A check of a prune that is done makes room for the next, whatever it ended with. -/
def afterPruning (waiting : List Text) (before : List (CheckAndRemove κ)) (task : CheckAndRemove κ)
    (after : List (CheckAndRemove κ)) : UpdaterActivity κ :=
  match task with
  | .done _ => .pruning waiting (before ++ after)
  | task => .pruning waiting (before ++ task :: after)

/-! ### Steps -/

/-- A position's debt changes and its event enters the stream. -/
def UpdaterState.emit (s : UpdaterState κ ι) (log : PositionLog κ) (debt : ℕ) :
    UpdaterState κ ι :=
  { s with
    debt := fun b y => if b = log.borrower ∧ y = log.market then debt else s.debt b y
    streams := Function.update s.streams (config.streamOf log.kind)
      (s.streams (config.streamOf log.kind) ++ [log]) }

/-- Debts are read as they are now, or not at all. -/
def UpdaterState.Reads (s : UpdaterState κ ι) (hasDebt : Address → κ → Except String Bool) :
    Prop :=
  ∀ borrower x answer, hasDebt borrower x = .ok answer → answer = decide (s.debt borrower x ≠ 0)

/-- One step of the chain or of the updater. -/
inductive UpdaterStep : UpdaterState κ ι → UpdaterState κ ι → Prop where
  | borrow (s : UpdaterState κ ι) (borrower : Address) (x : κ) (debt : ℕ) :
      UpdaterStep s (s.emit config ⟨.borrow, x, borrower⟩ debt)
  /-- A Repay or a liquidation opens no position. -/
  | clear (s : UpdaterState κ ι) (log : PositionLog κ) (debt : ℕ) (hkind : log.kind ≠ .borrow)
      (hdebt : s.debt log.borrower log.market = 0 → debt = 0) :
      UpdaterStep s (s.emit config log debt)
  /-- Interest changes debts without an event and opens no position. -/
  | accrue (s : UpdaterState κ ι) (debt : Address → κ → ℕ)
      (hdebt : ∀ borrower x, s.debt borrower x = 0 → debt borrower x = 0) :
      UpdaterStep s { s with debt := debt }
  | deliver (s : UpdaterState κ ι) (i : ι) (log : PositionLog κ) (rest : List (PositionLog κ))
      (hidle : s.activity = .idle) (hstream : s.streams i = log :: rest) :
      UpdaterStep s { s with
        streams := Function.update s.streams i rest
        list := (handleEvent config T log s.list).2
        activity := (handleEvent config T log s.list).1 }
  | add (s : UpdaterState κ ι) (call : WatchCall κ) (sled : Except String Unit)
      (hadding : s.activity = .adding call) :
      UpdaterStep s { s with
        list := (call.step sled s.list).2
        activity := afterAdding (call.step sled s.list).1 }
  | clearing (s : UpdaterState κ ι) (task : CheckAndRemove κ)
      (hasDebt : Address → κ → Except String Bool) (sled : Except String Unit)
      (hclearing : s.activity = .clearing task) (hreads : s.Reads hasDebt) :
      UpdaterStep s { s with
        list := (task.step config T hasDebt sled s.list).2
        activity := afterClearing (task.step config T hasDebt sled s.list).1 }
  | prune (s : UpdaterState κ ι) (entries : List (Address × List κ)) (hidle : s.activity = .idle)
      (hvisits : Visits entries s.list.cache) :
      UpdaterStep s { s with activity := .pruning (config.snapshot entries) [] }
  /-- Four checks at once. -/
  | pruneTake (s : UpdaterState κ ι) (identity : Text) (waiting : List Text)
      (running : List (CheckAndRemove κ))
      (hpruning : s.activity = .pruning (identity :: waiting) running)
      (hroom : running.length < 4) :
      UpdaterStep s { s with activity := .pruning waiting (running ++ [.check identity]) }
  | pruneTask (s : UpdaterState κ ι) (waiting : List Text) (before : List (CheckAndRemove κ))
      (task : CheckAndRemove κ) (after : List (CheckAndRemove κ))
      (hasDebt : Address → κ → Except String Bool) (sled : Except String Unit)
      (hpruning : s.activity = .pruning waiting (before ++ task :: after))
      (hreads : s.Reads hasDebt) :
      UpdaterStep s { s with
        list := (task.step config T hasDebt sled s.list).2
        activity := afterPruning waiting before (task.step config T hasDebt sled s.list).1 after }
  | pruneDone (s : UpdaterState κ ι) (hpruning : s.activity = .pruning [] []) :
      UpdaterStep s { s with activity := .idle }
  /-- Shutdown, or the end of a channel. -/
  | stop (s : UpdaterState κ ι) (hidle : s.activity = .idle) :
      UpdaterStep s { s with activity := .stopped (.ok ()) }

/-! ### The two updaters -/

def aaveUpdater : UpdaterConfig Address Unit where
  kind := aaveKind
  whitelist := aaveReserves
  streamOf _ := ()
  snapshot := AaveWatchList.snapshot T
  debtFailure e := .error (.call e)

def morphoUpdater : UpdaterConfig H256 EventKind where
  kind := morphoKind
  whitelist := morphoMarkets
  streamOf kind := kind
  snapshot := MorphoWatchList.snapshot T
  -- the failure is logged
  debtFailure _ := .ok ()

end LiqRanger
