import LiqRanger.Updater.Step

/-!
# Tracked or pending

No debtor is lost between the chain and an updater: a position with debt is in the watchlist, or a
Borrow that names it has yet to be delivered (`updaters_trackedOrPending`). A removal can be late,
since the position may borrow again after its debt was read; but then that Borrow is still ahead
of the updater.
-/

namespace LiqRanger

open Transition

variable {κ ι : Type} [DecidableEq κ] {config : UpdaterConfig κ ι} {T : EthersText}
  {s s' : UpdaterState κ ι}

/-- A Borrow that names the position has yet to be delivered. -/
def PendingBorrow (config : UpdaterConfig κ ι) (s : UpdaterState κ ι) (borrower : Address)
    (x : κ) : Prop :=
  ⟨.borrow, x, borrower⟩ ∈ s.streams (config.streamOf .borrow)

/-- Every whitelisted position with debt is in the watchlist or has a Borrow to be delivered. -/
def TrackedOrPending (config : UpdaterConfig κ ι) (s : UpdaterState κ ι) : Prop :=
  ∀ borrower, ∀ x ∈ config.whitelist, s.debt borrower x ≠ 0 →
    s.list.contains borrower x = true ∨ PendingBorrow config s borrower x

/-! ### Outstanding removals -/

/-- The pair that the next step of a check takes out of the list. -/
def CheckAndRemove.removals : CheckAndRemove κ → List (Address × κ)
  | .remove call => call.removals
  | _ => []

/-- The pairs that some next step of the updater takes out of the list. -/
def UpdaterActivity.removals : UpdaterActivity κ → List (Address × κ)
  | .adding call => call.removals
  | .clearing task => task.removals
  | .pruning _ running => running.flatMap CheckAndRemove.removals
  | _ => []

omit [DecidableEq κ] in
lemma removals_ofRemove {K : ListKind κ} {identity : Text} {id : TrackerIdentity}
    {borrower b : Address} {x y : κ} (hid : TrackerIdentity.fromStr T identity = .ok id)
    (hpair : K.pairOf id = some (borrower, x))
    (hmem : (b, y) ∈ (WatchCall.ofRemove K T identity).removals) : b = borrower ∧ y = x := by
  have hparse : K.parse T identity = some (borrower, x) := by
    rw [ListKind.parse, hid]
    exact hpair
  rw [WatchCall.ofRemove, hparse] at hmem
  simpa [WatchCall.removals] using hmem

/-- What a check goes on with after a move of its removal. -/
def afterRemoval (call : WatchCall κ) : CheckAndRemove κ :=
  match call with
  | .done (.ok ()) => .done (.ok ())
  | .done (.error e) => .done (.error (.call e))
  | call => .remove call

omit [DecidableEq κ] in
lemma removals_afterRemoval {call : WatchCall κ} :
    (afterRemoval call).removals = call.removals := by
  match call with
  | .done (.ok ()) => rfl
  | .done (.error e) => rfl
  | .insertPair .. | .removePair .. | .removeIfEmpty .. | .capture .. | .write .. => rfl

/-- A removal moves. -/
lemma CheckAndRemove.step_remove {hasDebt : Address → κ → Except String Bool}
    {sled : Except String Unit} {call : WatchCall κ} {w : WatchList κ} :
    (CheckAndRemove.remove call).step config T hasDebt sled w
      = (afterRemoval (call.step sled w).1, (call.step sled w).2) := by
  simp only [step]
  split
  · next hstep => rw [hstep, afterRemoval]
  · next hstep => rw [hstep, afterRemoval]
  · next call' w' hok herror hstep =>
    rw [hstep, afterRemoval]
    · exact hok
    · exact herror

section
variable {hasDebt : Address → κ → Except String Bool} {sled : Except String Unit} {w : WatchList κ}
  {b : Address} {x : κ}

/-- The check of a position that was read without debt. -/
lemma CheckAndRemove.step_check_of_cleared (hdebt : hasDebt b x = .ok false) :
    (CheckAndRemove.check (config.kind.text T b x)).step config T hasDebt sled w
      = (.remove (.removePair b x), w) := by
  have hpair := (config.kind.pairOf_eq_some_iff _ b x).mpr rfl
  simp only [step, ListKind.text, TrackerIdentity.fromStr_toStringId, hpair, hdebt]
  rw [← ListKind.text, WatchCall.ofRemove, ListKind.parse_text]

/-- The check of a position whose debt cannot be read. -/
lemma CheckAndRemove.step_check_of_error {e : String} (hdebt : hasDebt b x = .error e) :
    (CheckAndRemove.check (config.kind.text T b x)).step config T hasDebt sled w
      = (.done (config.debtFailure e), w) := by
  have hpair := (config.kind.pairOf_eq_some_iff _ b x).mpr rfl
  simp only [step, ListKind.text, TrackerIdentity.fromStr_toStringId, hpair, hdebt]

end

/-- One step of a check: it ends, or it goes on to the removal of a position that was read without
debt, or its removal moves. -/
inductive CheckAndRemove.Next (config : UpdaterConfig κ ι) (T : EthersText)
    (hasDebt : Address → κ → Except String Bool) (sled : Except String Unit) (w : WatchList κ) :
    CheckAndRemove κ → CheckAndRemove κ × WatchList κ → Prop where
  | unparsed (identity : Text) (e : IdentityError)
      (hid : TrackerIdentity.fromStr T identity = .error e) :
      Next config T hasDebt sled w (.check identity) (.done (.error (.identity e)), w)
  | foreign (identity : Text) (id : TrackerIdentity)
      (hid : TrackerIdentity.fromStr T identity = .ok id) (hpair : config.kind.pairOf id = none) :
      Next config T hasDebt sled w (.check identity) (.done (.ok ()), w)
  | cleared (identity : Text) (id : TrackerIdentity) (borrower : Address) (x : κ)
      (hid : TrackerIdentity.fromStr T identity = .ok id)
      (hpair : config.kind.pairOf id = some (borrower, x))
      (hdebt : hasDebt borrower x = .ok false) :
      Next config T hasDebt sled w (.check identity)
        (.remove (.ofRemove config.kind T identity), w)
  | indebted (identity : Text) (id : TrackerIdentity) (borrower : Address) (x : κ)
      (hid : TrackerIdentity.fromStr T identity = .ok id)
      (hpair : config.kind.pairOf id = some (borrower, x)) (hdebt : hasDebt borrower x = .ok true) :
      Next config T hasDebt sled w (.check identity) (.done (.ok ()), w)
  | unread (identity : Text) (id : TrackerIdentity) (borrower : Address) (x : κ) (e : String)
      (hid : TrackerIdentity.fromStr T identity = .ok id)
      (hpair : config.kind.pairOf id = some (borrower, x)) (hdebt : hasDebt borrower x = .error e) :
      Next config T hasDebt sled w (.check identity) (.done (config.debtFailure e), w)
  | moved (call : WatchCall κ) :
      Next config T hasDebt sled w (.remove call)
        (afterRemoval (call.step sled w).1, (call.step sled w).2)
  | done (result : Except UpdaterError Unit) :
      Next config T hasDebt sled w (.done result) (.done result, w)

lemma CheckAndRemove.step_next {hasDebt : Address → κ → Except String Bool}
    {sled : Except String Unit} {task : CheckAndRemove κ} {w : WatchList κ} :
    Next config T hasDebt sled w task (task.step config T hasDebt sled w) := by
  cases task with
  | check identity =>
    simp only [step]
    split
    · next e hid => exact .unparsed identity e hid
    · next id hid =>
      split
      · next borrower x hpair =>
        split
        · next hdebt => exact .cleared identity id borrower x hid hpair hdebt
        · next hdebt => exact .indebted identity id borrower x hid hpair hdebt
        · next e hdebt => exact .unread identity id borrower x e hid hpair hdebt
      · next hpair => exact .foreign identity id hid hpair
  | remove call =>
    rw [step_remove]
    exact .moved call
  | done result => exact .done result

/-- A step of a check loses no pair but the one it takes out. -/
lemma CheckAndRemove.contains_step {hasDebt : Address → κ → Except String Bool}
    {sled : Except String Unit} {task : CheckAndRemove κ} {w : WatchList κ} {b : Address} {y : κ}
    (hmem : w.contains b y = true) (hkeep : (b, y) ∉ task.removals) :
    (task.step config T hasDebt sled w).2.contains b y = true := by
  have hnext : Next config T hasDebt sled w task _ := step_next
  generalize task.step config T hasDebt sled w = s at hnext ⊢
  cases hnext with
  | moved call => exact call.contains_step hmem hkeep
  | _ => exact hmem

/-- After a step of a check, only a pair that was read without debt is about to be taken out. -/
lemma CheckAndRemove.removals_step {hasDebt : Address → κ → Except String Bool}
    {sled : Except String Unit} {task : CheckAndRemove κ} {w : WatchList κ} {b : Address} {y : κ}
    (hmem : (b, y) ∈ (task.step config T hasDebt sled w).1.removals) :
    hasDebt b y = .ok false := by
  have hnext : Next config T hasDebt sled w task _ := step_next
  generalize task.step config T hasDebt sled w = s at hnext hmem
  cases hnext with
  | cleared identity id borrower x hid hpair hdebt =>
    obtain ⟨rfl, rfl⟩ := removals_ofRemove hid hpair hmem
    exact hdebt
  | moved call =>
    dsimp only at hmem
    rw [removals_afterRemoval, call.removals_step] at hmem
    cases hmem
  | _ => cases hmem

omit [DecidableEq κ] in
lemma removals_afterAdding {call : WatchCall κ} : (afterAdding call).removals = call.removals := by
  match call with
  | .done (.ok ()) => rfl
  | .done (.error e) => rfl
  | .insertPair .. => rfl
  | .removePair .. => rfl
  | .removeIfEmpty .. => rfl
  | .capture .. => rfl
  | .write .. => rfl

omit [DecidableEq κ] in
lemma removals_afterClearing {task : CheckAndRemove κ} :
    (afterClearing task).removals = task.removals := by
  match task with
  | .done (.ok ()) => rfl
  | .done (.error e) => rfl
  | .check identity => rfl
  | .remove call => rfl

omit [DecidableEq κ] in
lemma removals_afterPruning {waiting : List Text} {before after : List (CheckAndRemove κ)}
    {task : CheckAndRemove κ} :
    (afterPruning waiting before task after).removals
      = (before ++ task :: after).flatMap CheckAndRemove.removals := by
  match task with
  | .done result =>
    simp [afterPruning, UpdaterActivity.removals, CheckAndRemove.removals]
  | .check identity => rfl
  | .remove call => rfl

/-! ### The invariant -/

/-- Every position with debt is tracked or pending, and a position that is about to be taken out
has no debt or is pending. -/
structure UpdaterInv (config : UpdaterConfig κ ι) (s : UpdaterState κ ι) : Prop where
  tracked : TrackedOrPending config s
  removals : ∀ borrower x, (borrower, x) ∈ s.activity.removals → x ∈ config.whitelist →
    s.debt borrower x ≠ 0 → PendingBorrow config s borrower x

/-- The chain keeps the invariant when it loses no pending Borrow and every new debt has one. -/
lemma UpdaterInv.chain (h : UpdaterInv config s) (hlist : s'.list = s.list)
    (hactivity : s'.activity = s.activity)
    (hpending : ∀ borrower x, PendingBorrow config s borrower x →
      PendingBorrow config s' borrower x)
    (hdebt : ∀ borrower x, s'.debt borrower x ≠ 0 → s.debt borrower x = 0 →
      PendingBorrow config s' borrower x) : UpdaterInv config s' := by
  constructor
  · intro borrower x hx hne
    by_cases hzero : s.debt borrower x = 0
    · exact Or.inr (hdebt borrower x hne hzero)
    · rw [hlist]
      exact (h.tracked borrower x hx hzero).imp id (hpending borrower x)
  · intro borrower x hmem hx hne
    by_cases hzero : s.debt borrower x = 0
    · exact hdebt borrower x hne hzero
    · rw [hactivity] at hmem
      exact hpending borrower x (h.removals borrower x hmem hx hzero)

/-- The updater keeps the invariant when it loses only pairs it was about to take out and is
about to take out only those and pairs without debt. -/
lemma UpdaterInv.work (h : UpdaterInv config s) {list : WatchList κ}
    {activity : UpdaterActivity κ}
    (hlist : ∀ borrower x, s.list.contains borrower x = true →
      (borrower, x) ∉ s.activity.removals → list.contains borrower x = true)
    (hremovals : ∀ borrower x, (borrower, x) ∈ activity.removals →
      (borrower, x) ∈ s.activity.removals ∨ s.debt borrower x = 0) :
    UpdaterInv config { s with list := list, activity := activity } := by
  constructor
  · intro borrower x hx hne
    by_cases hremoved : (borrower, x) ∈ s.activity.removals
    · exact Or.inr (h.removals borrower x hremoved hx hne)
    · exact (h.tracked borrower x hx hne).imp (fun hmem => hlist borrower x hmem hremoved) id
  · intro borrower x hmem hx hne
    rcases hremovals borrower x hmem with hremoved | hzero
    · exact h.removals borrower x hremoved hx hne
    · exact absurd hzero hne

/-! ### Events -/

/-- Handling an event loses no pair. -/
lemma contains_handleEvent {log : PositionLog κ} {w : WatchList κ} {b : Address} {y : κ}
    (hmem : w.contains b y = true) : (handleEvent config T log w).2.contains b y = true := by
  rw [handleEvent]
  by_cases hlist : log.market ∈ config.whitelist
  · rw [if_pos hlist]
    cases log.kind with
    | borrow =>
      refine WatchCall.contains_step hmem ?_
      rw [WatchCall.ofAdd, ListKind.parse_text]
      exact List.not_mem_nil
    | repay => exact hmem
    | liquidation => exact hmem
  · rw [if_neg hlist]
    exact hmem

/-- A whitelisted Borrow is in the list as soon as it was delivered. -/
lemma contains_handleEvent_borrow {borrower : Address} {x : κ} {w : WatchList κ}
    (hx : x ∈ config.whitelist) :
    (handleEvent config T ⟨.borrow, x, borrower⟩ w).2.contains borrower x = true := by
  rw [handleEvent, if_pos hx]
  dsimp only
  rw [WatchCall.ofAdd, ListKind.parse_text]
  exact WatchCall.contains_step_insertPair

lemma removals_handleEvent {log : PositionLog κ} {w : WatchList κ} :
    (handleEvent config T log w).1.removals = [] := by
  rw [handleEvent]
  by_cases hlist : log.market ∈ config.whitelist
  · rw [if_pos hlist]
    cases log.kind with
    | borrow => exact WatchCall.removals_step
    | repay => rfl
    | liquidation => rfl
  · rw [if_neg hlist]
    rfl

variable [DecidableEq ι]

omit [DecidableEq κ] in
lemma pendingBorrow_of_deliver {i : ι} {log : PositionLog κ} {rest : List (PositionLog κ)}
    (hstream : s.streams i = log :: rest) {borrower : Address} {x : κ}
    (h : PendingBorrow config s borrower x) :
    log = ⟨.borrow, x, borrower⟩ ∨
      ⟨.borrow, x, borrower⟩ ∈ Function.update s.streams i rest (config.streamOf .borrow) := by
  rw [PendingBorrow] at h
  by_cases hi : config.streamOf .borrow = i
  · rw [hi, hstream, List.mem_cons] at h
    rw [hi, Function.update_self]
    exact h.imp Eq.symm id
  · rw [Function.update_of_ne hi]
    exact Or.inr h

/-- Delivering an event keeps the invariant: a Borrow that leaves its stream is in the list, and
the other pending ones stay pending. -/
lemma UpdaterInv.deliver (h : UpdaterInv config s) {i : ι} {log : PositionLog κ}
    {rest : List (PositionLog κ)} (hstream : s.streams i = log :: rest) :
    UpdaterInv config { s with
      streams := Function.update s.streams i rest
      list := (handleEvent config T log s.list).2
      activity := (handleEvent config T log s.list).1 } := by
  constructor
  · intro borrower x hx hne
    rcases h.tracked borrower x hx hne with hmem | hpending
    · exact Or.inl (contains_handleEvent hmem)
    · rcases pendingBorrow_of_deliver hstream hpending with rfl | hrest
      · exact Or.inl (contains_handleEvent_borrow hx)
      · exact Or.inr hrest
  · intro borrower x hmem
    rw [removals_handleEvent] at hmem
    cases hmem

/-! ### Chain steps -/

lemma mem_streams_emit {log e : PositionLog κ} {debt : ℕ} {i : ι} :
    e ∈ (s.emit config log debt).streams i ↔
      e ∈ s.streams i ∨ (i = config.streamOf log.kind ∧ e = log) := by
  rw [UpdaterState.emit]
  dsimp only
  by_cases hi : i = config.streamOf log.kind
  · subst hi
    simp
  · simp [hi]

/-- A Borrow may open a position, and is pending itself. -/
lemma UpdaterInv.borrow (h : UpdaterInv config s) {borrower : Address} {x : κ} {debt : ℕ} :
    UpdaterInv config (s.emit config ⟨.borrow, x, borrower⟩ debt) := by
  refine h.chain rfl rfl (fun _ _ hpending => mem_streams_emit.mpr (Or.inl hpending)) ?_
  intro b y hne hzero
  by_cases hpair : b = borrower ∧ y = x
  · obtain ⟨rfl, rfl⟩ := hpair
    exact mem_streams_emit.mpr (Or.inr ⟨rfl, rfl⟩)
  · simp only [UpdaterState.emit, if_neg hpair] at hne
    exact absurd hzero hne

lemma UpdaterInv.clear (h : UpdaterInv config s) {log : PositionLog κ} {debt : ℕ}
    (hdebt : s.debt log.borrower log.market = 0 → debt = 0) :
    UpdaterInv config (s.emit config log debt) := by
  refine h.chain rfl rfl (fun _ _ hpending => mem_streams_emit.mpr (Or.inl hpending)) ?_
  intro b y hne hzero
  by_cases hpair : b = log.borrower ∧ y = log.market
  · obtain ⟨rfl, rfl⟩ := hpair
    simp only [UpdaterState.emit, and_self, if_true] at hne
    exact absurd (hdebt hzero) hne
  · simp only [UpdaterState.emit, if_neg hpair] at hne
    exact absurd hzero hne

/-! ### Steps and runs -/

omit [DecidableEq ι] in
/-- What a check is about to take out after a step was read without debt just now. -/
lemma debt_zero_of_removals {hasDebt : Address → κ → Except String Bool}
    {sled : Except String Unit} {task : CheckAndRemove κ} {w : WatchList κ} {borrower : Address}
    {x : κ} (hreads : s.Reads hasDebt)
    (hmem : (borrower, x) ∈ (task.step config T hasDebt sled w).1.removals) :
    s.debt borrower x = 0 := by
  have hanswer := hreads borrower x false (CheckAndRemove.removals_step hmem)
  simpa using hanswer

/-- Every step of the chain or the updater keeps the invariant. -/
theorem updaterInv_step : Preserves (UpdaterStep config T) (UpdaterInv config) := by
  intro s s' hstep h
  cases hstep with
  | borrow borrower x debt => exact h.borrow
  | clear log debt hkind hdebt => exact h.clear hdebt
  | accrue debt hdebt =>
    exact h.chain rfl rfl (fun _ _ hpending => hpending) fun borrower x hne hzero =>
      absurd (hdebt borrower x hzero) hne
  | deliver i log rest hidle hstream => exact h.deliver hstream
  | add call sled hadding =>
    refine h.work (fun borrower x hmem hkeep => ?_) fun borrower x hmem => ?_
    · rw [hadding] at hkeep
      exact call.contains_step hmem hkeep
    · rw [removals_afterAdding, call.removals_step] at hmem
      cases hmem
  | clearing task hasDebt sled hclearing hreads =>
    refine h.work (fun borrower x hmem hkeep => ?_) fun borrower x hmem => ?_
    · rw [hclearing] at hkeep
      exact CheckAndRemove.contains_step hmem hkeep
    · rw [removals_afterClearing] at hmem
      exact Or.inr (debt_zero_of_removals hreads hmem)
  | prune entries hidle hvisits =>
    exact h.work (fun _ _ hmem _ => hmem) fun borrower x hmem => nomatch hmem
  | pruneTake identity waiting running hpruning hroom =>
    refine h.work (fun _ _ hmem _ => hmem) fun borrower x hmem => ?_
    rw [hpruning]
    refine Or.inl ?_
    simpa [UpdaterActivity.removals, CheckAndRemove.removals] using hmem
  | pruneTask waiting before task after hasDebt sled hpruning hreads =>
    refine h.work (fun borrower x hmem hkeep => ?_) fun borrower x hmem => ?_
    · refine CheckAndRemove.contains_step hmem fun htask => hkeep ?_
      rw [hpruning, UpdaterActivity.removals, List.mem_flatMap]
      exact ⟨task, List.mem_append_right _ List.mem_cons_self, htask⟩
    · rw [removals_afterPruning, List.flatMap_append, List.flatMap_cons, List.mem_append,
        List.mem_append] at hmem
      rw [hpruning, UpdaterActivity.removals, List.flatMap_append, List.flatMap_cons,
        List.mem_append, List.mem_append]
      rcases hmem with hbefore | htask | hafter
      · exact Or.inl (Or.inl hbefore)
      · exact Or.inr (debt_zero_of_removals hreads htask)
      · exact Or.inl (Or.inr (Or.inr hafter))
  | pruneDone hpruning =>
    exact h.work (fun _ _ hmem _ => hmem) fun borrower x hmem => nomatch hmem
  | stop hidle =>
    exact h.work (fun _ _ hmem _ => hmem) fun borrower x hmem => nomatch hmem

/-- With no removal outstanding, tracked-or-pending holds along every run. -/
theorem trackedOrPending_run (hstart : s.activity.removals = [])
    (h : TrackedOrPending config s) (hrun : Run (UpdaterStep config T) s s') :
    TrackedOrPending config s' := by
  refine (updaterInv_step.run hrun ⟨h, fun borrower x hmem => ?_⟩).tracked
  rw [hstart] at hmem
  cases hmem

/-- For both updaters and every interleaving of chain and updater steps, also with debt checks and
writes that fail: from a state without an outstanding removal in which every whitelisted position
with debt is in the watchlist or has a Borrow to be delivered, only such states are reached. -/
theorem updaters_trackedOrPending (T : EthersText) :
    (∀ s s' : UpdaterState Address Unit, s.activity.removals = [] →
      TrackedOrPending (aaveUpdater T) s → Run (UpdaterStep (aaveUpdater T) T) s s' →
      TrackedOrPending (aaveUpdater T) s') ∧
    ∀ s s' : UpdaterState H256 EventKind, s.activity.removals = [] →
      TrackedOrPending (morphoUpdater T) s → Run (UpdaterStep (morphoUpdater T) T) s s' →
      TrackedOrPending (morphoUpdater T) s' :=
  ⟨fun _ _ => trackedOrPending_run, fun _ _ => trackedOrPending_run⟩

/-- A tracked position has repaid, and its check is about to read the debt. -/
def UpdaterState.checking (config : UpdaterConfig κ ι) (T : EthersText) (b : Address) (x : κ) :
    UpdaterState κ ι where
  debt _ _ := 0
  streams _ := []
  list := .new ((∅ : MultiMap Address κ).insert b {x})
  activity := .clearing (.check (config.kind.text T b x))

omit [DecidableEq ι] in
lemma trackedOrPending_checking {b : Address} {x : κ} :
    TrackedOrPending config (.checking config T b x) :=
  fun _ _ _ hne => absurd rfl hne

/-- The position borrows between the read of its debt and its removal. -/
lemma exists_racingBorrow (config : UpdaterConfig κ ι) (T : EthersText) (b : Address) (x : κ) :
    ∃ s, Run (UpdaterStep config T) (.checking config T b x) s ∧ s.debt b x = 7 ∧
      s.list.contains b x = false := by
  have hremoved (w : WatchList κ) : ((CheckAndRemove.remove (.removePair b x)).step config T
      (fun _ _ => .error "timeout") (.ok ()) w).2.contains b x = false := by
    rw [CheckAndRemove.step_remove]
    exact Bool.eq_false_iff.mpr fun h => (MultiMap.contains_removePair.mp h).1 ⟨rfl, rfl⟩
  have hreads : (UpdaterState.checking config T b x).Reads fun _ _ => .ok false := by
    rintro _ _ _ ⟨⟩
    rfl
  have hread : UpdaterStep config T (.checking config T b x) _ :=
    .clearing _ _ (fun _ _ => .ok false) (.ok ()) rfl hreads
  rw [CheckAndRemove.step_check_of_cleared rfl] at hread
  have hborrow := (Relation.ReflTransGen.single hread).tail (.borrow _ b x 7)
  have hrun := hborrow.tail (.clearing _ (.remove (.removePair b x)) (fun _ _ => .error "timeout")
    (.ok ()) rfl (by rintro _ _ _ ⟨⟩))
  exact ⟨_, hrun, if_pos ⟨rfl, rfl⟩, hremoved _⟩

/-- A position of each protocol, and a Borrow of it that comes between the read of its debt and its
removal. -/
theorem updaters_trackedOrPending_sample :
    (∃ s : UpdaterState Address Unit,
      s.debt (.zero 20) (.ofNat 20 0x3c499c542cEF5E3811e1192ce70d8cC03d5c3359) = 7 ∧
      s.list.contains (.zero 20) (.ofNat 20 0x3c499c542cEF5E3811e1192ce70d8cC03d5c3359) = false ∧
      TrackedOrPending (aaveUpdater .reference) s) ∧
    ∃ s : UpdaterState H256 EventKind,
      s.debt (.zero 20)
        (.ofNat 32 0x1cfe584af3db05c7f39d60e458a87a8b2f6b5d8c6125631984ec489f1d13553b) = 7 ∧
      s.list.contains (.zero 20)
        (.ofNat 32 0x1cfe584af3db05c7f39d60e458a87a8b2f6b5d8c6125631984ec489f1d13553b) = false ∧
      TrackedOrPending (morphoUpdater .reference) s := by
  constructor
  · obtain ⟨s, hrun, hdebt, hlist⟩ :=
      exists_racingBorrow (aaveUpdater .reference) .reference (.zero 20) _
    exact ⟨s, hdebt, hlist, (updaters_trackedOrPending .reference).1 _ s rfl
      trackedOrPending_checking hrun⟩
  · obtain ⟨s, hrun, hdebt, hlist⟩ :=
      exists_racingBorrow (morphoUpdater .reference) .reference (.zero 20) _
    exact ⟨s, hdebt, hlist, (updaters_trackedOrPending .reference).2 _ s rfl
      trackedOrPending_checking hrun⟩

end LiqRanger
