import LiqRanger.Updater.Properties

/-!
# What an updater does by itself

Between two changes of the chain an updater takes an event from a stream, or it leaves the streams
alone and one of its calls moves, or a check begins the removal of a position without debt, or
neither happens (`UpdaterStep.Work.cases`). A property of the list that every move of a call keeps
holds as long as the calls are of a kind that keeps it (`CallMove.rule`).
-/

namespace LiqRanger

open Transition

variable {κ ι : Type} [DecidableEq κ]

/-! ### Moves of a call -/

namespace WatchCall

variable {call : WatchCall κ} {sled : Except String Unit} {w : WatchList κ}

/-- Only a capture leads to a write, of the row as it is. -/
lemma step_eq_write {b : Address} {row : Option (Finset κ)}
    (h : (call.step sled w).1 = .write b row) : call = .capture b ∧ row = w.cache.lookup b := by
  cases call with
  | insertPair borrower x =>
    simp only [step] at h
    split at h <;> cases h
  | removePair borrower x =>
    simp only [step] at h
    split at h
    · split at h <;> cases h
    · cases h
  | removeIfEmpty borrower => cases h
  | capture borrower =>
    cases h
    exact ⟨rfl, rfl⟩
  | write borrower row => cases sled <;> cases h
  | done result => cases h

/-- Only a write changes the rows. -/
lemma rows_step (call : WatchCall κ) (sled : Except String Unit) (w : WatchList κ) :
    (call.step sled w).2.rows = w.rows ∨ ∃ b row, call = .write b row ∧
      (call.step sled w).2.rows = WatchList.applyWrite b row w.rows := by
  cases call with
  | write borrower row =>
    cases sled with
    | ok => exact Or.inr ⟨borrower, row, rfl, rfl⟩
    | error e => exact Or.inl rfl
  | _ => exact Or.inl rfl

end WatchCall

/-! ### Calls under way -/

/-- The call that a check makes. -/
def CheckAndRemove.calls : CheckAndRemove κ → List (WatchCall κ)
  | .remove call => [call]
  | _ => []

/-- The calls that are under way. -/
def UpdaterActivity.calls : UpdaterActivity κ → List (WatchCall κ)
  | .adding call => [call]
  | .clearing task => task.calls
  | .pruning _ running => running.flatMap CheckAndRemove.calls
  | _ => []

/-- The text that a check is to look at. -/
def CheckAndRemove.checks : CheckAndRemove κ → List Text
  | .check identity => [identity]
  | _ => []

/-- The texts that checks are to look at. -/
def UpdaterActivity.checks : UpdaterActivity κ → List Text
  | .clearing task => task.checks
  | .pruning waiting running => waiting ++ running.flatMap CheckAndRemove.checks
  | _ => []

/-- What a step makes of the calls under way and of the list; `cleared` are the positions that are
read without debt. -/
inductive CallMove (cleared : Set (Address × κ)) (calls : List (WatchCall κ)) (w : WatchList κ) :
    List (WatchCall κ) → WatchList κ → Prop where
  | quiet (next : List (WatchCall κ)) (hnext : ∀ c ∈ next, c ∈ calls) :
      CallMove cleared calls w next w
  | move (call : WatchCall κ) (sled : Except String Unit) (next : List (WatchCall κ))
      (hcall : call ∈ calls) (hnext : ∀ c ∈ next, c ∈ calls ∨ c = (call.step sled w).1) :
      CallMove cleared calls w next (call.step sled w).2
  | clear (borrower : Address) (x : κ) (next : List (WatchCall κ))
      (hcleared : (borrower, x) ∈ cleared)
      (hnext : ∀ c ∈ next, c ∈ calls ∨ c = .removePair borrower x) :
      CallMove cleared calls w next w

namespace CallMove

variable {cleared : Set (Address × κ)} {calls calls' next next' : List (WatchCall κ)}
  {w w' : WatchList κ}

/-- What every move keeps, with calls of a kind, and beginning removals are of that kind. -/
theorem rule {P : WatchList κ → Prop} {Q : WatchCall κ → Prop}
    (hmove : ∀ call sled w, P w → Q call → Q (call.step sled w).1 ∧ P (call.step sled w).2)
    (hclear : ∀ borrower x, (borrower, x) ∈ cleared → Q (.removePair borrower x))
    (h : CallMove cleared calls w next w') (hw : P w) (hcalls : ∀ c ∈ calls, Q c) :
    P w' ∧ ∀ c ∈ next, Q c := by
  cases h with
  | quiet _ hnext => exact ⟨hw, fun c hc => hcalls c (hnext c hc)⟩
  | move call sled _ hcall hnext =>
    obtain ⟨hq, hw'⟩ := hmove call sled w hw (hcalls call hcall)
    refine ⟨hw', fun c hc => ?_⟩
    rcases hnext c hc with hold | rfl
    · exact hcalls c hold
    · exact hq
  | clear borrower x _ hcleared hnext =>
    refine ⟨hw, fun c hc => ?_⟩
    rcases hnext c hc with hold | rfl
    · exact hcalls c hold
    · exact hclear borrower x hcleared

/-- Other calls may be under way. -/
lemma mono (h : CallMove cleared calls w next w') (hcalls : ∀ c ∈ calls, c ∈ calls')
    (hnext : ∀ c ∈ next', c ∈ calls' ∨ c ∈ next) : CallMove cleared calls' w next' w' := by
  cases h with
  | quiet _ hold =>
    exact .quiet next' fun c hc => (hnext c hc).elim id fun hc => hcalls c (hold c hc)
  | move call sled _ hcall hold =>
    refine .move call sled next' (hcalls call hcall) fun c hc => ?_
    rcases hnext c hc with hc | hc
    · exact Or.inl hc
    · exact (hold c hc).imp_left (hcalls c)
  | clear borrower x _ hcleared hold =>
    refine .clear borrower x next' hcleared fun c hc => ?_
    rcases hnext c hc with hc | hc
    · exact Or.inl hc
    · exact (hold c hc).imp_left (hcalls c)

end CallMove

/-! ### What the updater is busy with -/

section
variable {config : UpdaterConfig κ ι} {T : EthersText} {w : WatchList κ}
  {hasDebt : Address → κ → Except String Bool} {sled : Except String Unit}
  {cleared : Set (Address × κ)}

omit [DecidableEq κ] in
lemma calls_afterAdding {call c : WatchCall κ} (h : c ∈ (afterAdding call).calls) : c = call := by
  match call with
  | .done (.ok ()) => cases h
  | .done (.error e) => cases h
  | .insertPair .. | .removePair .. | .removeIfEmpty .. | .capture .. | .write .. =>
    exact List.mem_singleton.mp h

omit [DecidableEq κ] in
lemma calls_afterRemoval {call c : WatchCall κ} (h : c ∈ (afterRemoval call).calls) :
    c = call := by
  match call with
  | .done (.ok ()) => cases h
  | .done (.error e) => cases h
  | .insertPair .. | .removePair .. | .removeIfEmpty .. | .capture .. | .write .. =>
    exact List.mem_singleton.mp h

omit [DecidableEq κ] in
lemma calls_afterClearing {task : CheckAndRemove κ} {c : WatchCall κ}
    (h : c ∈ (afterClearing task).calls) : c ∈ task.calls := by
  match task with
  | .done (.ok ()) => cases h
  | .done (.error e) => cases h
  | .check identity => exact h
  | .remove call => exact h

omit [DecidableEq κ] in
lemma calls_afterPruning {waiting : List Text} {before after : List (CheckAndRemove κ)}
    {task : CheckAndRemove κ} {c : WatchCall κ}
    (h : c ∈ (afterPruning waiting before task after).calls) :
    c ∈ (before ++ task :: after).flatMap CheckAndRemove.calls := by
  match task with
  | .done result =>
    simpa [afterPruning, UpdaterActivity.calls, CheckAndRemove.calls] using h
  | .check identity => exact h
  | .remove call => exact h

omit [DecidableEq κ] in
lemma checks_afterAdding {call : WatchCall κ} : (afterAdding call).checks = [] := by
  match call with
  | .done (.ok ()) => rfl
  | .done (.error e) => rfl
  | .insertPair .. | .removePair .. | .removeIfEmpty .. | .capture .. | .write .. => rfl

omit [DecidableEq κ] in
lemma checks_afterRemoval {call : WatchCall κ} : (afterRemoval call).checks = [] := by
  match call with
  | .done (.ok ()) => rfl
  | .done (.error e) => rfl
  | .insertPair .. | .removePair .. | .removeIfEmpty .. | .capture .. | .write .. => rfl

omit [DecidableEq κ] in
lemma checks_afterClearing {task : CheckAndRemove κ} :
    (afterClearing task).checks = task.checks := by
  match task with
  | .done (.ok ()) => rfl
  | .done (.error e) => rfl
  | .check identity => rfl
  | .remove call => rfl

omit [DecidableEq κ] in
lemma checks_afterPruning {waiting : List Text} {before after : List (CheckAndRemove κ)}
    {task : CheckAndRemove κ} :
    (afterPruning waiting before task after).checks
      = waiting ++ (before ++ task :: after).flatMap CheckAndRemove.checks := by
  match task with
  | .done result => simp [afterPruning, UpdaterActivity.checks, CheckAndRemove.checks]
  | .check identity => rfl
  | .remove call => rfl

/-- A check looks at its text once. -/
lemma CheckAndRemove.checks_step {task : CheckAndRemove κ} :
    (task.step config T hasDebt sled w).1.checks = [] := by
  have hnext : Next config T hasDebt sled w task _ := step_next
  generalize task.step config T hasDebt sled w = s at hnext ⊢
  cases hnext with
  | moved call => exact checks_afterRemoval
  | _ => rfl

/-- What an event begins: the addition of its position, or at most a check of it. -/
lemma handleEvent_cases (config : UpdaterConfig κ ι) (T : EthersText) (log : PositionLog κ)
    (w : WatchList κ) :
    (log.kind = .borrow ∧ log.market ∈ config.whitelist ∧ handleEvent config T log w
      = (.adding ((WatchCall.insertPair log.borrower log.market).step (.ok ()) w).1,
        ((WatchCall.insertPair log.borrower log.market).step (.ok ()) w).2)) ∨
    ((handleEvent config T log w).2 = w ∧ (handleEvent config T log w).1.calls = [] ∧
      ∀ identity ∈ (handleEvent config T log w).1.checks, log.market ∈ config.whitelist ∧
        identity = config.kind.text T log.borrower log.market) := by
  rw [handleEvent]
  by_cases hlist : log.market ∈ config.whitelist
  · rw [if_pos hlist]
    cases hkind : log.kind with
    | borrow =>
      refine Or.inl ⟨rfl, hlist, ?_⟩
      simp only [WatchCall.ofAdd, ListKind.parse_text]
    | repay => exact Or.inr ⟨rfl, rfl, fun _ hmem => ⟨hlist, List.mem_singleton.mp hmem⟩⟩
    | liquidation => exact Or.inr ⟨rfl, rfl, fun _ hmem => ⟨hlist, List.mem_singleton.mp hmem⟩⟩
  · rw [if_neg hlist]
    exact Or.inr ⟨rfl, rfl, fun _ hmem => absurd hmem List.not_mem_nil⟩

/-- A step of a check. -/
lemma CheckAndRemove.callMove (config : UpdaterConfig κ ι) (T : EthersText)
    (task : CheckAndRemove κ) (w : WatchList κ) (sled : Except String Unit)
    (hread : ∀ borrower x, hasDebt borrower x = .ok false → (borrower, x) ∈ cleared) :
    CallMove cleared task.calls w (task.step config T hasDebt sled w).1.calls
      (task.step config T hasDebt sled w).2 := by
  have hnext : Next config T hasDebt sled w task _ := step_next
  generalize task.step config T hasDebt sled w = s at hnext ⊢
  cases hnext with
  | cleared identity id borrower x hid hpair hdebt =>
    refine .clear borrower x _ (hread borrower x hdebt) fun c hc => Or.inr ?_
    have hparse : config.kind.parse T identity = some (borrower, x) := by
      rw [ListKind.parse, hid]
      exact hpair
    rw [List.mem_singleton.mp hc, WatchCall.ofRemove, hparse]
  | moved call =>
    exact .move call sled _ List.mem_cons_self fun c hc => Or.inr (calls_afterRemoval hc)
  | done result => exact .quiet _ fun c hc => hc
  | unparsed | foreign | indebted | unread => exact .quiet _ fun c hc => absurd hc List.not_mem_nil

end

/-! ### Steps of the updater -/

variable [DecidableEq ι] {config : UpdaterConfig κ ι} {T : EthersText} {u u' : UpdaterState κ ι}

/-- A step that the updater takes itself: debts stay as they are, and streams lose events. -/
def UpdaterStep.Work (config : UpdaterConfig κ ι) (T : EthersText) (u u' : UpdaterState κ ι) :
    Prop :=
  UpdaterStep config T u u' ∧ u'.debt = u.debt ∧ ∀ i, u'.streams i <:+ u.streams i

lemma not_suffix_emit {log : PositionLog κ} {debt : ℕ} :
    ¬ (u.emit config log debt).streams (config.streamOf log.kind)
      <:+ u.streams (config.streamOf log.kind) := by
  intro h
  have hlength := h.length_le
  simp [UpdaterState.emit] at hlength

/-- An idle updater takes an event, or the streams stay as they are and a call may move; checks are
left over, or a prune lists what they are to look at. -/
theorem UpdaterStep.Work.cases (h : UpdaterStep.Work config T u u') :
    (∃ i log rest, u.activity = .idle ∧ u.streams i = log :: rest ∧
      u' = { u with
        streams := Function.update u.streams i rest
        list := (handleEvent config T log u.list).2
        activity := (handleEvent config T log u.list).1 }) ∨
    (u'.streams = u.streams ∧
      CallMove {p | u.debt p.1 p.2 = 0} u.activity.calls u.list u'.activity.calls u'.list ∧
      ∀ identity ∈ u'.activity.checks, identity ∈ u.activity.checks ∨
        ∃ entries, Visits entries u.list.cache ∧ identity ∈ config.snapshot entries) := by
  obtain ⟨hstep, -, hstreams⟩ := h
  have hread : ∀ {hasDebt}, u.Reads hasDebt → ∀ b x, hasDebt b x = .ok false →
      (b, x) ∈ {p : Address × κ | u.debt p.1 p.2 = 0} := by
    intro hasDebt hreads b x hdebt
    simpa using hreads b x false hdebt
  cases hstep with
  | borrow borrower x debt => exact absurd (hstreams (config.streamOf .borrow)) not_suffix_emit
  | clear log debt hkind hdebt =>
    exact absurd (hstreams (config.streamOf log.kind)) not_suffix_emit
  | accrue debt hdebt => exact Or.inr ⟨rfl, .quiet _ fun c hc => hc, fun _ hmem => Or.inl hmem⟩
  | deliver i log rest hidle hstream => exact Or.inl ⟨i, log, rest, hidle, hstream, rfl⟩
  | add call sled hadding =>
    refine Or.inr ⟨rfl, .move call sled _ ?_ fun c hc => Or.inr (calls_afterAdding hc), ?_⟩
    · rw [hadding]
      exact List.mem_cons_self
    · intro identity hmem
      dsimp only at hmem
      rw [checks_afterAdding] at hmem
      cases hmem
  | clearing task hasDebt sled hclearing hreads =>
    refine Or.inr ⟨rfl, (task.callMove config T u.list sled (hread hreads)).mono ?_ ?_, ?_⟩
    · rw [hclearing]
      exact fun c hc => hc
    · exact fun c hc => Or.inr (calls_afterClearing hc)
    · intro identity hmem
      dsimp only at hmem
      rw [checks_afterClearing, CheckAndRemove.checks_step] at hmem
      cases hmem
  | prune entries hidle hvisits =>
    refine Or.inr ⟨rfl, .quiet _ fun c hc => absurd hc List.not_mem_nil, fun identity hmem => ?_⟩
    refine Or.inr ⟨entries, hvisits, ?_⟩
    simpa [UpdaterActivity.checks] using hmem
  | pruneTake identity waiting running hpruning hroom =>
    refine Or.inr ⟨rfl, .quiet _ fun c hc => ?_, fun text hmem => Or.inl ?_⟩
    · simpa [hpruning, UpdaterActivity.calls, CheckAndRemove.calls] using hc
    · simp only [UpdaterActivity.checks, List.flatMap_append, List.mem_append] at hmem
      simp only [hpruning, UpdaterActivity.checks, List.cons_append, List.mem_cons,
        List.mem_append]
      rcases hmem with hwaiting | hrunning | hself
      · exact Or.inr (Or.inl hwaiting)
      · exact Or.inr (Or.inr hrunning)
      · exact Or.inl (by simpa [CheckAndRemove.checks] using hself)
  | pruneTask waiting before task after hasDebt sled hpruning hreads =>
    refine Or.inr ⟨rfl, (task.callMove config T u.list sled (hread hreads)).mono ?_ ?_, ?_⟩
    · intro c hc
      simp [hpruning, UpdaterActivity.calls, hc]
    · intro c hc
      have hmem := calls_afterPruning hc
      rw [List.flatMap_append, List.flatMap_cons, List.mem_append, List.mem_append] at hmem
      rcases hmem with hbefore | hself | hafter
      · exact Or.inl (by simp [hpruning, UpdaterActivity.calls, hbefore])
      · exact Or.inr hself
      · exact Or.inl (by simp [hpruning, UpdaterActivity.calls, hafter])
    · intro identity hmem
      dsimp only at hmem
      rw [checks_afterPruning, List.flatMap_append, List.flatMap_cons,
        CheckAndRemove.checks_step, List.nil_append, ← List.flatMap_append] at hmem
      refine Or.inl ?_
      rw [hpruning, UpdaterActivity.checks, List.flatMap_append, List.flatMap_cons]
      simp only [List.flatMap_append, List.mem_append] at hmem ⊢
      rcases hmem with hwaiting | hbefore | hafter
      · exact Or.inl hwaiting
      · exact Or.inr (Or.inl hbefore)
      · exact Or.inr (Or.inr (Or.inr hafter))
  | pruneDone hpruning =>
    exact Or.inr ⟨rfl, .quiet _ fun c hc => absurd hc List.not_mem_nil,
      fun _ hmem => absurd hmem List.not_mem_nil⟩
  | stop hidle =>
    exact Or.inr ⟨rfl, .quiet _ fun c hc => absurd hc List.not_mem_nil,
      fun _ hmem => absurd hmem List.not_mem_nil⟩

end LiqRanger
