import LiqRanger.Updater.Properties

/-!
# The work between two deliveries

What an updater does with one event or one prune command: an addition, a check, or a pass of up to
four checks at a time. Here every write applies and a debt read has one answer for each position,
which may be a failure. The work always ends (`workStep_inevitable`), and whatever the interleaving,
a position stays or goes as its debt read says (`run_stays`).
-/

namespace LiqRanger

open Transition

/-! ### Steps of the work -/

variable {κ ι : Type} [DecidableEq κ]

section
variable (config : UpdaterConfig κ ι) (T : EthersText)
  (hasDebt : Address → κ → Except String Bool)

/-- One step of what the updater is busy with. -/
inductive WorkStep :
    UpdaterActivity κ × WatchList κ → UpdaterActivity κ × WatchList κ → Prop where
  | add (call : WatchCall κ) (w : WatchList κ) :
      WorkStep (.adding call, w)
        (afterAdding (call.step (.ok ()) w).1, (call.step (.ok ()) w).2)
  | clearing (task : CheckAndRemove κ) (w : WatchList κ) :
      WorkStep (.clearing task, w)
        (afterClearing (task.step config T hasDebt (.ok ()) w).1,
          (task.step config T hasDebt (.ok ()) w).2)
  | pruneTake (identity : Text) (waiting : List Text) (running : List (CheckAndRemove κ))
      (w : WatchList κ) (hroom : running.length < 4) :
      WorkStep (.pruning (identity :: waiting) running, w)
        (.pruning waiting (running ++ [.check identity]), w)
  | pruneTask (waiting : List Text) (before : List (CheckAndRemove κ)) (task : CheckAndRemove κ)
      (after : List (CheckAndRemove κ)) (w : WatchList κ) :
      WorkStep (.pruning waiting (before ++ task :: after), w)
        (afterPruning waiting before (task.step config T hasDebt (.ok ()) w).1 after,
          (task.step config T hasDebt (.ok ()) w).2)
  | pruneDone (w : WatchList κ) : WorkStep (.pruning [] [], w) (.idle, w)

end

variable {config : UpdaterConfig κ ι} {T : EthersText}
  {hasDebt : Address → κ → Except String Bool} {s s' : UpdaterActivity κ × WatchList κ}

/-- The work is a part of what the updater does next to the chain. -/
theorem WorkStep.updaterStep [DecidableEq ι] {u : UpdaterState κ ι} (hreads : u.Reads hasDebt)
    (hstep : WorkStep config T hasDebt (u.activity, u.list) s') :
    UpdaterStep config T u { u with list := s'.2, activity := s'.1 } := by
  obtain ⟨debt, streams, list, activity⟩ := u
  cases hstep with
  | add call => exact .add _ call (.ok ()) rfl
  | clearing task => exact .clearing _ task hasDebt (.ok ()) rfl hreads
  | pruneTake identity waiting running _ hroom => exact .pruneTake _ identity _ running rfl hroom
  | pruneTask waiting before task after =>
    exact .pruneTask _ waiting before task after hasDebt (.ok ()) rfl hreads
  | pruneDone => exact .pruneDone _ rfl

/-! ### The work ends -/

/-- The moves that are left of a call, at most. -/
def WatchCall.weight : WatchCall κ → ℕ
  | .insertPair .. => 3
  | .removePair .. => 4
  | .removeIfEmpty .. => 3
  | .capture .. => 2
  | .write .. => 1
  | .done _ => 0

def CheckAndRemove.weight : CheckAndRemove κ → ℕ
  | .check _ => 6
  | .remove call => call.weight + 1
  | .done _ => 0

def UpdaterActivity.weight : UpdaterActivity κ → ℕ
  | .adding call => call.weight + 1
  | .clearing task => task.weight + 1
  | .pruning waiting running =>
    8 * waiting.length + (running.map fun task => task.weight + 1).sum + 1
  | _ => 0

lemma WatchCall.weight_step {sled : Except String Unit} {call : WatchCall κ} {w : WatchList κ} :
    (call.step sled w).1.weight ≤ call.weight - 1 := by
  have hnext : Next sled call (call.step sled w).1 := step_next
  generalize (call.step sled w).1 = call' at hnext ⊢
  cases hnext <;> simp [weight]

omit [DecidableEq κ] in
lemma weight_afterAdding (call : WatchCall κ) :
    (afterAdding call).weight = 0 ∨
      (0 < call.weight ∧ (afterAdding call).weight = call.weight + 1) := by
  match call with
  | .done (.ok ()) => exact Or.inl rfl
  | .done (.error e) => exact Or.inl rfl
  | .insertPair .. | .removePair .. | .removeIfEmpty .. | .capture .. | .write .. =>
    exact Or.inr ⟨by simp [WatchCall.weight], rfl⟩

omit [DecidableEq κ] in
lemma weight_afterClearing (task : CheckAndRemove κ) :
    (afterClearing task).weight = 0 ∨
      (0 < task.weight ∧ (afterClearing task).weight = task.weight + 1) := by
  match task with
  | .done (.ok ()) => exact Or.inl rfl
  | .done (.error e) => exact Or.inl rfl
  | .check identity => exact Or.inr ⟨by simp [CheckAndRemove.weight], rfl⟩
  | .remove call => exact Or.inr ⟨by simp [CheckAndRemove.weight], rfl⟩

omit [DecidableEq κ] in
lemma weight_afterPruning (waiting : List Text) (before : List (CheckAndRemove κ))
    (task : CheckAndRemove κ) (after : List (CheckAndRemove κ)) :
    (afterPruning waiting before task after).weight
        = (UpdaterActivity.pruning waiting (before ++ after)).weight ∨
      (0 < task.weight ∧ (afterPruning waiting before task after).weight
        = (UpdaterActivity.pruning waiting (before ++ after)).weight + task.weight + 1) := by
  match task with
  | .done result => exact Or.inl rfl
  | .check identity | .remove call =>
    refine Or.inr ⟨by simp [CheckAndRemove.weight], ?_⟩
    simp [afterPruning, UpdaterActivity.weight]
    omega

omit [DecidableEq κ] in
lemma weight_afterRemoval (call : WatchCall κ) :
    (afterRemoval call).weight = 0 ∨
      (0 < call.weight ∧ (afterRemoval call).weight = call.weight + 1) := by
  match call with
  | .done (.ok ()) => exact Or.inl rfl
  | .done (.error e) => exact Or.inl rfl
  | .insertPair .. | .removePair .. | .removeIfEmpty .. | .capture .. | .write .. =>
    exact Or.inr ⟨by simp [WatchCall.weight], rfl⟩

omit [DecidableEq κ] in
lemma weight_ofRemove_le {K : ListKind κ} {identity : Text} :
    (WatchCall.ofRemove K T identity).weight ≤ 4 := by
  rw [WatchCall.ofRemove]
  split <;> simp [WatchCall.weight]

lemma CheckAndRemove.weight_step {sled : Except String Unit} {task : CheckAndRemove κ}
    {w : WatchList κ} : (task.step config T hasDebt sled w).1.weight ≤ task.weight - 1 := by
  have hnext : Next config T hasDebt sled w task _ := step_next
  generalize task.step config T hasDebt sled w = s at hnext ⊢
  cases hnext with
  | cleared identity id borrower x hid hpair hdebt =>
    exact Nat.succ_le_succ weight_ofRemove_le
  | moved call =>
    have hcall : (call.step sled w).1.weight ≤ call.weight - 1 := call.weight_step
    have hafter := weight_afterRemoval (call.step sled w).1
    change (afterRemoval (call.step sled w).1).weight ≤ call.weight + 1 - 1
    omega
  | _ => simp [weight]

/-- Every step of the work brings its end nearer. -/
lemma workStep_weight (hstep : WorkStep config T hasDebt s s') : s'.1.weight < s.1.weight := by
  cases hstep with
  | add call w =>
    have hcall : (call.step (.ok ()) w).1.weight ≤ call.weight - 1 := call.weight_step
    have hafter := weight_afterAdding (call.step (.ok ()) w).1
    change (afterAdding (call.step (.ok ()) w).1).weight < call.weight + 1
    omega
  | clearing task w =>
    have htask : (task.step config T hasDebt (.ok ()) w).1.weight ≤ task.weight - 1 :=
      task.weight_step
    have hafter := weight_afterClearing (task.step config T hasDebt (.ok ()) w).1
    change (afterClearing (task.step config T hasDebt (.ok ()) w).1).weight < task.weight + 1
    omega
  | pruneTake identity waiting running w hroom =>
    simp [UpdaterActivity.weight, CheckAndRemove.weight]
    omega
  | pruneTask waiting before task after w =>
    have htask : (task.step config T hasDebt (.ok ()) w).1.weight ≤ task.weight - 1 :=
      task.weight_step
    have hafter :=
      weight_afterPruning waiting before (task.step config T hasDebt (.ok ()) w).1 after
    have hall : (UpdaterActivity.pruning waiting (before ++ task :: after)).weight
        = (UpdaterActivity.pruning waiting (before ++ after)).weight + task.weight + 1 := by
      simp [UpdaterActivity.weight]
      omega
    dsimp only
    omega
  | pruneDone w => simp [UpdaterActivity.weight]

/-- Nothing is under way. -/
def UpdaterActivity.Settled : UpdaterActivity κ → Prop
  | .idle => True
  | .stopped _ => True
  | _ => False

omit [DecidableEq κ] in
lemma settled_afterClearing_done (result : Except UpdaterError Unit) :
    (afterClearing (.done result : CheckAndRemove κ)).Settled := by
  cases result <;> exact trivial

lemma UpdaterActivity.Settled.stuck (h : s.1.Settled) (s' : UpdaterActivity κ × WatchList κ) :
    ¬ WorkStep config T hasDebt s s' := by
  intro hstep
  cases hstep <;> exact h

lemma workStep_progress (s : UpdaterActivity κ × WatchList κ) :
    s.1.Settled ∨ ∃ s', WorkStep config T hasDebt s s' := by
  obtain ⟨activity, w⟩ := s
  cases activity with
  | idle => exact Or.inl trivial
  | stopped result => exact Or.inl trivial
  | adding call => exact Or.inr ⟨_, .add call w⟩
  | clearing task => exact Or.inr ⟨_, .clearing task w⟩
  | pruning waiting running =>
    cases running with
    | cons task after => exact Or.inr ⟨_, .pruneTask waiting [] task after w⟩
    | nil =>
      cases waiting with
      | cons identity waiting => exact Or.inr ⟨_, .pruneTake identity waiting [] w (by simp)⟩
      | nil => exact Or.inr ⟨_, .pruneDone w⟩

/-- Whatever is taken up comes to its end, in every interleaving. -/
theorem workStep_inevitable (s : UpdaterActivity κ × WatchList κ) :
    Inevitable (WorkStep config T hasDebt) (fun s => s.1.Settled) s :=
  .of_measure (fun s => s.1.weight) workStep_progress (fun _ _ => workStep_weight) s

/-! ### The work that ends well -/

/-- No error has come up. -/
def WatchCall.Clean (call : WatchCall κ) : Prop := ∀ e, call ≠ .done (.error e)

/-- No error has come up, and none will when the debt is read. -/
def CheckAndRemove.Clean (config : UpdaterConfig κ ι) (T : EthersText)
    (hasDebt : Address → κ → Except String Bool) : CheckAndRemove κ → Prop
  | .check identity => ∃ id, TrackerIdentity.fromStr T identity = .ok id ∧
      ∀ b x e, config.kind.pairOf id = some (b, x) → hasDebt b x = .error e →
        config.debtFailure e = .ok ()
  | .remove call => call.Clean
  | .done result => result = .ok ()

/-- No error will end the updater: those of a prune pass are only logged. -/
def UpdaterActivity.Clean (config : UpdaterConfig κ ι) (T : EthersText)
    (hasDebt : Address → κ → Except String Bool) : UpdaterActivity κ → Prop
  | .adding call => call.Clean
  | .clearing task => task.Clean config T hasDebt
  | .stopped _ => False
  | _ => True

lemma WatchCall.Clean.step {call : WatchCall κ} {w : WatchList κ} (h : call.Clean) :
    (call.step (.ok ()) w).1.Clean := by
  have hnext : Next (.ok ()) call (call.step (.ok ()) w).1 := step_next
  generalize (call.step (.ok ()) w).1 = call' at hnext ⊢
  intro e
  cases hnext with
  | done result => exact h e
  | _ => simp

omit [DecidableEq κ] in
lemma WatchCall.clean_ofRemove {K : ListKind κ} {identity : Text} :
    (WatchCall.ofRemove K T identity).Clean := by
  intro e
  rw [WatchCall.ofRemove]
  split <;> simp

omit [DecidableEq κ] in
lemma clean_afterRemoval {call : WatchCall κ} (h : call.Clean) :
    (afterRemoval call).Clean config T hasDebt := by
  match call with
  | .done (.ok ()) => rfl
  | .done (.error e) => exact absurd rfl (h e)
  | .insertPair .. | .removePair .. | .removeIfEmpty .. | .capture .. | .write .. => exact h

lemma CheckAndRemove.Clean.step {task : CheckAndRemove κ} {w : WatchList κ}
    (h : task.Clean config T hasDebt) :
    (task.step config T hasDebt (.ok ()) w).1.Clean config T hasDebt := by
  have hnext : Next config T hasDebt (.ok ()) w task _ := step_next
  generalize task.step config T hasDebt (.ok ()) w = s at hnext ⊢
  cases hnext with
  | unparsed identity e hid =>
    obtain ⟨id, hok, -⟩ := h
    cases hid.symm.trans hok
  | cleared => exact WatchCall.clean_ofRemove
  | unread identity id borrower x e hid hpair hdebt =>
    obtain ⟨id', hok, hfailure⟩ := h
    cases hid.symm.trans hok
    exact hfailure borrower x e hpair hdebt
  | moved call => exact clean_afterRemoval (WatchCall.Clean.step h)
  | done result => exact h
  | foreign => rfl
  | indebted => rfl

omit [DecidableEq κ] in
lemma clean_afterAdding {call : WatchCall κ} (h : call.Clean) :
    (afterAdding call).Clean config T hasDebt := by
  match call with
  | .done (.ok ()) => exact trivial
  | .done (.error e) => exact absurd rfl (h e)
  | .insertPair .. | .removePair .. | .removeIfEmpty .. | .capture .. | .write .. => exact h

omit [DecidableEq κ] in
lemma clean_afterClearing {task : CheckAndRemove κ} (h : task.Clean config T hasDebt) :
    (afterClearing task).Clean config T hasDebt := by
  match task with
  | .done (.ok ()) => exact trivial
  | .done (.error e) => cases h
  | .check identity | .remove call => exact h

omit [DecidableEq κ] in
lemma clean_afterPruning {waiting : List Text} {before after : List (CheckAndRemove κ)}
    {task : CheckAndRemove κ} :
    (afterPruning waiting before task after).Clean config T hasDebt := by
  cases task <;> exact trivial

lemma clean_step : Preserves (WorkStep config T hasDebt) fun s => s.1.Clean config T hasDebt := by
  intro s s' hstep hclean
  cases hstep with
  | add call w => exact clean_afterAdding (WatchCall.Clean.step hclean)
  | clearing task w => exact clean_afterClearing (CheckAndRemove.Clean.step hclean)
  | pruneTask => exact clean_afterPruning
  | _ => exact trivial

/-- Then the updater is idle again, in every interleaving. -/
theorem idle_inevitable (hclean : s.1.Clean config T hasDebt) :
    Inevitable (WorkStep config T hasDebt) (fun s => s.1 = .idle) s := by
  refine ((workStep_inevitable s).and_preserved clean_step hclean).mono ?_
  rintro ⟨activity, w⟩ ⟨hsettled, hclean⟩
  cases activity with
  | idle => rfl
  | stopped result => cases hclean
  | _ => cases hsettled

/-! ### What the work does to a position -/

/-- The check has yet to take the position out. -/
def CheckAndRemove.Clears (config : UpdaterConfig κ ι) (T : EthersText)
    (hasDebt : Address → κ → Except String Bool) (b : Address) (x : κ) :
    CheckAndRemove κ → Prop
  | .check identity => config.kind.parse T identity = some (b, x) ∧ hasDebt b x = .ok false
  | .remove call => (b, x) ∈ call.removals
  | .done _ => False

/-- Some check of the work has yet to take the position out. -/
def UpdaterActivity.Clears (config : UpdaterConfig κ ι) (T : EthersText)
    (hasDebt : Address → κ → Except String Bool) (b : Address) (x : κ) :
    UpdaterActivity κ → Prop
  | .adding call => (b, x) ∈ call.removals
  | .clearing task => task.Clears config T hasDebt b x
  | .pruning waiting running =>
    (∃ identity ∈ waiting, (CheckAndRemove.check identity).Clears config T hasDebt b x) ∨
      ∃ task ∈ running, task.Clears config T hasDebt b x
  | _ => False

/-- The pair that the next step of a check puts into the list. -/
def CheckAndRemove.insertions : CheckAndRemove κ → List (Address × κ)
  | .remove call => call.insertions
  | _ => []

def UpdaterActivity.insertions : UpdaterActivity κ → List (Address × κ)
  | .adding call => call.insertions
  | .clearing task => task.insertions
  | .pruning _ running => running.flatMap CheckAndRemove.insertions
  | _ => []

variable {sled : Except String Unit} {task : CheckAndRemove κ} {w : WatchList κ} {b : Address}
  {x : κ}

omit [DecidableEq κ] in
lemma insertions_ofRemove {K : ListKind κ} {identity : Text} :
    (WatchCall.ofRemove K T identity).insertions = [] := by
  rw [WatchCall.ofRemove]
  split <;> rfl

omit [DecidableEq κ] in
lemma mem_removals_ofRemove {K : ListKind κ} {identity : Text} :
    (b, x) ∈ (WatchCall.ofRemove K T identity).removals ↔ K.parse T identity = some (b, x) := by
  rw [WatchCall.ofRemove]
  cases hparse : K.parse T identity with
  | none => simp [WatchCall.removals]
  | some pair => simp [WatchCall.removals, eq_comm]

omit [DecidableEq κ] in
lemma insertions_afterRemoval {call : WatchCall κ} :
    (afterRemoval call).insertions = call.insertions := by
  match call with
  | .done (.ok ()) => rfl
  | .done (.error e) => rfl
  | .insertPair .. | .removePair .. | .removeIfEmpty .. | .capture .. | .write .. => rfl

omit [DecidableEq κ] in
lemma clears_afterRemoval {call : WatchCall κ} :
    (afterRemoval call).Clears config T hasDebt b x ↔ (b, x) ∈ call.removals := by
  match call with
  | .done (.ok ()) => simp [afterRemoval, CheckAndRemove.Clears, WatchCall.removals]
  | .done (.error e) => simp [afterRemoval, CheckAndRemove.Clears, WatchCall.removals]
  | .insertPair .. | .removePair .. | .removeIfEmpty .. | .capture .. | .write .. => rfl

/-- A check adds nothing. -/
lemma CheckAndRemove.insertions_step :
    (task.step config T hasDebt sled w).1.insertions = [] := by
  have hnext : Next config T hasDebt sled w task _ := step_next
  generalize task.step config T hasDebt sled w = s at hnext ⊢
  cases hnext with
  | cleared => exact insertions_ofRemove
  | moved call => exact insertions_afterRemoval.trans call.insertions_step
  | _ => rfl

omit [DecidableEq κ] in
/-- What a check of a text will do depends on the position that the text names. -/
lemma CheckAndRemove.clears_check {identity : Text} {id : TrackerIdentity}
    (hid : TrackerIdentity.fromStr T identity = .ok id) :
    (check identity).Clears config T hasDebt b x ↔
      config.kind.pairOf id = some (b, x) ∧ hasDebt b x = .ok false := by
  rw [Clears, ListKind.parse, hid]

lemma CheckAndRemove.stays_done {result : Except UpdaterError Unit}
    (h : ¬ task.Clears config T hasDebt b x) :
    (w.contains b x = true ∧ ¬ (done result : CheckAndRemove κ).Clears config T hasDebt b x) ↔
      w.contains b x = true ∧ ¬ task.Clears config T hasDebt b x :=
  and_congr_right' (iff_of_true id h)

/-- A step of a check takes a position out exactly if it no longer has to afterwards. -/
lemma CheckAndRemove.stays_step (hins : task.insertions = []) :
    ((task.step config T hasDebt sled w).2.contains b x = true ∧
        ¬ (task.step config T hasDebt sled w).1.Clears config T hasDebt b x) ↔
      w.contains b x = true ∧ ¬ task.Clears config T hasDebt b x := by
  have hnext : Next config T hasDebt sled w task _ := step_next
  generalize task.step config T hasDebt sled w = s at hnext ⊢
  cases hnext with
  | unparsed identity e hid =>
    apply stays_done
    simp [Clears, ListKind.parse, hid]
  | foreign identity id hid hpair =>
    apply stays_done
    simp [clears_check hid, hpair]
  | cleared identity id borrower y hid hpair hdebt =>
    dsimp only
    rw [clears_check hid, Clears, mem_removals_ofRemove, ListKind.parse, hid]
    refine and_congr_right' (not_congr (and_iff_left_of_imp ?_)).symm
    intro hsame
    cases hpair.symm.trans hsame
    exact hdebt
  | indebted identity id borrower y hid hpair hdebt =>
    apply stays_done
    rw [clears_check hid, hpair]
    rintro ⟨⟨⟩, hfalse⟩
    cases hdebt.symm.trans hfalse
  | unread identity id borrower y e hid hpair hdebt =>
    apply stays_done
    rw [clears_check hid, hpair]
    rintro ⟨⟨⟩, hfalse⟩
    cases hdebt.symm.trans hfalse
  | moved call =>
    have hcontains : (call.step sled w).2.contains b x = true ↔ _ := call.contains_step_iff
    have hnone : call.insertions = [] := hins
    rw [hnone] at hcontains
    dsimp only
    rw [clears_afterRemoval, call.removals_step, hcontains]
    simp [Clears]
  | done result => rfl

omit [DecidableEq κ] in
lemma insertions_afterAdding {call : WatchCall κ} :
    (afterAdding call).insertions = call.insertions := by
  match call with
  | .done (.ok ()) => rfl
  | .done (.error e) => rfl
  | .insertPair .. | .removePair .. | .removeIfEmpty .. | .capture .. | .write .. => rfl

omit [DecidableEq κ] in
lemma insertions_afterClearing {task : CheckAndRemove κ} :
    (afterClearing task).insertions = task.insertions := by
  match task with
  | .done (.ok ()) => rfl
  | .done (.error e) => rfl
  | .check identity | .remove call => rfl

omit [DecidableEq κ] in
lemma insertions_afterPruning {waiting : List Text} {before after : List (CheckAndRemove κ)}
    {task : CheckAndRemove κ} :
    (afterPruning waiting before task after).insertions
      = (before ++ task :: after).flatMap CheckAndRemove.insertions := by
  match task with
  | .done result => simp [afterPruning, UpdaterActivity.insertions, CheckAndRemove.insertions]
  | .check identity | .remove call => rfl

omit [DecidableEq κ] in
lemma clears_afterAdding {call : WatchCall κ} :
    (afterAdding call).Clears config T hasDebt b x ↔ (b, x) ∈ call.removals := by
  match call with
  | .done (.ok ()) => simp [afterAdding, UpdaterActivity.Clears, WatchCall.removals]
  | .done (.error e) => simp [afterAdding, UpdaterActivity.Clears, WatchCall.removals]
  | .insertPair .. | .removePair .. | .removeIfEmpty .. | .capture .. | .write .. => rfl

omit [DecidableEq κ] in
lemma clears_afterClearing {task : CheckAndRemove κ} :
    (afterClearing task).Clears config T hasDebt b x ↔ task.Clears config T hasDebt b x := by
  match task with
  | .done (.ok ()) => rfl
  | .done (.error e) => rfl
  | .check identity | .remove call => rfl

omit [DecidableEq κ] in
lemma clears_pruning_cons {waiting : List Text} {before after : List (CheckAndRemove κ)} :
    (UpdaterActivity.pruning waiting (before ++ task :: after)).Clears config T hasDebt b x ↔
      (UpdaterActivity.pruning waiting (before ++ after)).Clears config T hasDebt b x ∨
        task.Clears config T hasDebt b x := by
  simp only [UpdaterActivity.Clears, List.mem_append, List.mem_cons, or_and_right, exists_or,
    exists_eq_left]
  rw [or_assoc, or_assoc, or_comm (b := task.Clears config T hasDebt b x)]

omit [DecidableEq κ] in
lemma clears_afterPruning {waiting : List Text} {before after : List (CheckAndRemove κ)} :
    (afterPruning waiting before task after).Clears config T hasDebt b x ↔
      (UpdaterActivity.pruning waiting (before ++ after)).Clears config T hasDebt b x ∨
        task.Clears config T hasDebt b x := by
  cases task with
  | done result => exact (or_false _).to_iff.symm
  | check identity => exact clears_pruning_cons
  | remove call => exact clears_pruning_cons

/-- The list holds the position and no check has yet to take it out. -/
def Stays (config : UpdaterConfig κ ι) (T : EthersText)
    (hasDebt : Address → κ → Except String Bool) (b : Address) (x : κ)
    (s : UpdaterActivity κ × WatchList κ) : Prop :=
  s.2.contains b x = true ∧ ¬ s.1.Clears config T hasDebt b x

/-- With no addition at its first move, a step leaves what stays as it is. -/
lemma workStep_stays (hstep : WorkStep config T hasDebt s s') (hins : s.1.insertions = []) :
    s'.1.insertions = [] ∧
      ∀ b x, Stays config T hasDebt b x s' ↔ Stays config T hasDebt b x s := by
  cases hstep with
  | add call w =>
    refine ⟨insertions_afterAdding.trans call.insertions_step, fun b x => ?_⟩
    have hcontains : (call.step (.ok ()) w).2.contains b x = true ↔ _ := call.contains_step_iff
    have hnone : call.insertions = [] := hins
    rw [hnone] at hcontains
    rw [Stays, Stays, clears_afterAdding, call.removals_step, hcontains]
    simp [UpdaterActivity.Clears]
  | clearing task w =>
    refine ⟨insertions_afterClearing.trans CheckAndRemove.insertions_step, fun b x => ?_⟩
    rw [Stays, clears_afterClearing]
    exact CheckAndRemove.stays_step hins
  | pruneTake identity waiting running w hroom =>
    refine ⟨?_, fun b x => and_congr_right' (not_congr ?_)⟩
    · simpa [UpdaterActivity.insertions, CheckAndRemove.insertions] using hins
    · have hcons : (UpdaterActivity.pruning waiting (running ++ .check identity :: [])).Clears
          config T hasDebt b x ↔ _ := clears_pruning_cons
      rw [hcons, List.append_nil]
      simp only [UpdaterActivity.Clears, List.mem_cons, or_and_right, exists_or, exists_eq_left]
      rw [or_comm, or_assoc]
  | pruneTask waiting before task after w =>
    rw [UpdaterActivity.insertions, List.flatMap_append, List.flatMap_cons] at hins
    obtain ⟨hbefore, hafter⟩ := List.append_eq_nil_iff.mp hins
    obtain ⟨htask, hafter⟩ := List.append_eq_nil_iff.mp hafter
    constructor
    · rw [insertions_afterPruning, List.flatMap_append, List.flatMap_cons,
        CheckAndRemove.insertions_step, hbefore, hafter]
      rfl
    · intro b x
      rw [Stays, Stays, clears_afterPruning, clears_pruning_cons, not_or, not_or,
        and_left_comm, CheckAndRemove.stays_step htask, and_left_comm]
  | pruneDone w => exact ⟨rfl, fun b x => by simp [Stays, UpdaterActivity.Clears]⟩

/-- So does a run, whatever the interleaving. -/
lemma stays_preserved (s : UpdaterActivity κ × WatchList κ) :
    Preserves (WorkStep config T hasDebt) fun t => t.1.insertions = [] ∧
      ∀ b x, Stays config T hasDebt b x t ↔ Stays config T hasDebt b x s := by
  rintro t t' hstep ⟨ht, hiff⟩
  obtain ⟨ht', hiff'⟩ := workStep_stays hstep ht
  exact ⟨ht', fun b x => (hiff' b x).trans (hiff b x)⟩

theorem run_stays (hrun : Run (WorkStep config T hasDebt) s s') (hins : s.1.insertions = []) :
    Stays config T hasDebt b x s' ↔ Stays config T hasDebt b x s :=
  ((stays_preserved s).run hrun ⟨hins, fun _ _ => Iff.rfl⟩).2 b x

end LiqRanger
