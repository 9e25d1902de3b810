import LiqRanger.Updater.Prune

/-!
# Deliveries and failing checks

An updater that is handed one event or prune command after the other, with every write applied and
debt checks that may fail. A prune pass logs a failed check and goes on with the next. A check that
an event started ends the updater with its error, unless the error is swallowed
(`survives_iff_bearable`): the Morpho updater does so (`morphoUpdater_survives`), the Aave updater
does not (`aaveUpdater_survives_iff`).
-/

namespace LiqRanger

open Transition

/-- What an updater is handed. -/
inductive UpdaterInput (κ : Type) where
  | event (log : PositionLog κ)
  /-- An event of another kind, an error of the stream or a status check. -/
  | other
  | prune

/-- A delivery, with the answers to the debt checks that it starts. -/
structure Handed (κ : Type) where
  delivery : UpdaterInput κ
  hasDebt : Address → κ → Except String Bool

variable {κ ι : Type} [DecidableEq κ] (config : UpdaterConfig κ ι) (T : EthersText)

/-- What the updater is busy with right after a delivery. -/
inductive Starts : UpdaterInput κ → WatchList κ → UpdaterActivity κ × WatchList κ → Prop where
  | event (log : PositionLog κ) (w : WatchList κ) :
      Starts (.event log) w (handleEvent config T log w)
  | other (w : WatchList κ) : Starts .other w (.idle, w)
  | prune (w : WatchList κ) (entries : List (Address × List κ)) (hvisits : Visits entries w.cache) :
      Starts .prune w (.pruning (config.snapshot entries) [], w)

/-- What a delivery has done to the list: a Borrow is in it, and a position whose check failed is
as it was. -/
def Handed.KeepsUp (d : Handed κ) (w w' : WatchList κ) : Prop :=
  match d.delivery with
  | .event log =>
    log.market ∈ config.whitelist →
      (log.kind = .borrow → w'.contains log.borrower log.market = true) ∧
      (log.kind ≠ .borrow → ∀ e, d.hasDebt log.borrower log.market = .error e → w' = w)
  | .other => w' = w
  | .prune => ∀ b x e, d.hasDebt b x = .error e → w'.contains b x = w.contains b x

/-- Every run consumes all deliveries: after each the updater is idle again, and the list has kept
up with it. -/
def Survives : List (Handed κ) → WatchList κ → Prop
  | [], _ => True
  | d :: rest, w => ∀ s, Starts config T d.delivery w s →
      Inevitable (WorkStep config T d.hasDebt)
        (fun s' => s'.1 = .idle ∧ d.KeepsUp config w s'.2 ∧ Survives rest s'.2) s

/-- No check that an event starts fails with an error that ends the updater. -/
def Handed.Bearable (d : Handed κ) : Prop :=
  ∀ log e, d.delivery = .event log → log.market ∈ config.whitelist → log.kind ≠ .borrow →
    d.hasDebt log.borrower log.market = .error e → config.debtFailure e = .ok ()

variable {config T} {d : Handed κ} {w w' : WatchList κ} {log : PositionLog κ}
  {hasDebt : Address → κ → Except String Bool} {s s' : UpdaterActivity κ × WatchList κ} {e : String}

/-- Something always starts. -/
lemma exists_starts (delivery : UpdaterInput κ) (w : WatchList κ) :
    ∃ s, Starts config T delivery w s := by
  cases delivery with
  | event log => exact ⟨_, .event log w⟩
  | other => exact ⟨_, .other w⟩
  | prune =>
    obtain ⟨entries, hvisits⟩ := Visits.exists_of_cache w.cache
    exact ⟨_, .prune w entries hvisits⟩

/-! ### Events -/

/-- A Borrow starts an addition. -/
lemma handleEvent_borrow (hlist : log.market ∈ config.whitelist) (hkind : log.kind = .borrow) :
    handleEvent config T log w
      = (.adding ((WatchCall.insertPair log.borrower log.market).step (.ok ()) w).1,
        ((WatchCall.insertPair log.borrower log.market).step (.ok ()) w).2) := by
  rw [handleEvent, if_pos hlist, hkind]
  simp only [WatchCall.ofAdd, ListKind.parse_text]

/-- Any other event starts a check. -/
lemma handleEvent_clear (hlist : log.market ∈ config.whitelist) (hkind : log.kind ≠ .borrow) :
    handleEvent config T log w
      = (.clearing (.check (config.kind.text T log.borrower log.market)), w) := by
  rw [handleEvent, if_pos hlist]
  cases hlog : log.kind with
  | borrow => exact absurd hlog hkind
  | repay => rfl
  | liquidation => rfl

/-- A Borrow is in the list once the updater is idle again. -/
lemma borrow_inevitable (hlist : log.market ∈ config.whitelist) (hkind : log.kind = .borrow) :
    Inevitable (WorkStep config T hasDebt)
      (fun s => s.1 = .idle ∧ s.2.contains log.borrower log.market = true)
      (handleEvent config T log w) := by
  rw [handleEvent_borrow hlist hkind]
  set start := (WatchCall.insertPair log.borrower log.market).step (.ok ()) w with hstart
  have hclean : (UpdaterActivity.adding start.1).Clean config T hasDebt :=
    WatchCall.Clean.step nofun
  have hins : (UpdaterActivity.adding start.1).insertions = [] := WatchCall.insertions_step
  have hstays : Stays config T hasDebt log.borrower log.market (.adding start.1, start.2) := by
    have hmem : ((WatchCall.insertPair log.borrower log.market).step (.ok ()) w).2.contains
      log.borrower log.market = true := WatchCall.contains_step_insertPair
    refine ⟨hmem, ?_⟩
    change ¬ (log.borrower, log.market) ∈ start.1.removals
    rw [hstart, WatchCall.removals_step]
    exact List.not_mem_nil
  have hend : Inevitable (WorkStep config T hasDebt) (fun s => s.1 = .idle)
    (.adding start.1, start.2) := idle_inevitable hclean
  refine (hend.and_preserved (stays_preserved _) ⟨hins, fun _ _ => Iff.rfl⟩).mono ?_
  rintro s ⟨hidle, -, hiff⟩
  exact ⟨hidle, ((hiff _ _).mpr hstays).1⟩

/-- Nor does a check that succeeds keep the updater from being idle again. -/
lemma answered_inevitable {b : Address} {x : κ} (hanswer : ∀ e, hasDebt b x ≠ .error e) :
    Inevitable (WorkStep config T hasDebt) (fun s => s.1 = .idle)
      (.clearing (.check (config.kind.text T b x)), w) := by
  refine idle_inevitable ⟨_, TrackerIdentity.fromStr_toStringId _, ?_⟩
  intro b' x' e hpair hfailed
  rw [(config.kind.pairOf_eq_some_iff _ _ _).mpr rfl] at hpair
  obtain ⟨rfl, rfl⟩ := Prod.mk.inj (Option.some.inj hpair)
  exact absurd hfailed (hanswer e)

/-- The only step after a check that fails. -/
lemma workStep_failed {b : Address} {x : κ} (hfailed : hasDebt b x = .error e)
    (hstep : WorkStep config T hasDebt (.clearing (.check (config.kind.text T b x)), w) s') :
    s' = (afterClearing (.done (config.debtFailure e)), w) := by
  cases hstep with
  | clearing => rw [CheckAndRemove.step_check_of_error hfailed]

/-- A check that fails leaves the list as it is, and the updater is idle again exactly if the
failure is swallowed. -/
lemma failed_inevitable_iff {b : Address} {x : κ} {P : UpdaterActivity κ × WatchList κ → Prop}
    (hfailed : hasDebt b x = .error e) (hP : ∀ s, P s → s.1 = .idle) :
    Inevitable (WorkStep config T hasDebt) P
        (.clearing (.check (config.kind.text T b x)), w) ↔
      config.debtFailure e = .ok () ∧ P (.idle, w) := by
  constructor
  · intro h
    cases h with
    | now h => cases hP _ h
    | later hmove h =>
      obtain ⟨s', hstep⟩ := hmove
      have hs' := h s' hstep
      rw [workStep_failed hfailed hstep] at hs'
      have hend := hs'.of_stuck (UpdaterActivity.Settled.stuck (settled_afterClearing_done _))
      cases hresult : config.debtFailure e with
      | error e' =>
        rw [hresult] at hend
        cases hP _ hend
      | ok =>
        rw [hresult] at hend
        exact ⟨rfl, hend⟩
  · rintro ⟨hok, hend⟩
    refine .later ⟨_, .clearing _ _⟩ fun s' hstep => .now ?_
    rw [workStep_failed hfailed hstep, hok]
    exact hend

/-! ### Deliveries -/

/-- The list keeps up with a delivery that the updater bears. -/
lemma Handed.Bearable.inevitable (h : d.Bearable config) (hstart : Starts config T d.delivery w s) :
    Inevitable (WorkStep config T d.hasDebt) (fun s' => s'.1 = .idle ∧ d.KeepsUp config w s'.2)
      s := by
  obtain ⟨delivery, hasDebt⟩ := d
  cases hstart with
  | other => exact .now ⟨rfl, rfl⟩
  | prune _ entries hvisits =>
    have hend : Inevitable (WorkStep config T hasDebt) (fun s => s.1 = .idle)
      (.pruning (config.snapshot entries) [], w) := prune_inevitable
    refine (hend.and_preserved (stays_preserved _) ⟨rfl, fun _ _ => Iff.rfl⟩).mono ?_
    rintro ⟨activity, w'⟩ ⟨rfl, -, hiff⟩
    refine ⟨rfl, fun b x e hfailed => ?_⟩
    have hstays := hiff b x
    replace hfailed : hasDebt b x = .error e := hfailed
    simpa [Stays, UpdaterActivity.Clears, CheckAndRemove.Clears, hfailed] using hstays
  | event log =>
    by_cases hlist : log.market ∈ config.whitelist
    · by_cases hkind : log.kind = .borrow
      · refine (borrow_inevitable hlist hkind).mono ?_
        rintro s' ⟨hidle, hmem⟩
        exact ⟨hidle, fun _ => ⟨fun _ => hmem, fun hne => absurd hkind hne⟩⟩
      · rw [handleEvent_clear hlist hkind]
        cases hanswer : hasDebt log.borrower log.market with
        | error e =>
          refine (failed_inevitable_iff hanswer fun _ => And.left).mpr ⟨?_, rfl, ?_⟩
          · exact h log e rfl hlist hkind hanswer
          · exact fun _ => ⟨fun hborrow => absurd hborrow hkind, fun _ _ _ => rfl⟩
        | ok answer =>
          have hok : ∀ e, hasDebt log.borrower log.market ≠ .error e := by
            intro e he
            rw [hanswer] at he
            cases he
          refine (answered_inevitable hok).mono fun s' hidle => ⟨hidle, fun _ => ?_⟩
          exact ⟨fun hborrow => absurd hborrow hkind, fun _ e he => absurd he (hok e)⟩
    · rw [handleEvent, if_neg hlist]
      exact .now ⟨rfl, fun hmem => absurd hmem hlist⟩

/-- And only with such a delivery. -/
lemma Handed.bearable_of_inevitable {P : UpdaterActivity κ × WatchList κ → Prop}
    (hP : ∀ s, P s → s.1 = .idle)
    (h : ∀ s, Starts config T d.delivery w s → Inevitable (WorkStep config T d.hasDebt) P s) :
    d.Bearable config := by
  intro log e hevent hlist hkind hfailed
  rw [hevent] at h
  have hstart := h _ (.event log w)
  rw [handleEvent_clear hlist hkind] at hstart
  exact ((failed_inevitable_iff hfailed hP).mp hstart).1

/-- An updater consumes all deliveries and its list keeps up with them exactly if it bears each of
them. -/
theorem survives_iff_bearable (deliveries : List (Handed κ)) (w : WatchList κ) :
    Survives config T deliveries w ↔ ∀ d ∈ deliveries, d.Bearable config := by
  induction deliveries generalizing w with
  | nil => simp [Survives]
  | cons d rest ih =>
    rw [List.forall_mem_cons, Survives]
    constructor
    · intro h
      refine ⟨Handed.bearable_of_inevitable (fun _ => And.left) h, ?_⟩
      obtain ⟨s, hstart⟩ : ∃ s, Starts config T d.delivery w s := exists_starts d.delivery w
      obtain ⟨s', -, -, -, hrest⟩ := (h s hstart).exists_run
      exact (ih s'.2).mp hrest
    · rintro ⟨hd, hrest⟩ s hstart
      refine (hd.inevitable hstart).mono ?_
      rintro s' ⟨hidle, hkeeps⟩
      exact ⟨hidle, hkeeps, (ih s'.2).mpr hrest⟩

/-! ### The two updaters -/

/-- The Morpho updater swallows every failure. -/
theorem morphoUpdater_survives (T : EthersText) (deliveries : List (Handed H256))
    (w : MorphoWatchList) : Survives (morphoUpdater T) T deliveries w :=
  (survives_iff_bearable deliveries w).mpr fun _ _ _ _ _ _ _ _ => rfl

/-- The Aave updater consumes every sequence of events and prune commands, and its list keeps up
with it, exactly if no check that an event of a whitelisted reserve starts fails. -/
theorem aaveUpdater_survives_iff (T : EthersText) (deliveries : List (Handed Address))
    (w : AaveWatchList) :
    Survives (aaveUpdater T) T deliveries w ↔
      ∀ d ∈ deliveries, ∀ log, d.delivery = .event log → log.market ∈ aaveReserves →
        log.kind ≠ .borrow → ∃ answer, d.hasDebt log.borrower log.market = .ok answer := by
  rw [survives_iff_bearable]
  apply forall₂_congr
  intro d hd
  constructor
  · intro h log hevent hlist hkind
    cases hanswer : d.hasDebt log.borrower log.market with
    | ok answer => exact ⟨answer, rfl⟩
    | error e => cases h log e hevent hlist hkind hanswer
  · intro h log e hevent hlist hkind hfailed
    obtain ⟨answer, hanswer⟩ := h log hevent hlist hkind
    rw [hfailed] at hanswer
    cases hanswer

/-- A Repay whose check fails ends the Aave updater before the Borrow behind it. -/
theorem aaveUpdater_stopped_by_check :
    let reserve : Address := .ofNat 20 0x3c499c542cEF5E3811e1192ce70d8cC03d5c3359
    let timeout : Address → Address → Except String Bool := fun _ _ => .error "timeout"
    reserve ∈ aaveReserves ∧
      ¬ Survives (aaveUpdater .reference) .reference
        [⟨.event ⟨.repay, reserve, .zero 20⟩, timeout⟩,
          ⟨.event ⟨.borrow, reserve, .zero 20⟩, timeout⟩] (.new ∅) := by
  intro reserve timeout
  have hlist : reserve ∈ aaveReserves := List.mem_cons_self
  refine ⟨hlist, fun h => ?_⟩
  rw [survives_iff_bearable] at h
  have hresult := h _ List.mem_cons_self ⟨.repay, reserve, .zero 20⟩ "timeout" rfl hlist nofun rfl
  cases hresult

end LiqRanger
