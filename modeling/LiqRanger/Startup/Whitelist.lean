import LiqRanger.Aave.Adapter
import LiqRanger.Startup.Tracking
import LiqRanger.Updater.Within

/-!
# Within the whitelist

Through all the starts of the engine, the lists and everything that is under way on them keep to
the whitelisted reserves and markets (`life_whitelisted`). So every position that the Aave updater
is to check has its variable debt token in the map that a start has filled (`life_answered`).
-/

namespace LiqRanger

open Effect Transition

variable {κ ι : Type} [DecidableEq κ] {K : ListKind κ} {T : EthersText} {chain : Chain κ}
  {config : BootstrapConfig κ} {updater : UpdaterConfig κ ι} {S : Set κ}

/-! ### Bootstrap -/

section
variable {w : BootstrapWorld κ}

lemma trackEntry_within {entry : Text} (hparse : ∀ p, K.parse T entry = some p → p.2 ∈ S)
    (hw : w.list.Within S) :
    (Bootstrap.trackEntry entry).Holds (bootstrapWorld K T chain) (fun w => w.list.Within S)
      (fun _ w' => w'.list.Within S) w := by
  rintro tracked w' ⟨rfl, rfl⟩
  refine ⟨hw, ?_⟩
  cases w'.list.containsIdentity K T entry with
  | true => exact hw
  | false =>
    rintro reply w₂ ⟨sled, hadd⟩
    obtain ⟨rfl, rfl⟩ := Prod.mk.inj hadd
    have hw₂ := hw.add sled hparse
    refine ⟨hw₂, ?_⟩
    cases (w'.list.add K T sled entry).1 with
    | error e => exact hw₂
    | ok => exact hw₂

lemma trackEntries_within (order : List Text)
    (hparse : ∀ entry ∈ order, ∀ p, K.parse T entry = some p → p.2 ∈ S) (hw : w.list.Within S) :
    (order.forM Bootstrap.trackEntry).Holds (bootstrapWorld K T chain) (fun w => w.list.Within S)
      (fun _ w' => w'.list.Within S) w := by
  refine Program.holds_forM (fun rest w => (∀ entry ∈ rest, entry ∈ order) ∧ w.list.Within S)
    ⟨fun _ h => h, hw⟩ ?_ fun _ h => h.2
  rintro entry rest w' ⟨hrest, hw'⟩
  have hentry := hparse entry (hrest entry List.mem_cons_self)
  refine (trackEntry_within hentry hw').mono fun o w'' hw'' => ?_
  match o with
  | .ok _ => exact ⟨fun entry' hmem => hrest entry' (List.mem_cons_of_mem _ hmem), hw''⟩
  | .error _ => exact hw''

/-- A bootstrap keeps to the markets if the texts of its whitelisted logs do. -/
lemma run_within
    (hid : ∀ b, ∀ x ∈ config.whitelist, ∀ p,
      K.parse T (config.identityText b x) = some p → p.2 ∈ S)
    (hw : w.list.Within S) :
    (Bootstrap.run config).Holds (bootstrapWorld K T chain) (fun w => w.list.Within S)
      (fun _ _ => True) w := by
  have hrun : (Bootstrap.run config).Holds (bootstrapWorld K T chain) (fun w => w.list.Within S)
      (fun o _ => o = .ok () → True) w := by
    refine run_holds_of hw fun latest => ?_
    refine scan_holds_of (fun _ w => w.list.Within S) (fun _ => True) (fun _ _ h => h) ?_
      (fun _ _ _ _ => trivial) hw
    intro start w order _ hw hentries
    refine (trackEntries_within order (fun entry hentry p hparse => ?_) hw).mono
      fun o w' hw' _ => ⟨hw', hw'⟩
    obtain ⟨block, -, -, log, -, hlog, rfl⟩ := (hentries entry).mp hentry
    exact hid log.borrower log.market hlog p hparse
  exact hrun.mono fun _ _ _ => trivial

end

/-! ### Runs -/

namespace Life

/-- What a phase keeps to. -/
def PhaseWithin (updater : UpdaterConfig κ ι) (T : EthersText) (chain : Chain κ) (S : Set κ)
    (s : Life κ ι) : Prop :=
  match s.phase with
  | .bootstrapping _ rest =>
    rest.Holds (bootstrapWorld updater.kind T chain) (fun w => w.list.Within S) (fun _ _ => True)
      ⟨s.list, s.saved⟩
  | .starting _ => True
  | .updating _ _ _ activity => Confined updater.kind T S s.list activity

/-- The list and what is under way keep to the markets. -/
structure Whitelisted (updater : UpdaterConfig κ ι) (T : EthersText) (chain : Chain κ) (S : Set κ)
    (s : Life κ ι) : Prop where
  list : s.list.Within S
  phase : s.PhaseWithin updater T chain S

variable {s : Life κ ι}

lemma whitelisted_initial (updater : UpdaterConfig κ ι)
    (hid : ∀ b, ∀ x ∈ config.whitelist, ∀ p,
      updater.kind.parse T (config.identityText b x) = some p → p.2 ∈ S) :
    (initial config : Life κ ι).Whitelisted updater T chain S := by
  have hnew : (WatchList.new (∅ : MultiMap Address κ)).Within S :=
    WatchList.within_new fun b x hx => absurd hx (by simp [MultiMap.contains])
  exact ⟨hnew, run_within hid hnew⟩

variable [DecidableEq ι]

/-- Every step keeps to the markets. -/
theorem whitelisted_step (updater : UpdaterConfig κ ι)
    (hid : ∀ b, ∀ x ∈ config.whitelist, ∀ p,
      updater.kind.parse T (config.identityText b x) = some p → p.2 ∈ S)
    (hlist : ∀ x ∈ updater.whitelist, x ∈ S) (hsnapshot : updater.SnapshotTracked T) :
    Preserves (Step updater.kind T chain config updater) (Whitelisted updater T chain S) := by
  intro s s' hstep h
  have hphase := h.phase
  rw [PhaseWithin] at hphase
  cases hstep with
  | mine debt hborrow =>
    refine ⟨h.list, ?_⟩
    rw [PhaseWithin]
    cases hat : s.phase with
    | bootstrapping tip rest =>
      rw [hat] at hphase
      exact hphase
    | starting tip => trivial
    | updating tip opened streams activity =>
      rw [hat] at hphase
      exact hphase
  | call tip op next reply w hat hreply htip =>
    rw [hat] at hphase
    obtain ⟨hw, hnext⟩ := hphase reply w hreply
    exact ⟨hw, hnext⟩
  | bootstrapped tip hat => exact ⟨h.list, trivial⟩
  | subscribe tip hat =>
    exact ⟨h.list, h.list, fun call hcall => absurd hcall List.not_mem_nil,
      fun identity hmem => absurd hmem List.not_mem_nil⟩
  | work tip opened streams activity u hat hwork =>
    rw [hat] at hphase
    have hconfined := Confined.work (u := s.updaterState streams activity) hlist hsnapshot hphase
      hwork
    exact ⟨hconfined.list, hconfined⟩
  | restart =>
    have hnew := WatchList.within_new h.list.rows
    exact ⟨hnew, run_within hid hnew⟩

end Life

/-! ### Variable debt tokens -/

/-- The call for the data of a reserve. -/
inductive ReserveOp where
  | getReserveData (asset : Address)

/-- Of the data, the variable debt token. -/
def ReserveOp.Reply : ReserveOp → Type
  | .getReserveData _ => Except String Address

abbrev reserveCalls : Interface := ⟨ReserveOp, ReserveOp.Reply⟩

/-- The pool is asked for the debt token of a reserve. -/
def AaveConfig.insertVdebtToken (mapping : Address → Option Address) (reserve : Address) :
    Program reserveCalls String (Address → Option Address) := do
  let vdebtToken ← .call (.getReserveData reserve) Program.ofExcept
  return Function.update mapping reserve (some vdebtToken)

/-- The debt tokens of all reserves, in the order of an iteration over them. The first error ends
it, and the map stays as it was. -/
def AaveConfig.populateVdebtTokens (reserves : List Address) (config : AaveConfig) :
    Program reserveCalls String AaveConfig := do
  let vdebtMapping ← reserves.foldlM AaveConfig.insertVdebtToken fun _ => none
  return { config with vdebtTokens := vdebtMapping }

section
variable {reserves : List Address} {mapping mapping' : Address → Option Address}
  {t : List (Event reserveCalls)} {config config' : AaveConfig} {reserve : Address}

/-- Every reserve that is asked for gets the token of an answer, and the others keep theirs. -/
lemma insertVdebtTokens_trace
    (h : (reserves.foldlM AaveConfig.insertVdebtToken mapping).Trace t (.ok mapping')) :
    (reserve ∈ reserves → ∃ vDebt, mapping' reserve = some vDebt ∧
      (⟨.getReserveData reserve, .ok vDebt⟩ : Event reserveCalls) ∈ t) ∧
    (reserve ∉ reserves → mapping' reserve = mapping reserve) := by
  induction reserves generalizing mapping t with
  | nil =>
    obtain ⟨-, hmapping⟩ := h
    cases hmapping
    exact ⟨fun hmem => absurd hmem List.not_mem_nil, fun _ => rfl⟩
  | cons asked rest ih =>
    rw [List.foldlM_cons] at h
    obtain ⟨reply, t', rfl, h⟩ := h
    cases reply with
    | error e => cases h.2
    | ok vDebt =>
      obtain ⟨hin, hout⟩ := ih h
      by_cases hrest : reserve ∈ rest
      · obtain ⟨vDebt', hmapping, hevent⟩ := hin hrest
        exact ⟨fun _ => ⟨vDebt', hmapping, List.mem_cons_of_mem _ hevent⟩,
          fun hmem => absurd (List.mem_cons_of_mem _ hrest) hmem⟩
      · rw [hout hrest]
        constructor
        · intro hmem
          obtain rfl := (List.mem_cons.mp hmem).resolve_right hrest
          exact ⟨vDebt, Function.update_self .., List.mem_cons_self⟩
        · intro hmem
          have hne : reserve ≠ asked := fun heq => hmem (heq ▸ List.mem_cons_self)
          exact Function.update_of_ne hne ..

lemma populateVdebtTokens_trace
    (h : (AaveConfig.populateVdebtTokens reserves config).Trace t (.ok config'))
    (hreserve : reserve ∈ reserves) : ∃ vDebt, config'.vdebtTokens reserve = some vDebt ∧
      (⟨.getReserveData reserve, .ok vDebt⟩ : Event reserveCalls) ∈ t := by
  rw [AaveConfig.populateVdebtTokens, Program.trace_bind] at h
  obtain ⟨e, -, he⟩ | ⟨t₁, t₂, mapping, rfl, hfold, -, hconfig⟩ := h
  · cases he
  · cases hconfig
    obtain ⟨vDebt, hmapping, hevent⟩ := (insertVdebtTokens_trace hfold).1 hreserve
    exact ⟨vDebt, hmapping, List.mem_append_left _ hevent⟩

/-- A pool that always answers fills the map. -/
lemma exists_populateVdebtTokens (reserves : List Address) (config : AaveConfig)
    (vDebt : Address → Address) :
    ∃ config', (AaveConfig.populateVdebtTokens reserves config).Trace
      (reserves.map fun reserve => ⟨.getReserveData reserve, .ok (vDebt reserve)⟩)
      (.ok config') := by
  have hfold : ∀ mapping, ∃ mapping',
      (reserves.foldlM AaveConfig.insertVdebtToken mapping).Trace
        (reserves.map fun reserve => ⟨.getReserveData reserve, .ok (vDebt reserve)⟩)
        (.ok mapping') := by
    induction reserves with
    | nil => exact fun mapping => ⟨mapping, rfl, rfl⟩
    | cons asked rest ih =>
      intro mapping
      obtain ⟨mapping', hrest⟩ := ih (Function.update mapping asked (some (vDebt asked)))
      refine ⟨mapping', ?_⟩
      rw [List.foldlM_cons]
      exact ⟨_, _, rfl, hrest⟩
  obtain ⟨mapping, hfold⟩ := hfold fun _ => none
  refine ⟨{ config with vdebtTokens := mapping }, ?_⟩
  rw [AaveConfig.populateVdebtTokens, Program.trace_bind]
  exact Or.inr ⟨_, [], mapping, (List.append_nil _).symm, hfold, rfl, rfl⟩

end

/-! ### The two protocols -/

lemma aaveLife_whitelisted {chain : Chain Address} {s : Life Address Unit}
    (hrun : Run (Life.Step aaveKind T chain (aaveBootstrap T) (aaveUpdater T))
      (.initial (aaveBootstrap T)) s) :
    s.Whitelisted (aaveUpdater T) T chain {reserve | reserve ∈ aaveReserves} := by
  have hid : ∀ b, ∀ reserve ∈ (aaveBootstrap T).whitelist, ∀ p,
      aaveKind.parse T ((aaveBootstrap T).identityText b reserve) = some p →
        p.2 ∈ {reserve | reserve ∈ aaveReserves} := by
    intro b reserve hreserve p hparse
    rw [aaveBootstrap_identityText] at hparse
    cases hparse
    exact hreserve
  exact (Life.whitelisted_step (aaveUpdater T) hid (fun _ h => h)
    aaveUpdater_snapshotTracked).run hrun (Life.whitelisted_initial _ hid)

lemma morphoLife_whitelisted {chain : Chain H256} {s : Life H256 EventKind}
    (hrun : Run (Life.Step morphoKind T chain (morphoBootstrap T) (morphoUpdater T))
      (.initial (morphoBootstrap T)) s) :
    s.Whitelisted (morphoUpdater T) T chain {market | market ∈ morphoMarkets} := by
  -- no text of this bootstrap stands for a position
  have hid : ∀ b, ∀ market ∈ (morphoBootstrap T).whitelist, ∀ p,
      morphoKind.parse T ((morphoBootstrap T).identityText b market) = some p →
        p.2 ∈ {market | market ∈ morphoMarkets} := by
    intro b market hmarket p hparse
    have hnone : morphoKind.parse T ((morphoBootstrap T).identityText b market) = none :=
      morphoKind_parse_swapped b market
    cases hnone.symm.trans hparse
  exact (Life.whitelisted_step (morphoUpdater T) hid (fun _ h => h)
    morphoUpdater_snapshotTracked).run hrun (Life.whitelisted_initial _ hid)

/-- Whatever the chain logs, whatever fails and wherever the engine is started again: the Aave list
holds positions on whitelisted reserves only, in the cache and on disk, the Morpho list positions
on whitelisted markets, and so it is with what an updater is still to check. -/
theorem life_whitelisted (T : EthersText) :
    (∀ chain s, Run (Life.Step aaveKind T chain (aaveBootstrap T) (aaveUpdater T))
        (.initial (aaveBootstrap T)) s →
      (∀ b reserve, s.list.contains b reserve = true ∨ s.list.rows.contains b reserve = true →
        reserve ∈ aaveReserves) ∧
      ∀ tip opened streams activity, s.phase = .updating tip opened streams activity →
        ∀ identity ∈ activity.checks, ∃ b, ∃ reserve ∈ aaveReserves,
          identity = aaveKind.text T b reserve) ∧
    (∀ chain s, Run (Life.Step morphoKind T chain (morphoBootstrap T) (morphoUpdater T))
        (.initial (morphoBootstrap T)) s →
      (∀ b market, s.list.contains b market = true ∨ s.list.rows.contains b market = true →
        market ∈ morphoMarkets) ∧
      ∀ tip opened streams activity, s.phase = .updating tip opened streams activity →
        ∀ identity ∈ activity.checks, ∃ b, ∃ market ∈ morphoMarkets,
          identity = morphoKind.text T b market) := by
  constructor
  · intro chain s hrun
    have h := aaveLife_whitelisted hrun
    refine ⟨fun b reserve hmem => hmem.elim (h.list.cache b reserve) (h.list.rows b reserve), ?_⟩
    intro tip opened streams activity hat identity hmem
    have hphase := h.phase
    rw [Life.PhaseWithin, hat] at hphase
    exact hphase.checks identity hmem
  · intro chain s hrun
    have h := morphoLife_whitelisted hrun
    refine ⟨fun b market hmem => hmem.elim (h.list.cache b market) (h.list.rows b market), ?_⟩
    intro tip opened streams activity hat identity hmem
    have hphase := h.phase
    rw [Life.PhaseWithin, hat] at hphase
    exact hphase.checks identity hmem

/-- The updater takes the Borrow from its stream. -/
lemma exists_sampleTracked : ∃ s : Life Address Unit,
    Run (Life.Step aaveKind .reference sampleLifeChain (aaveBootstrap .reference)
        (aaveUpdater .reference)) (.initial (aaveBootstrap .reference)) s ∧
      s.list.contains (.zero 20) (.ofNat 20 0x3c499c542cEF5E3811e1192ce70d8cC03d5c3359) = true := by
  obtain ⟨s, hrun, hphase, -⟩ := exists_sampleLife
  have hlisted : (.ofNat 20 0x3c499c542cEF5E3811e1192ce70d8cC03d5c3359 : Address) ∈ aaveReserves :=
    List.mem_cons_self
  generalize (.ofNat 20 0x3c499c542cEF5E3811e1192ce70d8cC03d5c3359 : Address) = reserve at *
  have hdeliver : UpdaterStep.Work (aaveUpdater .reference) .reference
      (s.updaterState (fun _ => [⟨.borrow, reserve, .zero 20⟩]) .idle) _ :=
    ⟨.deliver _ () ⟨.borrow, reserve, .zero 20⟩ [] rfl rfl, rfl, fun _ => List.nil_suffix⟩
  exact ⟨_, hrun.tail (.work s _ _ _ _ _ hphase hdeliver), contains_handleEvent_borrow hlisted⟩

/-- The updater has the list track a Borrow that came after the bootstrap. -/
theorem life_whitelisted_sample : ∃ s : Life Address Unit,
    s.list.contains (.zero 20) (.ofNat 20 0x3c499c542cEF5E3811e1192ce70d8cC03d5c3359) = true ∧
    ∀ b reserve, s.list.contains b reserve = true ∨ s.list.rows.contains b reserve = true →
      reserve ∈ aaveReserves := by
  obtain ⟨s, hrun, htracked⟩ := exists_sampleTracked
  exact ⟨s, htracked, ((life_whitelisted .reference).1 _ s hrun).1⟩

/-- After a start that has filled the map of the debt tokens, a position that the Aave updater is
to check, or that its list tracks, is on a reserve with the token that the pool has named, and the
check fails only as the call for the balance does. -/
theorem life_answered {chain : Chain Address} {s : Life Address Unit} {reserves : List Address}
    {t : List (Event reserveCalls)} {config config' : AaveConfig}
    (hrun : Run (Life.Step aaveKind T chain (aaveBootstrap T) (aaveUpdater T))
      (.initial (aaveBootstrap T)) s)
    (hreserves : ∀ reserve, reserve ∈ reserves ↔ reserve ∈ aaveReserves)
    (hpopulate : (AaveConfig.populateVdebtTokens reserves config).Trace t (.ok config'))
    (b reserve : Address) (htracked : s.list.contains b reserve = true ∨
      ∃ tip opened streams activity, s.phase = .updating tip opened streams activity ∧
        aaveKind.text T b reserve ∈ activity.checks) :
    ∃ vDebt, (⟨.getReserveData reserve, .ok vDebt⟩ : Event reserveCalls) ∈ t ∧
      ∀ balanceOf : Address → Address → Except String U256,
        hasOutstandingDebt T config'.vdebtTokens balanceOf b reserve
          = (balanceOf vDebt b).map fun debt => debt != 0 := by
  have h := aaveLife_whitelisted hrun
  have hlisted : reserve ∈ aaveReserves := by
    rcases htracked with hmem | ⟨tip, opened, streams, activity, hat, hmem⟩
    · exact h.list.cache b reserve hmem
    · have hphase := h.phase
      rw [Life.PhaseWithin, hat] at hphase
      obtain ⟨b', reserve', hreserve', htext⟩ := hphase.checks _ hmem
      have hpair := congrArg (aaveKind.parse T) htext
      have hsame : aaveKind.parse T (aaveKind.text T b reserve) = some (b', reserve') :=
        hpair.trans (ListKind.parse_text b' reserve')
      rw [ListKind.parse_text] at hsame
      cases hsame
      exact hreserve'
  obtain ⟨vDebt, hmapping, hevent⟩ :=
    populateVdebtTokens_trace hpopulate ((hreserves reserve).mpr hlisted)
  refine ⟨vDebt, hevent, fun balanceOf => ?_⟩
  rw [hasOutstandingDebt, hmapping]
  dsimp only
  cases balanceOf vDebt b with
  | error e => rfl
  | ok debt => rfl

theorem life_answered_sample : ∃ s : Life Address Unit, ∃ config : AaveConfig, ∃ vDebt,
    s.list.contains (.zero 20) (.ofNat 20 0x3c499c542cEF5E3811e1192ce70d8cC03d5c3359) = true ∧
    ∀ balanceOf : Address → Address → Except String U256,
      hasOutstandingDebt .reference config.vdebtTokens balanceOf (.zero 20)
          (.ofNat 20 0x3c499c542cEF5E3811e1192ce70d8cC03d5c3359)
        = (balanceOf vDebt (.zero 20)).map fun debt => debt != 0 := by
  obtain ⟨s, hrun, htracked⟩ := exists_sampleTracked
  obtain ⟨config, hpopulate⟩ := exists_populateVdebtTokens aaveReserves ⟨.zero 20, fun _ => none⟩ id
  obtain ⟨vDebt, -, hanswer⟩ := life_answered hrun (fun _ => Iff.rfl) hpopulate _ _
    (Or.inl htracked)
  exact ⟨s, config, vDebt, htracked, hanswer⟩

end LiqRanger
