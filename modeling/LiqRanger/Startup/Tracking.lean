import LiqRanger.Bootstrap.Properties
import LiqRanger.Startup.Life

/-!
# No debtor is lost

Through all the starts of the engine, a position with debt is never lost for good: it has a row,
or it borrowed after the saved block, and then the next bootstrap finds it (`life_neverLost`).
While the updater runs it is in the cache, or a Borrow of it waits in the stream, or it borrowed
after the tip that the bootstrap had read and before the updater had subscribed (`life_tracked`).
-/

namespace LiqRanger

open Effect Transition

variable {κ ι : Type} [DecidableEq κ] {K : ListKind κ} {T : EthersText} {chain : Chain κ}
  {config : BootstrapConfig κ}

/-! ### Scanning -/

/-- The first block that a bootstrap scans from here. -/
def firstBlock (config : BootstrapConfig κ) (w : BootstrapWorld κ) : ℕ :=
  w.saved.getD config.deployBlock - 20

/-- What a scan from `w₀` up to `latest` keeps: no row is lost, and up to a block that it saved
every whitelisted log has its position in the rows. -/
structure Scanning (config : BootstrapConfig κ) (chain : Chain κ) (latest : ℕ)
    (w₀ w : BootstrapWorld κ) : Prop where
  rows : ∀ b x, w₀.list.rows.contains b x = true → w.list.rows.contains b x = true
  saved : w.saved = w₀.saved ∨ ∃ last, w.saved = some last ∧ last ≤ latest ∧
    Covered config chain w.list.rows (firstBlock config w₀) last

section
variable {latest : ℕ} {w₀ w w' : BootstrapWorld κ}

lemma Covered.rows {rows rows' : MultiMap Address κ} {fromBlock toBlock : ℕ}
    (h : Covered config chain rows fromBlock toBlock)
    (hrows : ∀ b x, rows.contains b x = true → rows'.contains b x = true) :
    Covered config chain rows' fromBlock toBlock :=
  fun block hfrom hto log hlog hlist => hrows _ _ (h block hfrom hto log hlog hlist)

lemma Scanning.refl (w : BootstrapWorld κ) : Scanning config chain latest w w :=
  ⟨fun _ _ h => h, Or.inl rfl⟩

lemma Scanning.extends (h : Scanning config chain latest w₀ w) (hext : Extends w w') :
    Scanning config chain latest w₀ w' := by
  refine ⟨fun b x hmem => hext.2 b x (h.rows b x hmem), ?_⟩
  rw [hext.1]
  exact h.saved.imp_right fun ⟨last, hlast, hle, hcovered⟩ =>
    ⟨last, hlast, hle, hcovered.rows hext.2⟩

/-- What a scan has saved is below the tip. -/
lemma Scanning.saved_le (h : Scanning config chain latest w₀ w)
    (hsaved : ∀ last, w₀.saved = some last → last ≤ latest) :
    ∀ last, w.saved = some last → last ≤ latest := by
  intro last hlast
  rcases h.saved with hsame | ⟨last', hlast', hle, -⟩
  · exact hsaved last (hsame.symm.trans hlast)
  · cases hlast.symm.trans hlast'
    exact hle

/-- A scan that succeeds has every whitelisted log of its range in the rows. -/
lemma scan_scanning
    (hid : ∀ borrower x, K.parse T (config.identityText borrower x) = some (borrower, x))
    (hsync : w₀.list.Synced) (latest : ℕ) :
    (Bootstrap.scan config latest (firstBlock config w₀)).Holds (bootstrapWorld K T chain)
      (Scanning config chain latest w₀)
      (fun o w => o = .ok () → w.list.Synced ∧
        Covered config chain w.list.rows (firstBlock config w₀) latest) w₀ := by
  -- below the block to be scanned next, everything is in the rows
  refine scan_holds_of
    (fun start w => w.list.Synced ∧ Scanning config chain latest w₀ w ∧ ∀ block, block < start →
      Covered config chain w.list.rows (firstBlock config w₀) block)
    _ (fun _ _ h => h.2.1) ?_ (fun _ _ hlt h => ⟨h.1, h.2.2 latest hlt⟩)
    ⟨hsync, .refl w₀, ?_⟩
  · rintro start w order hle ⟨hsync, hscanning, hcovered⟩ hentries
    refine (trackEntries_holds order (fun _ _ => Scanning.extends) hsync hscanning).mono
      fun o w₂ hpost hok => ?_
    obtain ⟨hsync₂, hext₂, htracked⟩ := hpost hok
    have hcovered₂ : Covered config chain w₂.list.rows (firstBlock config w₀)
        (min (start + config.batchSize) latest) := by
      intro block hfrom hto log hlog hlist
      by_cases hblock : block < start
      · exact hext₂.2 _ _ (hcovered block hblock block hfrom le_rfl log hlog hlist)
      · have hentry : config.identityText log.borrower log.market ∈ order :=
          (hentries _).mpr ⟨block, Nat.le_of_not_lt hblock, hto, log, hlog, hlist, rfl⟩
        exact htracked _ hentry _ _ (hid _ _)
    have hscanning₂ := hscanning.extends hext₂
    refine ⟨hscanning₂, hsync₂, ⟨hscanning₂.rows, Or.inr ⟨_, rfl, min_le_right _ _, hcovered₂⟩⟩, ?_⟩
    intro block hblock block' hfrom hto
    exact hcovered₂ block' hfrom (hto.trans (Nat.le_of_lt_succ hblock))
  · intro block hblock block' hfrom hto
    exact absurd (hfrom.trans hto) (Nat.not_le_of_lt hblock)

end

/-! ### What is on disk -/

namespace Life

/-- A whitelisted position with debt. -/
def Debtor (config : BootstrapConfig κ) (debt : Address → κ → ℕ) (b : Address) (x : κ) : Prop :=
  x ∈ config.whitelist ∧ debt b x ≠ 0

/-- Every debtor has a row, or borrowed after the saved block. -/
def OnDisk (config : BootstrapConfig κ) (chain : Chain κ) (head : ℕ) (debt : Address → κ → ℕ)
    (w : BootstrapWorld κ) : Prop :=
  ∀ b x, Debtor config debt b x → w.list.rows.contains b x = true ∨
    BorrowIn chain (unsavedFrom config w.saved) head b x

section
variable {head latest : ℕ} {debt debt' : Address → κ → ℕ} {w₀ w : BootstrapWorld κ}

omit [DecidableEq κ] in
/-- A new debt comes with a Borrow in the block that is mined. -/
lemma debtor_mined
    (hborrow : ∀ b x, debt b x = 0 → debt' b x ≠ 0 → ⟨.borrow, x, b⟩ ∈ chain (head + 1))
    {b : Address} {x : κ} (h : Debtor config debt' b x) :
    Debtor config debt b x ∨ ⟨.borrow, x, b⟩ ∈ chain (head + 1) := by
  by_cases hzero : debt b x = 0
  · exact Or.inr (hborrow b x hzero h.2)
  · exact Or.inl ⟨h.1, hzero⟩

lemma OnDisk.mine (h : OnDisk config chain head debt w)
    (hsaved : unsavedFrom config w.saved ≤ head + 1)
    (hborrow : ∀ b x, debt b x = 0 → debt' b x ≠ 0 → ⟨.borrow, x, b⟩ ∈ chain (head + 1)) :
    OnDisk config chain (head + 1) debt' w := by
  intro b x hdebtor
  rcases debtor_mined hborrow hdebtor with hdebtor | hmem
  · exact (h b x hdebtor).imp_right fun hin => hin.mono le_rfl (Nat.le_succ head)
  · exact Or.inr (borrowIn_self hsaved hmem)

/-- What a scan saves, it has in the rows. -/
lemma OnDisk.scanning (h : OnDisk config chain head debt w₀)
    (hscan : Scanning config chain latest w₀ w) : OnDisk config chain head debt w := by
  intro b x hdebtor
  rcases h b x hdebtor with hrow | hin
  · exact Or.inl (hscan.rows b x hrow)
  · rcases hscan.saved with hsaved | ⟨last, hlast, -, hcovered⟩
    · rw [hsaved]
      exact Or.inr hin
    · obtain ⟨block, hfrom, hto, hmem⟩ := hin
      by_cases hblock : block ≤ last
      · refine Or.inl (hcovered block (sub_le_unsavedFrom.trans hfrom) hblock _ hmem hdebtor.1)
      · refine Or.inr ⟨block, ?_, hto, hmem⟩
        rw [hlast, unsavedFrom]
        omega

/-- After a scan every debtor has a row or borrowed after the tip. -/
lemma OnDisk.covered (h : OnDisk config chain head debt w₀)
    (hscan : Scanning config chain latest w₀ w)
    (hcovered : Covered config chain w.list.rows (firstBlock config w₀) latest) {b : Address}
    {x : κ} (hdebtor : Debtor config debt b x) :
    w.list.rows.contains b x = true ∨ BorrowIn chain (latest + 1) head b x := by
  rcases h b x hdebtor with hrow | ⟨block, hfrom, hto, hmem⟩
  · exact Or.inl (hscan.rows b x hrow)
  · by_cases hblock : block ≤ latest
    · exact Or.inl (hcovered block (sub_le_unsavedFrom.trans hfrom) hblock _ hmem hdebtor.1)
    · exact Or.inr ⟨block, Nat.lt_of_not_le hblock, hto, hmem⟩

end

/-! ### The invariant -/

/-- How far a bootstrap is, by the tip it has read and what is left of it. -/
inductive Stage (K : ListKind κ) (T : EthersText) (chain : Chain κ) (config : BootstrapConfig κ)
    (s : Life κ ι) : Option ℕ → BootstrapProgram κ Unit → Prop where
  | load (hsync : s.list.Synced)
      (hdisk : OnDisk config chain s.head s.debt ⟨s.list, s.saved⟩) :
      Stage K T chain config s none (Bootstrap.run config)
  | tip (hsync : s.list.Synced)
      (hdisk : OnDisk config chain s.head s.debt ⟨s.list, s.saved⟩) :
      Stage K T chain config s none (Provider.getBlockNumber >>= fun reply =>
        Program.ofExcept reply >>= fun latest =>
          Bootstrap.scan config latest (firstBlock config ⟨s.list, s.saved⟩))
  | scan (latest : ℕ) (w₀ : BootstrapWorld κ) (rest : BootstrapProgram κ Unit)
      (hlatest : latest ≤ s.head) (hdeployed : config.deployBlock ≤ latest)
      (hsaved : ∀ last, w₀.saved = some last → last ≤ latest)
      (hdisk : OnDisk config chain s.head s.debt w₀)
      (hscanning : Scanning config chain latest w₀ ⟨s.list, s.saved⟩)
      (hrest : rest.Holds (bootstrapWorld K T chain) (Scanning config chain latest w₀)
        (fun o w => o = .ok () → w.list.Synced ∧
          Covered config chain w.list.rows (firstBlock config w₀) latest) ⟨s.list, s.saved⟩) :
      Stage K T chain config s (some latest) rest
  | failed (tip : Option ℕ) (e : String)
      (hdisk : OnDisk config chain s.head s.debt ⟨s.list, s.saved⟩) :
      Stage K T chain config s tip (.fail e)

/-- A bootstrap has returned. -/
structure Started (chain : Chain κ) (config : BootstrapConfig κ) (s : Life κ ι) (tip : ℕ) :
    Prop where
  synced : s.list.Synced
  disk : OnDisk config chain s.head s.debt ⟨s.list, s.saved⟩
  tip_le : tip ≤ s.head
  saved_le : unsavedFrom config s.saved ≤ tip + 1
  tracked : ∀ b x, Debtor config s.debt b x →
    s.list.contains b x = true ∨ BorrowIn chain (tip + 1) s.head b x

/-- The debtors that have not borrowed since the block was saved. -/
def Settled (chain : Chain κ) (config : BootstrapConfig κ) (s : Life κ ι) : Set (Address × κ) :=
  {p | Debtor config s.debt p.1 p.2 ∧
    ¬ BorrowIn chain (unsavedFrom config s.saved) s.head p.1 p.2}

/-- The debtors that did not borrow between the tip and the subscription. -/
def OutsideGap (chain : Chain κ) (config : BootstrapConfig κ) (s : Life κ ι) (tip opened : ℕ) :
    Set (Address × κ) :=
  {p | Debtor config s.debt p.1 p.2 ∧ ¬ BorrowIn chain (tip + 1) opened p.1 p.2}

/-- The updater follows the chain. -/
structure Followed (chain : Chain κ) (config : BootstrapConfig κ) (updater : UpdaterConfig κ ι)
    (s : Life κ ι) (tip opened : ℕ) (streams : ι → List (PositionLog κ))
    (activity : UpdaterActivity κ) : Prop where
  saved_le : unsavedFrom config s.saved ≤ tip + 1
  tip_le : tip ≤ opened
  opened_le : opened ≤ s.head
  pending : ∀ i b x, ⟨.borrow, x, b⟩ ∈ streams i →
    BorrowIn chain (unsavedFrom config s.saved) s.head b x
  kept : Kept (s.Settled chain config)
    (NotPending updater (s.OutsideGap chain config tip opened) (s.updaterState streams activity))
    s.list activity

def PhaseInv (K : ListKind κ) (T : EthersText) (chain : Chain κ) (config : BootstrapConfig κ)
    (updater : UpdaterConfig κ ι) (s : Life κ ι) : Prop :=
  match s.phase with
  | .bootstrapping tip rest => s.Stage K T chain config tip rest
  | .starting tip => s.Started chain config tip
  | .updating tip opened streams activity =>
    s.Followed chain config updater tip opened streams activity

structure Inv (K : ListKind κ) (T : EthersText) (chain : Chain κ) (config : BootstrapConfig κ)
    (updater : UpdaterConfig κ ι) (s : Life κ ι) : Prop where
  saved : ∀ last, s.saved = some last → last ≤ s.head
  deployed : config.deployBlock ≤ s.head
  phase : s.PhaseInv K T chain config updater

section
variable {updater : UpdaterConfig κ ι} {s s' : Life κ ι} {tip opened : ℕ}
  {streams : ι → List (PositionLog κ)} {activity : UpdaterActivity κ}

lemma Stage.disk {tip : Option ℕ} {rest : BootstrapProgram κ Unit}
    (h : s.Stage K T chain config tip rest) :
    OnDisk config chain s.head s.debt ⟨s.list, s.saved⟩ := by
  cases h with
  | load hsync hdisk => exact hdisk
  | tip hsync hdisk => exact hdisk
  | scan latest w₀ rest hlatest hdeployed hsaved hdisk hscanning hrest =>
    exact hdisk.scanning hscanning
  | failed tip e hdisk => exact hdisk

lemma Followed.disk (h : s.Followed chain config updater tip opened streams activity) :
    OnDisk config chain s.head s.debt ⟨s.list, s.saved⟩ := by
  intro b x hdebtor
  by_cases hin : BorrowIn chain (unsavedFrom config s.saved) s.head b x
  · exact Or.inr hin
  · exact Or.inl (h.kept.list.rows b x ⟨hdebtor, hin⟩)

/-- In every phase every debtor has a row or borrowed after the saved block. -/
theorem Inv.disk (h : s.Inv K T chain config updater) :
    OnDisk config chain s.head s.debt ⟨s.list, s.saved⟩ := by
  have hphase := h.phase
  rw [PhaseInv] at hphase
  split at hphase
  · exact hphase.disk
  · exact hphase.disk
  · exact hphase.disk

/-- Who has not borrowed since the block was saved did not borrow in the gap, and no Borrow of it
waits. -/
lemma Followed.settled_subset
    (h : s.Followed chain config updater tip opened streams activity) :
    s.Settled chain config ⊆ NotPending updater (s.OutsideGap chain config tip opened)
      (s.updaterState streams activity) := by
  rintro ⟨b, x⟩ ⟨hdebtor, hnot⟩
  refine ⟨⟨hdebtor, fun hin => hnot (hin.mono h.saved_le h.opened_le)⟩, fun hpending => hnot ?_⟩
  exact h.pending _ b x hpending

/-! ### Steps of the chain -/

lemma Stage.mine {tip : Option ℕ} {rest : BootstrapProgram κ Unit} {debt : Address → κ → ℕ}
    {phase : LifePhase κ ι} (h : s.Stage K T chain config tip rest)
    (hsaved : unsavedFrom config s.saved ≤ s.head + 1)
    (hborrow : ∀ b x, s.debt b x = 0 → debt b x ≠ 0 → ⟨.borrow, x, b⟩ ∈ chain (s.head + 1)) :
    Stage K T chain config ({ s with head := s.head + 1, debt := debt, phase := phase }) tip
      rest := by
  cases h with
  | load hsync hdisk => exact .load hsync (hdisk.mine hsaved hborrow)
  | tip hsync hdisk => exact .tip hsync (hdisk.mine hsaved hborrow)
  | scan latest w₀ rest hlatest hdeployed hsaved₀ hdisk hscanning hrest =>
    refine .scan latest w₀ rest (hlatest.trans (Nat.le_succ _)) hdeployed hsaved₀
      (hdisk.mine ?_ hborrow) hscanning hrest
    exact (unsavedFrom_le hsaved₀ hdeployed).trans (Nat.succ_le_succ hlatest)
  | failed tip e hdisk => exact .failed tip e (hdisk.mine hsaved hborrow)

lemma Started.mine {debt : Address → κ → ℕ} {phase : LifePhase κ ι}
    (h : s.Started chain config tip) (hsaved : unsavedFrom config s.saved ≤ s.head + 1)
    (hborrow : ∀ b x, s.debt b x = 0 → debt b x ≠ 0 → ⟨.borrow, x, b⟩ ∈ chain (s.head + 1)) :
    Started chain config ({ s with head := s.head + 1, debt := debt, phase := phase }) tip where
  synced := h.synced
  disk := h.disk.mine hsaved hborrow
  tip_le := h.tip_le.trans (Nat.le_succ _)
  saved_le := h.saved_le
  tracked b x hdebtor := by
    rcases debtor_mined hborrow hdebtor with hdebtor | hmem
    · exact (h.tracked b x hdebtor).imp_right fun hin => hin.mono le_rfl (Nat.le_succ _)
    · exact Or.inr (borrowIn_self (Nat.succ_le_succ h.tip_le) hmem)

omit [DecidableEq κ] in
lemma mem_minedStreams [DecidableEq ι] {logs : List (PositionLog κ)} {i : ι} {log : PositionLog κ} :
    log ∈ streams i ++ logs.filter (fun log => updater.streamOf log.kind = i) ↔
      log ∈ streams i ∨ (log ∈ logs ∧ updater.streamOf log.kind = i) := by
  simp

lemma Followed.mine [DecidableEq ι] {debt : Address → κ → ℕ}
    (h : s.Followed chain config updater tip opened streams activity)
    (hborrow : ∀ b x, s.debt b x = 0 → debt b x ≠ 0 → ⟨.borrow, x, b⟩ ∈ chain (s.head + 1)) :
    let phase := minedPhase updater (chain (s.head + 1)) (.updating tip opened streams activity)
    Followed chain config updater
      ({ s with head := s.head + 1, debt := debt, phase := phase }) tip opened
      (fun i => streams i ++ (chain (s.head + 1)).filter fun log => updater.streamOf log.kind = i)
      activity := by
  have hsaved : unsavedFrom config s.saved ≤ s.head + 1 :=
    h.saved_le.trans (Nat.succ_le_succ (h.tip_le.trans h.opened_le))
  refine ⟨h.saved_le, h.tip_le, h.opened_le.trans (Nat.le_succ _), ?_, h.kept.mono ?_ ?_⟩
  · intro i b x hmem
    rcases mem_minedStreams.mp hmem with hmem | ⟨hmem, -⟩
    · exact (h.pending i b x hmem).mono le_rfl (Nat.le_succ _)
    · exact borrowIn_self hsaved hmem
  · rintro ⟨b, x⟩ ⟨hdebtor, hnot⟩
    rcases debtor_mined hborrow hdebtor with hdebtor | hmem
    · exact ⟨hdebtor, fun hin => hnot (hin.mono le_rfl (Nat.le_succ _))⟩
    · exact absurd (borrowIn_self hsaved hmem) hnot
  · rintro ⟨b, x⟩ ⟨⟨hdebtor, hgap⟩, hpending⟩
    rcases debtor_mined hborrow hdebtor with hdebtor | hmem
    · refine ⟨⟨hdebtor, hgap⟩, fun hbefore => hpending ?_⟩
      exact mem_minedStreams.mpr (Or.inl hbefore)
    · exact absurd (mem_minedStreams.mpr (Or.inr ⟨hmem, rfl⟩)) hpending

/-! ### Steps of the process -/

/-- The next call of a bootstrap. -/
lemma Stage.call {tip : Option ℕ} {op : BootstrapOp κ}
    {next : op.Reply → BootstrapProgram κ Unit} {reply : op.Reply} {w : BootstrapWorld κ}
    {phase : LifePhase κ ι}
    (hid : ∀ borrower x, K.parse T (config.identityText borrower x) = some (borrower, x))
    (h : s.Stage K T chain config tip (.call op next))
    (hsaved : ∀ last, s.saved = some last → last ≤ s.head) (hdeployed : config.deployBlock ≤ s.head)
    (hreply : bootstrapWorld K T chain ⟨s.list, s.saved⟩ op reply w)
    (htip : ∀ height, (⟨op, reply⟩ : Event (bootstrapPorts κ)) = tipEvent (.ok height) →
      height = s.head) :
    (∀ last, w.saved = some last → last ≤ s.head) ∧
      Stage K T chain config ({ s with list := w.list, saved := w.saved, phase := phase })
        (tipAfter tip ⟨op, reply⟩) (next reply) := by
  generalize hrest : (.call op next : BootstrapProgram κ Unit) = rest at h
  cases h with
  | load hsync hdisk =>
    have hrun : Bootstrap.run config = .call .loadLastBlock fun reply =>
        Program.ofExcept reply >>= fun last => Provider.getBlockNumber >>= fun reply =>
          Program.ofExcept reply >>= fun latest =>
            Bootstrap.scan config latest (last.getD config.deployBlock - 20) := rfl
    rw [hrun] at hrest
    cases hrest
    obtain ⟨rfl, hlast⟩ := hreply
    refine ⟨hsaved, ?_⟩
    cases reply with
    | error e => exact .failed none e hdisk
    | ok last =>
      obtain rfl := hlast last rfl
      exact .tip hsync hdisk
  | tip hsync hdisk =>
    cases hrest
    obtain rfl : w = ⟨s.list, s.saved⟩ := hreply
    refine ⟨hsaved, ?_⟩
    cases reply with
    | error e => exact .failed none e hdisk
    | ok latest =>
      obtain rfl := htip latest rfl
      exact .scan s.head ⟨s.list, s.saved⟩ _ le_rfl hdeployed hsaved hdisk (.refl _)
        (scan_scanning hid hsync s.head)
  | scan latest w₀ rest hlatest hdeployed₀ hsaved₀ hdisk hscanning hholds =>
    subst hrest
    obtain ⟨hscanning', hholds'⟩ := hholds reply w hreply
    refine ⟨fun last hlast => (hscanning'.saved_le hsaved₀ last hlast).trans hlatest, ?_⟩
    exact .scan latest w₀ _ hlatest hdeployed₀ hsaved₀ hdisk hscanning' hholds'
  | failed tip e hdisk => cases hrest

/-- A bootstrap that has returned. -/
lemma Stage.started {phase : LifePhase κ ι} (h : s.Stage K T chain config (some tip) (.ret ())) :
    Started chain config ({ s with phase := phase }) tip := by
  generalize hrest : (.ret () : BootstrapProgram κ Unit) = rest at h
  generalize htip : some tip = tip' at h
  cases h with
  | load hsync hdisk => cases htip
  | tip hsync hdisk => cases htip
  | scan latest w₀ rest hlatest hdeployed hsaved hdisk hscanning hholds =>
    subst hrest
    cases htip
    obtain ⟨hsync, hcovered⟩ := hholds rfl
    refine ⟨hsync, hdisk.scanning hscanning, hlatest, ?_, fun b x hdebtor => ?_⟩
    · exact unsavedFrom_le (hscanning.saved_le hsaved) hdeployed
    · rw [WatchList.contains, show s.list.cache = s.list.rows from hsync]
      exact hdisk.covered hscanning hcovered hdebtor
  | failed tip e hdisk => cases hrest

lemma Started.subscribe {phase : LifePhase κ ι} (h : s.Started chain config tip) :
    Followed chain config updater ({ s with phase := phase }) tip s.head (fun _ => []) .idle where
  saved_le := h.saved_le
  tip_le := h.tip_le
  opened_le := le_rfl
  pending i b x hmem := nomatch hmem
  kept := by
    refine ⟨⟨fun b x hx => ?_, fun b x hx => ?_⟩, fun call hcall => absurd hcall List.not_mem_nil⟩
    · exact (h.tracked b x hx.1.1).resolve_right hx.1.2
    · exact (h.disk b x hx.1).resolve_right hx.2

lemma Followed.work [DecidableEq ι] {u : UpdaterState κ ι} {phase : LifePhase κ ι}
    (hlist : updater.whitelist = config.whitelist)
    (h : s.Followed chain config updater tip opened streams activity)
    (hwork : UpdaterStep.Work updater T (s.updaterState streams activity) u) :
    Followed chain config updater ({ s with list := u.list, phase := phase }) tip opened u.streams
      u.activity where
  saved_le := h.saved_le
  tip_le := h.tip_le
  opened_le := h.opened_le
  pending i b x hmem := h.pending i b x ((hwork.2.2 i).subset hmem)
  kept := by
    have hkept := h.kept.work h.settled_subset
      (fun b x hx => ⟨hlist ▸ hx.1.1, hx.1.2⟩) hwork
    exact hkept

/-! ### Runs -/

lemma inv_initial : (initial config : Life κ ι).Inv K T chain config updater where
  saved _ hlast := nomatch hlast
  deployed := le_rfl
  phase := .load (WatchList.synced_new _) fun _ _ hdebtor => absurd rfl hdebtor.2

variable [DecidableEq ι]

/-- Every step keeps every debtor within reach. -/
theorem inv_step (hlist : updater.whitelist = config.whitelist)
    (hid : ∀ borrower x, K.parse T (config.identityText borrower x) = some (borrower, x)) :
    Preserves (Step K T chain config updater) (Inv K T chain config updater) := by
  intro s s' hstep h
  have hphase := h.phase
  rw [PhaseInv] at hphase
  cases hstep with
  | mine debt hborrow =>
    refine ⟨fun last hlast => (h.saved last hlast).trans (Nat.le_succ _),
      h.deployed.trans (Nat.le_succ _), ?_⟩
    have hsaved := unsavedFrom_le h.saved h.deployed
    rw [PhaseInv]
    cases hat : s.phase with
    | bootstrapping tip rest =>
      rw [hat] at hphase
      exact hphase.mine hsaved hborrow
    | starting tip =>
      rw [hat] at hphase
      exact hphase.mine hsaved hborrow
    | updating tip opened streams activity =>
      rw [hat] at hphase
      exact hphase.mine hborrow
  | call tip op next reply w hat hreply htip =>
    rw [hat] at hphase
    obtain ⟨hsaved, hstage⟩ := hphase.call hid h.saved h.deployed hreply htip
    exact ⟨hsaved, h.deployed, hstage⟩
  | bootstrapped tip hat =>
    rw [hat] at hphase
    exact ⟨h.saved, h.deployed, hphase.started⟩
  | subscribe tip hat =>
    rw [hat] at hphase
    exact ⟨h.saved, h.deployed, hphase.subscribe⟩
  | work tip opened streams activity u hat hwork =>
    rw [hat] at hphase
    exact ⟨h.saved, h.deployed, hphase.work hlist hwork⟩
  | restart => exact ⟨h.saved, h.deployed, .load (WatchList.synced_new _) h.disk⟩

end

end Life

/-! ### A run -/

/-- What a bootstrap can go through, it goes through in a life. -/
lemma Life.run_bootstrap [DecidableEq ι] (config : BootstrapConfig κ)
    (updater : UpdaterConfig κ ι) {s : Life κ ι} {tip : Option ℕ}
    {rest : BootstrapProgram κ Unit} {t : List (Event (bootstrapPorts κ))}
    {o : Except String Unit} {w : BootstrapWorld κ}
    (hphase : s.phase = .bootstrapping tip rest) (ht : rest.Trace t o)
    (hpath : (bootstrapWorld K T chain).Path ⟨s.list, s.saved⟩ t w)
    (htips : ∀ height, tipEvent (.ok height) ∈ t → height = s.head) :
    Run (Life.Step K T chain config updater) s
      { s with
        list := w.list
        saved := w.saved
        phase := .bootstrapping (t.foldl tipAfter tip) (Program.ofExcept o) } := by
  induction t generalizing s tip rest with
  | nil =>
    cases hpath
    obtain rfl : rest = Program.ofExcept o := by
      cases rest with
      | ret a =>
        cases ht.2
        rfl
      | fail e =>
        cases ht.2
        rfl
      | call op next =>
        obtain ⟨r, t, hnil, -⟩ := ht
        cases hnil
    rw [List.foldl_nil, ← hphase]
  | cons e t ih =>
    obtain ⟨w₁, hreply, hpath⟩ := hpath
    cases rest with
    | ret a => cases ht.1
    | fail e => cases ht.1
    | call op next =>
      obtain ⟨reply, t, heq, ht⟩ := ht
      cases heq
      have hcall : Life.Step K T chain config updater s _ :=
        .call s tip op next reply w₁ hphase hreply fun height heq =>
          htips height (heq ▸ List.mem_cons_self)
      exact .head hcall (ih rfl ht hpath fun height hmem =>
        htips height (List.mem_cons_of_mem _ hmem))

/-- No Borrow until the first block after the deployment, which has one. -/
def sampleLifeChain : Chain Address := fun block =>
  if block = aaveDeployBlock + 1 then
    [⟨.borrow, .ofNat 20 0x3c499c542cEF5E3811e1192ce70d8cC03d5c3359, .zero 20⟩] else []

/-- The debt it brings. -/
def sampleLifeDebt (b reserve : Address) : ℕ :=
  if b = .zero 20 ∧ reserve = .ofNat 20 0x3c499c542cEF5E3811e1192ce70d8cC03d5c3359 then 1 else 0

/-- A bootstrap finds nothing, the updater subscribes, and a position borrows. -/
lemma exists_sampleLife : ∃ s : Life Address Unit,
    Run (Life.Step aaveKind .reference sampleLifeChain (aaveBootstrap .reference)
        (aaveUpdater .reference)) (.initial (aaveBootstrap .reference)) s ∧
      s.phase = .updating aaveDeployBlock aaveDeployBlock (fun _ =>
        [⟨.borrow, .ofNat 20 0x3c499c542cEF5E3811e1192ce70d8cC03d5c3359, .zero 20⟩]) .idle ∧
      s.debt (.zero 20) (.ofNat 20 0x3c499c542cEF5E3811e1192ce70d8cC03d5c3359) = 1 := by
  have hlogs : ∀ kind, sampleLifeChain.logs kind (aaveDeployBlock - 20) aaveDeployBlock = [] := by
    intro kind
    rw [List.eq_nil_iff_forall_not_mem]
    intro log hlog
    obtain ⟨-, block, -, hto, hmem⟩ := Chain.mem_logs.mp hlog
    rw [sampleLifeChain, if_neg (by omega)] at hmem
    cases hmem
  let t : List (Event (bootstrapPorts Address)) := [loadEvent (.ok none),
    tipEvent (.ok aaveDeployBlock),
    ⟨BootstrapOp.query (aaveDeployBlock - 20) aaveDeployBlock, .ok ([], [], [])⟩,
    ⟨BootstrapOp.drain ∅, ([] : List Text)⟩, ⟨BootstrapOp.saveLastBlock aaveDeployBlock, .ok ()⟩]
  have hnone : (([] : List Text).forM (Bootstrap.trackEntry (κ := Address))).Trace [] (.ok ⟨⟩) :=
    ⟨rfl, rfl⟩
  have ht : (Bootstrap.run (aaveBootstrap .reference)).Trace t (.ok ()) :=
    run_trace_single none ([], [], []) rfl (by decide) (by decide) hnone
  have hpath : (bootstrapWorld aaveKind .reference sampleLifeChain).Path ⟨.new ∅, none⟩ t
      ⟨.new ∅, some aaveDeployBlock⟩ := by
    refine ⟨_, ⟨rfl, ?_⟩, _, rfl, _, ⟨rfl, ?_⟩, _, ⟨rfl, List.nodup_nil, rfl⟩, _,
      Or.inl ⟨rfl, rfl⟩, rfl⟩
    · rintro last ⟨⟩
      rfl
    · rintro logs ⟨⟩
      rw [hlogs, hlogs, hlogs]
  have htips : ∀ height, tipEvent (.ok height) ∈ t → height = aaveDeployBlock := by
    intro height hmem
    simp only [t, List.mem_cons, List.not_mem_nil, or_false] at hmem
    rcases hmem with h | h | h | h | h <;> cases h
    rfl
  have hrun := Life.run_bootstrap (aaveBootstrap .reference) (aaveUpdater .reference)
    (s := .initial (aaveBootstrap .reference)) rfl ht hpath htips
  refine ⟨_, (((hrun.tail (.bootstrapped _ aaveDeployBlock rfl)).tail
    (.subscribe _ aaveDeployBlock rfl)).tail (.mine _ sampleLifeDebt fun b x _ hne => ?_)),
    rfl, rfl⟩
  rw [sampleLifeDebt, ite_ne_right_iff] at hne
  obtain ⟨⟨rfl, rfl⟩, -⟩ := hne
  exact List.mem_cons_self

/-! ### The Aave list -/

section
variable {chain : Chain Address} {T : EthersText} {s : Life Address Unit} {b reserve : Address}

lemma aaveLife_inv
    (hrun : Run (Life.Step aaveKind T chain (aaveBootstrap T) (aaveUpdater T))
      (.initial (aaveBootstrap T)) s) :
    s.Inv aaveKind T chain (aaveBootstrap T) (aaveUpdater T) := by
  refine (Life.inv_step rfl fun borrower reserve => ?_).run hrun Life.inv_initial
  rw [aaveBootstrap_identityText]

/-- Whatever fails and wherever the engine is started again, a position with debt on a whitelisted
reserve has a row, or it borrowed in a block after the saved one, and the next bootstrap scans
that block. This is a chain on which no debt is older than `aaveDeployBlock`, and a disk that keeps
every accepted write when a process ends. -/
theorem life_neverLost
    (hrun : Run (Life.Step aaveKind T chain (aaveBootstrap T) (aaveUpdater T))
      (.initial (aaveBootstrap T)) s)
    (hreserve : reserve ∈ aaveReserves) (hdebt : s.debt b reserve ≠ 0) :
    s.list.rows.contains b reserve = true ∨
      ∃ block, s.saved.getD aaveDeployBlock - 20 ≤ block ∧ block ≤ s.head ∧
        (∀ last, s.saved = some last → last < block) ∧ ⟨.borrow, reserve, b⟩ ∈ chain block := by
  refine ((aaveLife_inv hrun).disk b reserve ⟨hreserve, hdebt⟩).imp_right ?_
  rintro ⟨block, hfrom, hto, hmem⟩
  have hfirst : s.saved.getD aaveDeployBlock - 20 ≤ unsavedFrom (aaveBootstrap T) s.saved :=
    (sub_le_unsavedFrom : _ ≤ unsavedFrom (aaveBootstrap T) s.saved)
  refine ⟨block, hfirst.trans hfrom, hto, fun last hlast => ?_, hmem⟩
  rw [hlast] at hfrom
  exact hfrom

theorem life_neverLost_sample : ∃ s : Life Address Unit,
    s.list.rows.contains (.zero 20) (.ofNat 20 0x3c499c542cEF5E3811e1192ce70d8cC03d5c3359) = true ∨
      ∃ block, s.saved.getD aaveDeployBlock - 20 ≤ block ∧ block ≤ s.head ∧
        (∀ last, s.saved = some last → last < block) ∧
        ⟨.borrow, .ofNat 20 0x3c499c542cEF5E3811e1192ce70d8cC03d5c3359, .zero 20⟩
          ∈ sampleLifeChain block := by
  obtain ⟨s, hrun, hphase, hdebt⟩ := exists_sampleLife
  exact ⟨s, life_neverLost hrun List.mem_cons_self (hdebt ▸ one_ne_zero)⟩

/-- When a bootstrap has returned, a position with debt on a whitelisted reserve is in the cache, or
it borrowed after the tip, also if it had been missed before this start. While the updater runs,
the position is in the cache, or a Borrow of it waits in the stream, or it borrowed after the tip
that the bootstrap had read, in a block up to the one at which the updater subscribed. As above, no
debt is older than `aaveDeployBlock`, and every accepted write outlives the process. -/
theorem life_tracked
    (hrun : Run (Life.Step aaveKind T chain (aaveBootstrap T) (aaveUpdater T))
      (.initial (aaveBootstrap T)) s)
    (hreserve : reserve ∈ aaveReserves) (hdebt : s.debt b reserve ≠ 0) :
    (∀ tip, s.phase = .starting tip → s.list.contains b reserve = true ∨
      ∃ block, tip < block ∧ block ≤ s.head ∧ ⟨.borrow, reserve, b⟩ ∈ chain block) ∧
    ∀ tip opened streams activity, s.phase = .updating tip opened streams activity →
      s.list.contains b reserve = true ∨ ⟨.borrow, reserve, b⟩ ∈ streams () ∨
        ∃ block, tip < block ∧ block ≤ opened ∧ ⟨.borrow, reserve, b⟩ ∈ chain block := by
  have hphase := (aaveLife_inv hrun).phase
  rw [Life.PhaseInv] at hphase
  constructor
  · intro tip hat
    rw [hat] at hphase
    exact hphase.tracked b reserve ⟨hreserve, hdebt⟩
  · intro tip opened streams activity hat
    rw [hat] at hphase
    by_cases hgap : BorrowIn chain (tip + 1) opened b reserve
    · exact Or.inr (Or.inr hgap)
    · by_cases hpending : ⟨.borrow, reserve, b⟩ ∈ streams ()
      · exact Or.inr (Or.inl hpending)
      · exact Or.inl (hphase.kept.list.cache b reserve ⟨⟨⟨hreserve, hdebt⟩, hgap⟩, hpending⟩)

theorem life_tracked_sample : ∃ s : Life Address Unit, ∃ streams activity,
    s.phase = .updating aaveDeployBlock aaveDeployBlock streams activity ∧
    (s.list.contains (.zero 20) (.ofNat 20 0x3c499c542cEF5E3811e1192ce70d8cC03d5c3359) = true ∨
      ⟨.borrow, .ofNat 20 0x3c499c542cEF5E3811e1192ce70d8cC03d5c3359, .zero 20⟩ ∈ streams () ∨
      ∃ block, aaveDeployBlock < block ∧ block ≤ aaveDeployBlock ∧
        ⟨.borrow, .ofNat 20 0x3c499c542cEF5E3811e1192ce70d8cC03d5c3359, .zero 20⟩
          ∈ sampleLifeChain block) := by
  obtain ⟨s, hrun, hphase, hdebt⟩ := exists_sampleLife
  exact ⟨s, _, _, hphase,
    (life_tracked hrun List.mem_cons_self (hdebt ▸ one_ne_zero)).2 _ _ _ _ hphase⟩

end

end LiqRanger
