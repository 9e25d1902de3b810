import LiqRanger.Bootstrap.Progress
import LiqRanger.Bootstrap.Ranges

/-!
# What the two bootstraps achieve

The Aave bootstrap writes texts that its list reads back, and its saved block is never ahead of
its rows. The Morpho bootstrap writes the borrower in front of the market, where its list expects
the market first: it never adds a position.
-/

namespace LiqRanger

open Effect

/-! ### A run that succeeds -/

section
variable {κ : Type} [DecidableEq κ] {K : ListKind κ} {T : EthersText} {chain : Chain κ}
  {config : BootstrapConfig κ}

/-- When the writes apply, any entries can be gone through without an error. -/
lemma trackEntries_path (order : List Text) (w : BootstrapWorld κ) :
    ∃ t w', (order.forM Bootstrap.trackEntry).Trace t (.ok ⟨⟩) ∧
      (bootstrapWorld K T chain).Path w t w' ∧ w'.saved = w.saved := by
  induction order generalizing w with
  | nil => exact ⟨[], w, ⟨rfl, rfl⟩, rfl, rfl⟩
  | cons entry order ih =>
    cases htracked : w.list.containsIdentity K T entry with
    | true =>
      obtain ⟨t, w', ht, hp, hsaved⟩ := ih w
      exact ⟨⟨BootstrapOp.containsIdentity entry, true⟩ :: t, w', ⟨true, _, rfl, ht⟩,
        ⟨w, ⟨rfl, htracked.symm⟩, hp⟩, hsaved⟩
    | false =>
      obtain ⟨t, w', ht, hp, hsaved⟩ := ih { w with list := (w.list.add K T (.ok ()) entry).2 }
      refine ⟨⟨BootstrapOp.containsIdentity entry, false⟩ ::
        ⟨BootstrapOp.add entry, .ok ()⟩ :: t, w', ⟨false, _, rfl, .ok (), t, rfl, ht⟩,
        ⟨w, ⟨rfl, htracked.symm⟩, _, ⟨.ok (), ?_⟩, hp⟩, hsaved⟩
      exact Prod.ext WatchList.add_ok.symm rfl

/-- From a world with nothing saved, the blocks up to a tip within the first batch can be scanned
without an error. -/
lemma run_path_single (K : ListKind κ) (T : EthersText) (chain : Chain κ)
    (config : BootstrapConfig κ) (tip : ℕ) (hle : config.deployBlock - 20 ≤ tip)
    (hbatch : tip ≤ config.deployBlock - 20 + config.batchSize) {w : BootstrapWorld κ}
    (hw : w.saved = none) :
    ∃ rest w', (Bootstrap.run config).Trace
        (loadEvent (.ok none) :: tipEvent (.ok tip) :: rest) (.ok ()) ∧
      (bootstrapWorld K T chain).Path w (loadEvent (.ok none) :: tipEvent (.ok tip) :: rest) w' ∧
      w'.saved = some tip := by
  let logs := (chain.logs .borrow (config.deployBlock - 20) tip,
    chain.logs .repay (config.deployBlock - 20) tip,
    chain.logs .liquidation (config.deployBlock - 20) tip)
  let entries := Bootstrap.collect config logs.2.2
    (Bootstrap.collect config logs.2.1 (Bootstrap.collect config logs.1 ∅))
  have htrack : ∃ t w', (entries.toList.forM Bootstrap.trackEntry).Trace t (.ok ⟨⟩) ∧
      (bootstrapWorld K T chain).Path w t w' ∧ w'.saved = w.saved :=
    trackEntries_path entries.toList w
  obtain ⟨t, w', ht, hp, -⟩ := htrack
  refine ⟨_, { w' with saved := some tip }, run_trace_single none logs rfl hle hbatch ht,
    ⟨w, ⟨rfl, ?_⟩, w, rfl, w, ⟨rfl, ?_⟩, w,
    ⟨rfl, Finset.nodup_toList _, Finset.toList_toFinset _⟩, ?_⟩, rfl⟩
  · rintro last ⟨⟩
    exact hw.symm
  · rintro logs ⟨⟩
    rfl
  · rw [Handler.path_append]
    exact ⟨w', hp, { w' with saved := some tip }, Or.inl ⟨rfl, rfl⟩, rfl⟩

end

/-! ### Aave -/

lemma aaveBootstrap_identityText {T : EthersText} (borrower reserve : Address) :
    aaveKind.parse T ((aaveBootstrap T).identityText borrower reserve)
      = some (borrower, reserve) := by
  change aaveKind.parse T (joinColon _) = _
  rw [aaveKind_text_debug, ListKind.parse_text]

/-- Through every sequence of Aave bootstraps, with failures and restarts: between runs and at
every moment of a run, the rows hold every position of a whitelisted reserve up to the saved
block; and a run that returns without an error has scanned every block from its start to the tip
in contiguous ranges that do not overlap. -/
theorem aaveBootstrap_progress {T : EthersText} {chain : Chain Address}
    {w : BootstrapWorld Address} (hw : Lifetimes aaveKind T chain (aaveBootstrap T) w) :
    (∀ last, w.saved = some last →
      Covered (aaveBootstrap T) chain w.list.rows (aaveDeployBlock - 20) last) ∧
    (∀ t₁ t₂ o w', (AaveBootstrapAdapter.run T).Trace (t₁ ++ t₂) o →
      (bootstrapWorld aaveKind T chain).Path w t₁ w' → ∀ last, w'.saved = some last →
        Covered (aaveBootstrap T) chain w'.list.rows (aaveDeployBlock - 20) last) ∧
    ∀ t w', (AaveBootstrapAdapter.run T).Trace t (.ok ()) →
      (bootstrapWorld aaveKind T chain).Path w t w' →
      ∃ tip rest, t = loadEvent (.ok w.saved) :: tipEvent (.ok tip) :: rest ∧
        (w.saved.getD aaveDeployBlock - 20 ≤ tip →
          Tiles (w.saved.getD aaveDeployBlock - 20) tip (scannedRanges t)) := by
  refine ⟨(synced_of_lifetimes aaveBootstrap_identityText hw).2, ?_, ?_⟩
  · intro t₁ t₂ o w' ht hp
    exact progress_of_lifetimes aaveBootstrap_identityText hw ht hp
  · intro t w' ht hp
    obtain ⟨last, tip, rest, rfl, htiles⟩ := run_tiles ht
    obtain ⟨w₁, ⟨-, hlast⟩, -⟩ := hp
    obtain rfl := hlast last rfl
    exact ⟨tip, rest, rfl, fun hle => htiles (Nat.le_succ_of_le hle)⟩

/-- One borrow of the first reserve, in the block at which the protocol was deployed. -/
def sampleAaveChain : Chain Address := fun block =>
  if block = aaveDeployBlock then [⟨.borrow, .ofNat 20 0x3c499c542cEF5E3811e1192ce70d8cC03d5c3359,
    .zero 20⟩] else []

theorem aaveBootstrap_progress_sample : ∃ w : BootstrapWorld Address,
    w.saved = some aaveDeployBlock ∧ w.list.rows.contains (.zero 20)
      (.ofNat 20 0x3c499c542cEF5E3811e1192ce70d8cC03d5c3359) = true := by
  obtain ⟨rest, w, ht, hp, hsaved⟩ :=
    run_path_single aaveKind .reference sampleAaveChain (aaveBootstrap .reference) aaveDeployBlock
      (by decide) (by decide) (w := ⟨.new ∅, none⟩) rfl
  have hcovered := (aaveBootstrap_progress (.ok (.start ∅) ht hp)).1 _ hsaved
  exact ⟨w, hsaved, hcovered aaveDeployBlock (by decide) le_rfl _ (List.mem_singleton_self _)
    List.mem_cons_self⟩

/-! ### A bootstrap whose texts stand for nothing -/

section
variable {κ : Type} [DecidableEq κ] {K : ListKind κ} {T : EthersText} {chain : Chain κ}
  {config : BootstrapConfig κ} {w w' : BootstrapWorld κ} {list : WatchList κ}

/-- Tracking texts that stand for nothing leaves the list as it is. -/
lemma trackEntries_keeps {order : List Text} (hlist : w.list = list)
    (horder : ∀ entry ∈ order, K.parse T entry = none) :
    (order.forM Bootstrap.trackEntry).Holds (bootstrapWorld K T chain) (fun w' => w'.list = list)
      (fun _ w' => w'.list = list) w := by
  refine Program.holds_forM
    (fun rest w' => (∀ entry ∈ rest, K.parse T entry = none) ∧ w'.list = list)
    ⟨horder, hlist⟩ ?_ fun w' h => h.2
  rintro entry rest w₁ ⟨hrest, rfl⟩ tracked w₂ ⟨rfl, rfl⟩
  have hentry : K.parse T entry = none := hrest entry List.mem_cons_self
  refine ⟨rfl, ?_⟩
  rw [WatchList.containsIdentity_of_parse_none hentry]
  rintro reply w₃ ⟨sled, hadd⟩
  rw [WatchList.add_of_parse_none hentry] at hadd
  obtain ⟨rfl, rfl⟩ := Prod.mk.inj hadd
  exact ⟨rfl, fun entry' hmem => hrest entry' (List.mem_cons_of_mem _ hmem), rfl⟩

/-- A bootstrap whose texts stand for nothing leaves the list as it is, however it ends. -/
theorem run_keeps {t : List (Event (bootstrapPorts κ))} {o : Except String Unit}
    (hnone : ∀ borrower x, K.parse T (config.identityText borrower x) = none)
    (ht : (Bootstrap.run config).Trace t o) (hp : (bootstrapWorld K T chain).Path w t w') :
    w'.list = w.list := by
  have hrun : (Bootstrap.run config).Holds (bootstrapWorld K T chain)
      (fun w' => w'.list = w.list) (fun o _ => o = .ok () → True) w := by
    refine run_holds_of (Q := fun _ => True) rfl fun latest => ?_
    refine scan_holds_of (fun _ w' => w'.list = w.list) (fun _ => True) (fun _ _ h => h) ?_
      (fun _ _ _ _ => trivial) rfl
    intro start w₁ order hle hlist hentries
    have horder : ∀ entry ∈ order, K.parse T entry = none := by
      intro entry hentry
      obtain ⟨-, -, -, log, -, -, rfl⟩ := (hentries entry).mp hentry
      exact hnone _ _
    exact (trackEntries_keeps hlist horder).mono fun o w₂ hkept _ => ⟨hkept, hkept⟩
  exact hrun.invariant_end rfl ht hp

end

/-! ### Morpho -/

lemma morphoBootstrap_identityText {T : EthersText} (borrower : Address) (marketId : H256) :
    morphoKind.parse T ((morphoBootstrap T).identityText borrower marketId) = none :=
  morphoKind_parse_swapped borrower marketId

/-- A first Morpho bootstrap with an empty list that returns without an error has every position
of the blocks up to its tip in the list exactly when these blocks hold no such position. -/
theorem morphoBootstrap_tracks_iff {T : EthersText} {chain : Chain H256}
    {t : List (Event (bootstrapPorts H256))} {w' : BootstrapWorld H256}
    (ht : (MorphoBootstrapAdapter.run T).Trace t (.ok ()))
    (hp : (bootstrapWorld morphoKind T chain).Path ⟨.new ∅, none⟩ t w') :
    ∃ tip rest, t = loadEvent (.ok none) :: tipEvent (.ok tip) :: rest ∧
      ((∀ block, morphoDeployBlock - 20 ≤ block → block ≤ tip → ∀ log ∈ chain block,
        log.market ∈ morphoMarkets → w'.list.contains log.borrower log.market = true) ↔
      ∀ block, morphoDeployBlock - 20 ≤ block → block ≤ tip → ∀ log ∈ chain block,
        log.market ∉ morphoMarkets) := by
  have hlist : w'.list = .new ∅ := run_keeps morphoBootstrap_identityText ht hp
  obtain ⟨last, tip, rest, rfl, -⟩ := run_scan ht
  obtain ⟨w₁, ⟨-, hlast⟩, -⟩ := hp
  obtain rfl := hlast last rfl
  refine ⟨tip, rest, rfl, ?_⟩
  rw [hlist]
  constructor
  · intro h block hfrom hto log hlog hmarket
    have hmem := h block hfrom hto log hlog hmarket
    rw [WatchList.contains, WatchList.new, MultiMap.not_contains_empty] at hmem
    cases hmem
  · intro h block hfrom hto log hlog hmarket
    exact absurd hmarket (h block hfrom hto log hlog)

/-- One borrow, of a market that is not on the list. -/
def sampleUnlistedChain : Chain H256 := fun block =>
  if block = morphoDeployBlock then [⟨.borrow, .zero 32, .zero 20⟩] else []

/-- On a chain with this borrow alone nothing is lost. -/
theorem morphoBootstrap_tracks_iff_sample : ∃ w' : BootstrapWorld H256,
    w'.saved = some morphoDeployBlock ∧ ∀ block, morphoDeployBlock - 20 ≤ block →
      block ≤ morphoDeployBlock → ∀ log ∈ sampleUnlistedChain block,
        log.market ∈ morphoMarkets → w'.list.contains log.borrower log.market = true := by
  obtain ⟨rest, w', ht, hp, hsaved⟩ :=
    run_path_single morphoKind .reference sampleUnlistedChain (morphoBootstrap .reference)
      morphoDeployBlock (by decide) (by decide) (w := ⟨.new ∅, none⟩) rfl
  obtain ⟨tip, rest', heq, hiff⟩ := morphoBootstrap_tracks_iff ht hp
  cases heq
  refine ⟨w', hsaved, hiff.mpr fun block hfrom hto log hlog => ?_⟩
  rw [sampleUnlistedChain] at hlog
  split at hlog
  · rw [List.mem_singleton.mp hlog]
    decide
  · cases hlog

/-- One borrow of the first market, in the block at which the protocol was deployed. -/
def sampleMorphoChain : Chain H256 := fun block =>
  if block = morphoDeployBlock then
    [⟨.borrow, .ofNat 32 0x1cfe584af3db05c7f39d60e458a87a8b2f6b5d8c6125631984ec489f1d13553b,
      .zero 20⟩]
  else []

/-- The borrow is in the scanned blocks, and the run that scanned them left it out of the list. -/
theorem morphoBootstrap_loses_borrow : ∃ rest w',
    (MorphoBootstrapAdapter.run .reference).Trace
      (loadEvent (.ok none) :: tipEvent (.ok morphoDeployBlock) :: rest) (.ok ()) ∧
    (bootstrapWorld morphoKind .reference sampleMorphoChain).Path ⟨.new ∅, none⟩
      (loadEvent (.ok none) :: tipEvent (.ok morphoDeployBlock) :: rest) w' ∧
    w'.saved = some morphoDeployBlock ∧
    ∃ log ∈ sampleMorphoChain morphoDeployBlock, log.market ∈ morphoMarkets ∧
      w'.list.contains log.borrower log.market = false := by
  obtain ⟨rest, w', ht, hp, hsaved⟩ :=
    run_path_single morphoKind .reference sampleMorphoChain (morphoBootstrap .reference)
      morphoDeployBlock (by decide) (by decide) (w := ⟨.new ∅, none⟩) rfl
  have hlist : w'.list = .new ∅ := run_keeps morphoBootstrap_identityText ht hp
  refine ⟨rest, w', ht, hp, hsaved, _, List.mem_singleton_self _, List.mem_cons_self, ?_⟩
  rw [hlist, WatchList.contains, WatchList.new, MultiMap.not_contains_empty]

end LiqRanger
