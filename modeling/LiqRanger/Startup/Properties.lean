import LiqRanger.Startup.Engine

/-!
# The hand-over

A Borrow can fall between a bootstrap and its updater: in a block that is mined after the bootstrap
has read the tip and before the updater opens its Borrow stream. This is the only way
(`startup_noGap_iff`).
-/

namespace LiqRanger

open Effect Transition

namespace HandOver

section
variable {κ : Type} {config : BootstrapConfig κ} {chain : Chain κ}
  {head head' : ℕ} {h h' : HandOver κ}

/-! ### Reading the range -/

lemma readRange?_eq_some_iff {calls : List (Event (bootstrapPorts κ))} {start tip : ℕ} :
    readRange? config calls = some (start, tip) ↔ ∃ last rest,
      calls = loadEvent (.ok last) :: tipEvent (.ok tip) :: rest ∧
        start = last.getD config.deployBlock - 20 := by
  constructor
  · intro h
    unfold readRange? at h
    split at h
    · obtain ⟨rfl, rfl⟩ := Prod.mk.inj (Option.some.inj h)
      exact ⟨_, _, rfl, rfl⟩
    · cases h
  · rintro ⟨last, rest, rfl, rfl⟩
    rfl

/-- Once read, the range stays. -/
lemma range?_call (hcall : Call head h h') {start tip : ℕ}
    (hrange : h.range? config = some (start, tip)) : h'.range? config = some (start, tip) := by
  obtain ⟨op, next, reply, -, -⟩ := hcall
  obtain ⟨last, rest, hcalls, rfl⟩ := readRange?_eq_some_iff.mp hrange
  refine readRange?_eq_some_iff.mpr ⟨last, rest ++ [⟨op, reply⟩], ?_, rfl⟩
  dsimp only
  rw [hcalls]
  rfl

/-- The call that completes the range gets the tip. -/
lemma range?_of_call (hcall : Call head h h') {start tip : ℕ}
    (hrange : h'.range? config = some (start, tip)) :
    h.range? config = some (start, tip) ∨ tip = head := by
  obtain ⟨op, next, reply, -, htip⟩ := hcall
  obtain ⟨last, rest, hcalls, rfl⟩ := readRange?_eq_some_iff.mp hrange
  dsimp only at hcalls
  match hold : h.calls with
  | [] =>
    rw [hold] at hcalls
    cases hcalls
  | [e] =>
    rw [hold] at hcalls
    obtain ⟨-, hevent, -⟩ := List.cons.inj hcalls |>.imp id List.cons.inj
    exact Or.inr (htip tip hevent)
  | e₁ :: e₂ :: rest' =>
    rw [hold] at hcalls
    obtain ⟨rfl, rfl, -⟩ := List.cons.inj hcalls |>.imp id List.cons.inj
    exact Or.inl (readRange?_eq_some_iff.mpr ⟨last, rest', hold, rfl⟩)

/-- A bootstrap that has returned makes no call. -/
lemma not_call_of_ret (hret : h.bootstrap = .ret ()) : ¬ Call head h h' := by
  rintro ⟨op, next, reply, hcall, -⟩
  rw [hret] at hcall
  cases hcall

lemma streams_call (hcall : Call head h h') : h'.streams = h.streams := by
  obtain ⟨op, next, reply, -, -⟩ := hcall
  rfl

/-- After its first, opening a stream changes nothing. -/
lemma opened?_stream : (h.stream head).opened?.getD head = h.opened?.getD head := by
  rw [opened?, opened?, stream]
  cases h.streams with
  | nil => rfl
  | cons opened rest => rfl

/-! ### Moves of one protocol -/

/-- What a step of the engine does to the height and to one protocol. -/
inductive Move : ℕ → HandOver κ → ℕ → HandOver κ → Prop where
  | idle (head : ℕ) (h : HandOver κ) : Move head h head h
  | mine (head : ℕ) (h : HandOver κ) : Move head h (head + 1) h
  | call (head : ℕ) (h h' : HandOver κ) (hcall : Call head h h') : Move head h head h'
  | stream (head : ℕ) (h : HandOver κ) (hret : h.bootstrap = .ret ()) :
      Move head h head (h.stream head)

/-- From the first block on, the blocks after the tip hold no watched Borrow up to the opening of
the Borrow stream, or up to now. -/
def Gapless (config : BootstrapConfig κ) (chain : Chain κ) (head : ℕ) (h : HandOver κ) : Prop :=
  ∀ start tip, h.range? config = some (start, tip) → ∀ block, start ≤ block → tip < block →
    block ≤ h.opened?.getD head → ∀ log ∈ chain block, ¬ Watched config log

variable [DecidableEq κ]

/-- The calls so far are the beginning of a run, the tip is a height the chain has reached, and
streams are opened only after the bootstrap has returned. -/
structure Inv (config : BootstrapConfig κ) (head : ℕ) (h : HandOver κ) : Prop where
  trace : ∀ t o, h.bootstrap.Trace t o → (Bootstrap.run config).Trace (h.calls ++ t) o
  tip_le : ∀ start tip, h.range? config = some (start, tip) → tip ≤ head
  returned : h.streams ≠ [] → h.bootstrap = .ret ()

/-- Every move keeps the invariant. -/
theorem Inv.move (hinv : h.Inv config head) (hmove : Move head h head' h') :
    h'.Inv config head' := by
  cases hmove with
  | idle => exact hinv
  | mine =>
    exact ⟨hinv.trace, fun start tip hrange => Nat.le_succ_of_le (hinv.tip_le start tip hrange),
      hinv.returned⟩
  | call _ hcall =>
    refine ⟨?_, ?_, ?_⟩
    · obtain ⟨op, next, reply, hprogram, -⟩ := hcall
      intro t o ht
      rw [List.append_assoc]
      refine hinv.trace _ o ?_
      rw [hprogram]
      exact ⟨reply, t, rfl, ht⟩
    · intro start tip hrange
      rcases range?_of_call hcall hrange with hold | rfl
      · exact hinv.tip_le start tip hold
      · exact le_rfl
    · intro hstreams
      rw [streams_call hcall] at hstreams
      exact absurd hcall (not_call_of_ret (hinv.returned hstreams))
  | stream hret => exact ⟨hinv.trace, hinv.tip_le, fun _ => hret⟩

/-! ### Gaps -/

/-- A move opens no gap unless it mines a block that is not quiet. -/
theorem Gapless.move (hgapless : h.Gapless config chain head) (hinv : h.Inv config head)
    (hmove : Move head h head' h')
    (hquiet : head' = head + 1 → h.QuietBlock config chain head') :
    h'.Gapless config chain head' := by
  cases hmove with
  | idle => exact hgapless
  | mine =>
    intro start tip hrange block hstart htip hblock
    cases hopened : h.opened? with
    | some opened =>
      refine hgapless start tip hrange block hstart htip ?_
      rwa [hopened] at hblock ⊢
    | none =>
      rw [hopened, Option.getD_none] at hblock
      rcases Nat.le_succ_iff.mp hblock with hold | rfl
      · refine hgapless start tip hrange block hstart htip ?_
        rwa [hopened]
      · exact hquiet rfl start tip hrange hopened hstart
  | call _ hcall =>
    intro start tip hrange block hstart htip hblock
    rw [opened?, streams_call hcall] at hblock
    rcases range?_of_call hcall hrange with hold | rfl
    · exact hgapless start tip hold block hstart htip hblock
    · -- the tip has just been read, and no stream is open while the bootstrap runs
      have hstreams : h.streams = [] := by
        by_contra hne
        exact not_call_of_ret (hinv.returned hne) hcall
      rw [hstreams] at hblock
      exact absurd hblock (Nat.not_le_of_lt htip)
  | stream hret =>
    intro start tip hrange block hstart htip hblock
    rw [opened?_stream] at hblock
    exact hgapless start tip hrange block hstart htip hblock

/-- A gap stays, and a mined block that is not quiet opens one. -/
theorem gapless_of_move (hinv : h.Inv config head) (hmove : Move head h head' h')
    (hgapless : h'.Gapless config chain head') :
    h.Gapless config chain head ∧ (head' = head + 1 → h.QuietBlock config chain head') := by
  cases hmove with
  | idle => exact ⟨hgapless, fun hhead => absurd hhead (Nat.ne_of_lt (Nat.lt_succ_self _))⟩
  | mine =>
    constructor
    · intro start tip hrange block hstart htip hblock
      refine hgapless start tip hrange block hstart htip (hblock.trans ?_)
      cases h.opened? with
      | some opened => exact le_rfl
      | none => exact Nat.le_succ head
    · rintro - start tip hrange hopened hstart
      refine hgapless start tip hrange _ hstart (Nat.lt_succ_of_le (hinv.tip_le _ _ hrange)) ?_
      rw [hopened]
      exact le_rfl
  | call _ hcall =>
    refine ⟨fun start tip hrange block hstart htip hblock => ?_, fun hhead =>
      absurd hhead (Nat.ne_of_lt (Nat.lt_succ_self _))⟩
    refine hgapless start tip (range?_call hcall hrange) block hstart htip ?_
    rwa [opened?, streams_call hcall]
  | stream hret =>
    refine ⟨fun start tip hrange block hstart htip hblock => ?_, fun hhead =>
      absurd hhead (Nat.ne_of_lt (Nat.lt_succ_self _))⟩
    refine hgapless start tip hrange block hstart htip ?_
    rwa [opened?_stream]

/-- When the Borrow stream is open, the bootstrap has scanned the blocks from the first to the
tip. -/
lemma scanned_iff (hinv : h.Inv config head) {opened start tip : ℕ}
    (hopened : h.opened? = some opened) (hrange : h.range? config = some (start, tip))
    (block : ℕ) :
    (∃ range ∈ scannedRanges h.calls, range.1 ≤ block ∧ block ≤ range.2) ↔
      start ≤ block ∧ block ≤ tip := by
  have hstreams : h.streams ≠ [] := by
    intro hnil
    rw [opened?, hnil] at hopened
    cases hopened
  have htrace : (Bootstrap.run config).Trace (h.calls ++ []) (.ok ()) := by
    refine hinv.trace [] _ ?_
    rw [hinv.returned hstreams]
    exact ⟨rfl, rfl⟩
  rw [List.append_nil] at htrace
  obtain ⟨last, tip', rest, hcalls, hscanned⟩ := run_scanned_iff htrace
  have hread : h.range? config = some (last.getD config.deployBlock - 20, tip') :=
    readRange?_eq_some_iff.mpr ⟨last, rest, hcalls, rfl⟩
  obtain ⟨rfl, rfl⟩ := Prod.mk.inj (Option.some.inj (hrange.symm.trans hread))
  exact hscanned block

/-- Without a gap, every watched Borrow was scanned or is delivered. -/
lemma Gapless.noGap (hgapless : h.Gapless config chain head) (hinv : h.Inv config head) :
    h.NoGap config chain := by
  intro start tip opened hrange hopened block hstart log hlog hwatched
  by_cases htip : block ≤ tip
  · exact Or.inl ⟨htip, (scanned_iff hinv hopened hrange block).mpr ⟨hstart, htip⟩⟩
  · refine Or.inr (Nat.lt_of_not_le fun hblock => ?_)
    refine hgapless start tip hrange block hstart (Nat.lt_of_not_le htip) ?_ log hlog hwatched
    rwa [hopened]

/-- Once the Borrow stream is open, a gap is a watched Borrow that was missed. -/
lemma noGap_iff_gapless (hinv : h.Inv config head) (hstreams : h.streams ≠ []) :
    h.NoGap config chain ↔ h.Gapless config chain head := by
  refine ⟨fun hnogap => ?_, fun hgapless => hgapless.noGap hinv⟩
  intro start tip hrange block hstart htip hblock log hlog hwatched
  obtain ⟨opened, hopened⟩ : ∃ opened, h.opened? = some opened :=
    Option.isSome_iff_exists.mp (List.isSome_head?.mpr hstreams)
  rw [hopened, Option.getD_some] at hblock
  rcases hnogap start tip opened hrange hopened block hstart log hlog hwatched with
    ⟨hle, -⟩ | hlt
  · exact absurd hle (Nat.not_le_of_lt htip)
  · exact absurd hblock (Nat.not_le_of_lt hlt)

end

end HandOver

/-! ### The engine -/

section
variable {T : EthersText} {aaveChain : Chain Address} {morphoChain : Chain H256}
  {head : ℕ} {s s' : Startup}

/-- Both protocols keep their invariant, and past the first stage both bootstraps have returned. -/
structure StartupInv (T : EthersText) (s : Startup) : Prop where
  aave : s.aave.Inv (aaveBootstrap T) s.head
  morpho : s.morpho.Inv (morphoBootstrap T) s.head
  returned : s.stage ≠ .runAll → s.aave.bootstrap = .ret () ∧ s.morpho.bootstrap = .ret ()

lemma startupInv_initial : StartupInv T (.initial T head) where
  aave := ⟨fun _ _ ht => ht, fun _ _ hrange => (nomatch hrange), fun hne => absurd rfl hne⟩
  morpho := ⟨fun _ _ ht => ht, fun _ _ hrange => (nomatch hrange), fun hne => absurd rfl hne⟩
  returned hne := absurd rfl hne

lemma aaveUpdaterSpawned_ne {stage : StartStage} (h : stage.aaveUpdaterSpawned = true) :
    stage ≠ .runAll := by
  rintro rfl
  cases h

lemma morphoUpdaterSpawned_ne {stage : StartStage} (h : stage.morphoUpdaterSpawned = true) :
    stage ≠ .runAll := by
  rintro rfl
  cases h

/-- A step of the engine is a move of each protocol. -/
lemma StartupStep.moves (hinv : StartupInv T s) (hstep : StartupStep s s') :
    HandOver.Move s.head s.aave s'.head s'.aave ∧
      HandOver.Move s.head s.morpho s'.head s'.morpho := by
  cases hstep with
  | mine => exact ⟨.mine _ _, .mine _ _⟩
  | aaveBootstrap aave hcall => exact ⟨.call _ _ _ hcall, .idle _ _⟩
  | morphoBootstrap morpho hcall => exact ⟨.idle _ _, .call _ _ _ hcall⟩
  | bootstrapped => exact ⟨.idle _ _, .idle _ _⟩
  | advance => exact ⟨.idle _ _, .idle _ _⟩
  | aaveStream hspawned =>
    exact ⟨.stream _ _ (hinv.returned (aaveUpdaterSpawned_ne hspawned)).1, .idle _ _⟩
  | morphoStream hspawned =>
    exact ⟨.idle _ _, .stream _ _ (hinv.returned (morphoUpdaterSpawned_ne hspawned)).2⟩

/-- Every step keeps the invariant. -/
theorem startupInv_step : Preserves StartupStep (StartupInv T) := by
  intro s s' hstep hinv
  obtain ⟨haave, hmorpho⟩ := hstep.moves hinv
  refine ⟨hinv.aave.move haave, hinv.morpho.move hmorpho, ?_⟩
  cases hstep with
  | mine => exact hinv.returned
  | aaveBootstrap aave hcall =>
    exact fun hne => absurd hcall (HandOver.not_call_of_ret (hinv.returned hne).1)
  | morphoBootstrap morpho hcall =>
    exact fun hne => absurd hcall (HandOver.not_call_of_ret (hinv.returned hne).2)
  | bootstrapped hstage haaveRet hmorphoRet => exact fun _ => ⟨haaveRet, hmorphoRet⟩
  | advance hstage => exact fun _ => hinv.returned hstage
  | aaveStream => exact hinv.returned
  | morphoStream => exact hinv.returned

/-- Neither protocol has a gap. -/
def Startup.Gapless (T : EthersText) (aaveChain : Chain Address) (morphoChain : Chain H256)
    (s : Startup) : Prop :=
  s.aave.Gapless (aaveBootstrap T) aaveChain s.head ∧
    s.morpho.Gapless (morphoBootstrap T) morphoChain s.head

lemma gapless_initial : (Startup.initial T head).Gapless T aaveChain morphoChain :=
  ⟨fun _ _ hrange => (nomatch hrange), fun _ _ hrange => (nomatch hrange)⟩

lemma gapless_step (hinv : StartupInv T s) (hstep : StartupStep s s')
    (hquiet : QuietStep T aaveChain morphoChain s s') (h : s.Gapless T aaveChain morphoChain) :
    s'.Gapless T aaveChain morphoChain := by
  obtain ⟨haave, hmorpho⟩ := hstep.moves hinv
  exact ⟨h.1.move hinv.aave haave fun hhead => (hquiet hhead).1,
    h.2.move hinv.morpho hmorpho fun hhead => (hquiet hhead).2⟩

lemma gapless_of_step (hinv : StartupInv T s) (hstep : StartupStep s s')
    (h : s'.Gapless T aaveChain morphoChain) :
    s.Gapless T aaveChain morphoChain ∧ QuietStep T aaveChain morphoChain s s' := by
  obtain ⟨haave, hmorpho⟩ := hstep.moves hinv
  obtain ⟨haave, haaveQuiet⟩ := HandOver.gapless_of_move hinv.aave haave h.1
  obtain ⟨hmorpho, hmorphoQuiet⟩ := HandOver.gapless_of_move hinv.morpho hmorpho h.2
  exact ⟨⟨haave, hmorpho⟩, fun hhead => ⟨haaveQuiet hhead, hmorphoQuiet hhead⟩⟩

/-- In every run of the engine: while all steps are quiet, no watched Borrow has fallen between
bootstrap and updater; and once both updaters have started, none has if and only if all steps were
quiet. -/
theorem startup_noGap_iff (T : EthersText) (aaveChain : Chain Address) (morphoChain : Chain H256)
    (head : ℕ) (s : Startup) :
    (Run (Restrict StartupStep (QuietStep T aaveChain morphoChain)) (.initial T head) s →
      s.NoGap T aaveChain morphoChain) ∧
    (Run StartupStep (.initial T head) s → s.UpdatersStarted →
      (s.NoGap T aaveChain morphoChain ↔
        Run (Restrict StartupStep (QuietStep T aaveChain morphoChain)) (.initial T head) s)) := by
  constructor
  · intro hrun
    have hinv : StartupInv T s := startupInv_step.run (Run.of_restrict hrun) startupInv_initial
    obtain ⟨haave, hmorpho⟩ : s.Gapless T aaveChain morphoChain :=
      run_restrict startupInv_step (fun _ _ => gapless_step) startupInv_initial gapless_initial hrun
    exact ⟨haave.noGap hinv.aave, hmorpho.noGap hinv.morpho⟩
  · intro hrun hstarted
    have hinv : StartupInv T s := startupInv_step.run hrun startupInv_initial
    have haave : s.aave.streams ≠ [] := by
      apply List.ne_nil_of_length_pos
      rw [hstarted.1]
      exact Nat.one_pos
    have hmorpho : s.morpho.streams ≠ [] := by
      apply List.ne_nil_of_length_pos
      rw [hstarted.2]
      exact Nat.succ_pos 2
    have hgapless : s.NoGap T aaveChain morphoChain ↔ s.Gapless T aaveChain morphoChain :=
      and_congr (HandOver.noGap_iff_gapless hinv.aave haave)
        (HandOver.noGap_iff_gapless hinv.morpho hmorpho)
    rw [hgapless]
    exact run_restrict_iff startupInv_step (fun _ _ => gapless_step) (fun _ _ => gapless_of_step)
      startupInv_initial gapless_initial hrun

end

/-! ### A run with a gap -/

/-- A bootstrap can make all the calls of a trace without the chain going on. -/
lemma HandOver.calls_run {κ : Type} {head : ℕ} {p : BootstrapProgram κ Unit}
    {calls t : List (Event (bootstrapPorts κ))} {streams : List ℕ} (ht : p.Trace t (.ok ()))
    (htip : ∀ tip, tipEvent (.ok tip) ∈ t → tip = head) :
    Run (Call head) ⟨p, calls, streams⟩ ⟨.ret (), calls ++ t, streams⟩ := by
  induction p generalizing calls t with
  | ret a =>
    obtain ⟨rfl, -⟩ := ht
    rw [List.append_nil]
  | fail e => exact nomatch ht.2
  | call op next ih =>
    obtain ⟨reply, t', rfl, ht'⟩ := ht
    have hrest : Run (Call head) ⟨next reply, calls ++ [⟨op, reply⟩], streams⟩
        ⟨.ret (), calls ++ [⟨op, reply⟩] ++ t', streams⟩ :=
      ih reply ht' fun tip hmem => htip tip (List.mem_cons_of_mem _ hmem)
    rw [List.append_assoc] at hrest
    refine .head ?_ hrest
    exact .mk ⟨.call op next, calls, streams⟩ op next reply rfl fun tip heq =>
      htip tip (heq ▸ List.mem_cons_self)

/-- Such a run of a bootstrap whose blocks fit into one batch. -/
lemma HandOver.bootstrap_run {κ : Type} [DecidableEq κ] (config : BootstrapConfig κ)
    (last : Option ℕ) (head : ℕ) (hle : last.getD config.deployBlock - 20 ≤ head)
    (hbatch : head ≤ last.getD config.deployBlock - 20 + config.batchSize) :
    ∃ calls, Run (Call head) ⟨Bootstrap.run config, [], []⟩ ⟨.ret (), calls, []⟩ ∧
      readRange? config calls = some (last.getD config.deployBlock - 20, head) := by
  have hentries : (([] : List Text).forM Bootstrap.trackEntry : BootstrapProgram κ PUnit).Trace []
      (.ok ⟨⟩) := ⟨rfl, rfl⟩
  have htrace := run_trace_single last ([], [], []) rfl hle hbatch hentries
  refine ⟨_, calls_run htrace fun tip hmem => ?_, rfl⟩
  simp only [List.nil_append, List.mem_cons, List.not_mem_nil, or_false] at hmem
  rcases hmem with h | h | h | h | h
  all_goals cases h
  rfl

lemma StartStage.next_ne (stage : StartStage) : stage.next ≠ .runAll := by
  cases stage with
  | populateVdebtTokens remaining =>
    cases remaining with
    | nil => exact nofun
    | cons reserve remaining => exact nofun
  | _ => exact nofun

lemma advance_run (n : ℕ) {s : Startup} (hstage : s.stage ≠ .runAll) :
    Run StartupStep s { s with stage := StartStage.next^[n] s.stage } := by
  induction n generalizing s with
  | zero => exact .refl
  | succ n ih => exact .head (.advance s hstage) (ih (StartStage.next_ne s.stage))

/-- Both bootstraps run at the height at which Aave was deployed, and one block is mined before
the updaters start. -/
lemma startup_run : ∃ s, Run StartupStep (.initial .reference aaveDeployBlock) s ∧
    s.stage = .started ∧ s.UpdatersStarted ∧
    s.aave.range? (aaveBootstrap .reference) = some (aaveDeployBlock - 20, aaveDeployBlock) ∧
    s.aave.opened? = some (aaveDeployBlock + 1) := by
  obtain ⟨aaveCalls, haave, hrange⟩ := HandOver.bootstrap_run (aaveBootstrap .reference) none
    aaveDeployBlock (by decide) (by decide)
  obtain ⟨morphoCalls, hmorpho, -⟩ := HandOver.bootstrap_run (morphoBootstrap .reference)
    (some aaveDeployBlock) aaveDeployBlock (by decide) (by decide)
  let s₀ : Startup := .initial .reference aaveDeployBlock
  let s₁ : Startup := { s₀ with aave := ⟨.ret (), aaveCalls, []⟩ }
  let s₂ : Startup := { s₁ with morpho := ⟨.ret (), morphoCalls, []⟩ }
  let s₃ : Startup := { s₂ with stage := s₂.stage.next }
  let s₄ : Startup := { s₃ with head := s₃.head + 1 }
  let s₅ : Startup := { s₄ with stage := StartStage.next^[16] s₄.stage }
  let s₆ : Startup := { s₅ with aave := s₅.aave.stream s₅.head }
  let s₇ : Startup := { s₆ with morpho := s₆.morpho.stream s₆.head }
  let s₈ : Startup := { s₇ with morpho := s₇.morpho.stream s₇.head }
  let s₉ : Startup := { s₈ with morpho := s₈.morpho.stream s₈.head }
  have h₁ : Run StartupStep s₀ s₁ :=
    haave.lift (fun aave => { s₀ with aave := aave }) fun aave aave' hcall =>
      .aaveBootstrap { s₀ with aave := aave } aave' hcall
  have h₂ : Run StartupStep s₁ s₂ :=
    hmorpho.lift (fun morpho => { s₁ with morpho := morpho }) fun morpho morpho' hcall =>
      .morphoBootstrap { s₁ with morpho := morpho } morpho' hcall
  have h₃ : Run StartupStep s₂ s₄ :=
    .tail (.single (.bootstrapped s₂ rfl rfl rfl)) (.mine s₃)
  have h₅ : Run StartupStep s₄ s₅ := advance_run 16 (StartStage.next_ne s₂.stage)
  have h₆ : Run StartupStep s₅ s₉ :=
    .tail (.tail (.tail (.single (.aaveStream s₅ rfl Nat.one_pos))
      (.morphoStream s₆ rfl (show 0 < 3 by decide))) (.morphoStream s₇ rfl (show 1 < 3 by decide)))
      (.morphoStream s₈ rfl (show 2 < 3 by decide))
  exact ⟨s₉, (((h₁.trans h₂).trans h₃).trans h₅).trans h₆, rfl, ⟨rfl, rfl⟩, hrange, rfl⟩

/-- On chains without logs that run is quiet. -/
theorem startup_noGap_iff_sample : ∃ s, s.UpdatersStarted ∧
    Run (Restrict StartupStep (QuietStep .reference (fun _ => []) fun _ => []))
      (.initial .reference aaveDeployBlock) s ∧
    s.NoGap .reference (fun _ => []) fun _ => [] := by
  obtain ⟨s, hrun, -, hstarted, -, -⟩ := startup_run
  have hiff := startup_noGap_iff .reference (fun _ => []) (fun _ => []) aaveDeployBlock s
  have hquiet := (hiff.2 hrun hstarted).mp
    ⟨fun _ _ _ _ _ _ _ _ hlog => (nomatch hlog), fun _ _ _ _ _ _ _ _ hlog => (nomatch hlog)⟩
  exact ⟨s, hstarted, hquiet, hiff.1 hquiet⟩

/-- One borrow of the first reserve, in the block after the one at which Aave was deployed. -/
def sampleGapChain : Chain Address := fun block =>
  if block = aaveDeployBlock + 1 then
    [⟨.borrow, .ofNat 20 0x3c499c542cEF5E3811e1192ce70d8cC03d5c3359, .zero 20⟩]
  else []

/-- With this borrow in the block that is mined in between, the run has a gap. -/
theorem startup_misses_borrow : ∃ s, Run StartupStep (.initial .reference aaveDeployBlock) s ∧
    s.stage = .started ∧ s.UpdatersStarted ∧
    ¬ s.NoGap .reference sampleGapChain fun _ => [] := by
  obtain ⟨s, hrun, hstage, hstarted, hrange, hopened⟩ := startup_run
  refine ⟨s, hrun, hstage, hstarted, fun hnogap => ?_⟩
  have hborrow := hnogap.1 _ _ _ hrange hopened (aaveDeployBlock + 1)
    ((Nat.sub_le _ _).trans (Nat.le_succ _)) _ (List.mem_singleton_self _)
    ⟨rfl, List.mem_cons_self⟩
  rcases hborrow with ⟨hle, -⟩ | hlt
  · exact absurd hle (Nat.not_succ_le_self _)
  · exact absurd hlt (Nat.lt_irrefl _)

end LiqRanger
