import LiqRanger.Aave.Adapter
import LiqRanger.Effect.Pool
import LiqRanger.Morpho.Adapter
import LiqRanger.Watchlist.Durable

/-!
# Scans

`fetchLiquidationCandidates` of the two readers: the snapshot of a watchlist, its distinct targets
in any order, and one evaluation for each, ten at a time. Whatever the interleaving and the replies,
a scan ends, evaluates no target twice and nothing that is not tracked; and when it returns it has
evaluated every target and collected what the evaluations gave (`scans_coverTracked`).
-/

namespace LiqRanger

open Effect Transition

/-- The order in which a set is iterated. -/
structure Iterates {α : Type} [DecidableEq α] (order : List α) (set : Finset α) : Prop where
  nodup : order.Nodup
  toFinset_eq : order.toFinset = set

/-- The evaluations that a scan starts with; an empty snapshot has none. -/
def fetchStart {I : Interface} {α β : Type} (trackedIdentities : List Text) (order : List α) :
    Pool I Panic α (Option β) :=
  if trackedIdentities = [] then .start [] else .start order

/-- The profiles of the evaluations that gave one. -/
def collectCandidates {I : Interface} {α β : Type} (pool : Pool I Panic α (Option β)) : List β :=
  pool.finished.filterMap Prod.snd

/-- Any reply to any call. -/
def anyReply {I : Interface} : Handler I Unit := fun _ _ _ _ => True

/-! ### The two readers -/

variable (T : EthersText)

/-- The distinct borrowers of a snapshot; a text that is no Aave identity is dropped. -/
def AaveProtocolAdapter.uniqueBorrowers (trackedIdentities : List Text) : Finset Address :=
  (trackedIdentities.filterMap fun id =>
    match TrackerIdentity.fromStr T id with
    | .ok (.aaveV3 borrower _) => some borrower
    | _ => none).toFinset

def MorphoProtocolAdapter.uniqueIdentities (trackedIdentities : List Text) : Finset Text :=
  trackedIdentities.toFinset

/-- In a scan the evaluation finds the reserve itself. -/
def AaveProtocolAdapter.evaluateTracked (config : AaveConfig) (borrower : Address) :
    Program aaveCalls Panic (Option BorrowerProfile) :=
  evaluateBorrower T config borrower none

/-! ### What a scan looks at -/

/-- A scan ends, it evaluates nothing twice and nothing but tracked targets, and when it returns it
has evaluated every one and has collected the profiles of exactly the evaluations that gave one. An
input stands for the target `target a`. -/
structure LooksAtEach {I : Interface} {α γ : Type}
    (body : α → Program I Panic (Option BorrowerProfile))
    (start : Pool I Panic α (Option BorrowerProfile)) (target : α → Option γ)
    (tracked : Set γ) : Prop where
  ends : Inevitable (Pool.Step anyReply body 10)
    (fun s => s.1.Returned ∨ s.1.failed ≠ none) (start, ())
  nothingTwice : ∀ pool, Run (Pool.Step anyReply body 10) (start, ()) (pool, ()) →
    (pool.started.map target).Nodup
  nothingElse : ∀ pool, Run (Pool.Step anyReply body 10) (start, ()) (pool, ()) →
    ∀ a ∈ pool.started, ∃ c ∈ tracked, target a = some c
  everything : ∀ pool, Run (Pool.Step anyReply body 10) (start, ()) (pool, ()) → pool.Returned →
    ∀ c ∈ tracked, ∃ a ∈ pool.started, target a = some c
  results : ∀ pool, Run (Pool.Step anyReply body 10) (start, ()) (pool, ()) → pool.Returned →
    pool.started = pool.finished.map Prod.fst ∧
    (∀ a result, (a, result) ∈ pool.finished → ∃ t, (body a).Trace t (.ok result)) ∧
    ∀ profile, (collectCandidates pool).count profile
      = pool.finished.countP fun evaluation => evaluation.2 = some profile

section
variable {I : Interface} {α γ : Type} {body : α → Program I Panic (Option BorrowerProfile)}
  {order : List α} {target : α → Option γ} {tracked : Set γ}
  {pool : Pool I Panic α (Option BorrowerProfile)}

lemma started_of_returned (hend : pool.Returned) :
    pool.started = pool.finished.map Prod.fst := by
  obtain ⟨-, hrunning, hfailed⟩ := hend
  simp [Pool.started, hrunning, hfailed]

lemma mem_collectCandidates {profile : BorrowerProfile} :
    profile ∈ collectCandidates pool ↔ ∃ a, (a, some profile) ∈ pool.finished := by
  simp [collectCandidates]

lemma count_collectCandidates (profile : BorrowerProfile) :
    (collectCandidates pool).count profile
      = pool.finished.countP fun evaluation => evaluation.2 = some profile := by
  rw [collectCandidates, List.count_filterMap]
  apply List.countP_congr
  simp

/-- A scan of distinct inputs looks at each of the targets they stand for. -/
lemma looksAtEach (hreply : ∀ op, Nonempty (I.Reply op)) (horder : order.Nodup)
    (htracked : ∀ a ∈ order, ∃ c ∈ tracked, target a = some c)
    (hinj : ∀ a ∈ order, ∀ a' ∈ order, target a = target a' → a = a')
    (hall : ∀ c ∈ tracked, ∃ a ∈ order, target a = some c) :
    LooksAtEach body (.start order) target tracked where
  ends := by
    apply Pool.inevitable (by simp)
    intro w op
    obtain ⟨r⟩ := hreply op
    exact ⟨r, (), trivial⟩
  nothingTwice pool hrun := by
    apply (Pool.started_nodup hrun horder).map_on
    intro a ha a' ha'
    exact hinj a (Pool.mem_of_mem_started hrun ha) a' (Pool.mem_of_mem_started hrun ha')
  nothingElse pool hrun a ha := htracked a (Pool.mem_of_mem_started hrun ha)
  everything pool hrun hend c hc := by
    obtain ⟨a, ha, htarget⟩ := hall c hc
    refine ⟨a, ?_, htarget⟩
    rw [started_of_returned hend]
    exact (Pool.inputs_of_returned hrun hend).mem_iff.mpr ha
  results pool hrun hend :=
    ⟨started_of_returned hend, fun _ _ => Pool.trace_of_finished hrun, count_collectCandidates⟩

lemma fetchStart_eq {I : Interface} {α β : Type} {trackedIdentities : List Text} {order : List α}
    (hempty : trackedIdentities = [] → order = []) :
    (fetchStart trackedIdentities order : Pool I Panic α (Option β)) = .start order := by
  rw [fetchStart]
  split
  · next h => rw [hempty h]
  · rfl

lemma exists_fetchStart {I : Interface} {α β : Type} (trackedIdentities : List Text)
    (order : List α) :
    ∃ inputs, (fetchStart trackedIdentities order : Pool I Panic α (Option β)) = .start inputs := by
  rw [fetchStart]
  split
  · exact ⟨[], rfl⟩
  · exact ⟨order, rfl⟩

end

/-! ### Aave and Morpho -/

/-- The borrowers with a tracked reserve. -/
lemma AaveProtocolAdapter.mem_uniqueBorrowers {entries : List (Address × List Address)}
    {w : AaveWatchList} (hvisits : Visits entries w.cache) {b : Address} :
    b ∈ uniqueBorrowers T (AaveWatchList.snapshot T entries) ↔ ∃ r, w.contains b r = true := by
  have hmem : b ∈ uniqueBorrowers T (AaveWatchList.snapshot T entries) ↔
      ∃ r, (b, r) ∈ representatives entries := by
    simp [uniqueBorrowers, AaveWatchList.snapshot_eq, List.filterMap_map, ListKind.text, aaveKind,
      TrackerIdentity.fromStr_toStringId]
  rw [hmem]
  constructor
  · rintro ⟨r, hr⟩
    exact ⟨r, contains_of_mem_representatives hvisits hr⟩
  · rintro ⟨r, hr⟩
    exact exists_representative hvisits hr

/-- The texts of the tracked positions. -/
lemma MorphoProtocolAdapter.mem_uniqueIdentities {entries : List (Address × List H256)}
    {w : MorphoWatchList} (hvisits : Visits entries w.cache) {identity : Text} :
    identity ∈ uniqueIdentities (MorphoWatchList.snapshot T entries) ↔
      ∃ b m, w.contains b m = true ∧ morphoKind.text T b m = identity := by
  simp only [uniqueIdentities, MorphoWatchList.snapshot_eq, List.mem_toFinset, List.mem_map,
    Prod.exists, mem_positions hvisits, WatchList.contains]

/-- No two positions have one text. -/
lemma MorphoProtocolAdapter.snapshot_nodup {entries : List (Address × List H256)}
    {cache : MultiMap Address H256} (hvisits : Visits entries cache) :
    (MorphoWatchList.snapshot T entries).Nodup := by
  rw [MorphoWatchList.snapshot_eq]
  refine (positions_nodup hvisits).map fun p p' heq => ?_
  have hparse := congrArg (morphoKind.parse T) heq
  rwa [ListKind.parse_text, ListKind.parse_text, Option.some.injEq] at hparse

lemma aaveReply_nonempty (op : AaveOp) : Nonempty op.Reply := by
  cases op <;> exact ⟨.error "timeout"⟩

lemma morphoReply_nonempty (op : MorphoOp) : Nonempty op.Reply := by
  cases op <;> exact ⟨none⟩

/-- For every watchlist, every order of its snapshot and of the distinct targets: the Aave scan
evaluates each borrower with a tracked reserve exactly once and nobody else, the Morpho scan each
tracked position exactly once, by a text that stands for it, and nothing else; and what they return
are the profiles of the evaluations that gave one. -/
theorem scans_coverTracked (aaveConfig : AaveConfig) (morphoConfig : MorphoConfig) :
    (∀ (w : AaveWatchList) (entries : List (Address × List Address)) (order : List Address),
      Visits entries w.cache →
      Iterates order (AaveProtocolAdapter.uniqueBorrowers T (AaveWatchList.snapshot T entries)) →
      LooksAtEach (AaveProtocolAdapter.evaluateTracked T aaveConfig)
        (fetchStart (AaveWatchList.snapshot T entries) order) some
        {b | ∃ r, w.contains b r = true}) ∧
    ∀ (w : MorphoWatchList) (entries : List (Address × List H256)) (order : List Text),
      Visits entries w.cache →
      Iterates order (MorphoProtocolAdapter.uniqueIdentities (MorphoWatchList.snapshot T entries)) →
      LooksAtEach (MorphoProtocolAdapter.evaluateTarget T morphoConfig)
        (fetchStart (MorphoWatchList.snapshot T entries) order) (morphoKind.parse T)
        {p | w.contains p.1 p.2 = true} := by
  constructor
  · intro w entries order hvisits horder
    have hmem : ∀ b, b ∈ order ↔ ∃ r, w.contains b r = true := by
      intro b
      rw [← AaveProtocolAdapter.mem_uniqueBorrowers T hvisits, ← horder.toFinset_eq,
        List.mem_toFinset]
    rw [fetchStart_eq]
    · apply looksAtEach aaveReply_nonempty horder.nodup
      · exact fun b hb => ⟨b, (hmem b).mp hb, rfl⟩
      · exact fun b _ b' _ heq => Option.some.inj heq
      · exact fun b hb => ⟨b, (hmem b).mpr hb, rfl⟩
    · intro hempty
      rw [← List.toFinset_eq_empty_iff, horder.toFinset_eq, hempty]
      rfl
  · intro w entries order hvisits horder
    have hmem : ∀ identity, identity ∈ order ↔
        ∃ b m, w.contains b m = true ∧ morphoKind.text T b m = identity := by
      intro identity
      rw [← MorphoProtocolAdapter.mem_uniqueIdentities T hvisits, ← horder.toFinset_eq,
        List.mem_toFinset]
    rw [fetchStart_eq]
    · apply looksAtEach morphoReply_nonempty horder.nodup
      · intro identity hidentity
        obtain ⟨b, m, hcontains, rfl⟩ := (hmem identity).mp hidentity
        exact ⟨(b, m), hcontains, ListKind.parse_text b m⟩
      · intro identity hidentity identity' hidentity' heq
        obtain ⟨b, m, -, rfl⟩ := (hmem identity).mp hidentity
        obtain ⟨b', m', -, rfl⟩ := (hmem identity').mp hidentity'
        rw [ListKind.parse_text, ListKind.parse_text, Option.some.injEq, Prod.mk.injEq] at heq
        rw [heq.1, heq.2]
      · rintro ⟨b, m⟩ hcontains
        exact ⟨_, (hmem _).mpr ⟨b, m, hcontains, rfl⟩, ListKind.parse_text b m⟩
    · intro hempty
      rw [← List.toFinset_eq_empty_iff, horder.toFinset_eq, hempty]
      rfl

/-- Two borrowers, the first with two positions. -/
def sampleEntries {κ : Type} (x y : κ) : List (Address × List κ) :=
  [(.zero 20, [x, y]), (.ofNat 20 1, [x])]

def sampleCache {κ : Type} [DecidableEq κ] (x y : κ) : MultiMap Address κ :=
  ((∅ : MultiMap Address κ).insert (.ofNat 20 1) [x].toFinset).insert (.zero 20) [x, y].toFinset

lemma sampleEntries_visits {κ : Type} [DecidableEq κ] {x y : κ} (hne : x ≠ y) :
    Visits (sampleEntries x y) (sampleCache x y) :=
  (Visits.single (List.nodup_singleton x)).insert
    (show FixedHash.zero 20 ∉ [FixedHash.ofNat 20 1] by decide) (by simpa using hne)

/-- Two borrowers on each list, one of them with two positions. On Aave that is two evaluations, on
Morpho three. -/
theorem scans_coverTracked_sample :
    let aaveConfig : AaveConfig := ⟨.zero 20, fun _ => some wpol⟩
    let entries : List (Address × List H256) := sampleEntries (.zero 32) (.ofNat 32 1)
    let texts := MorphoWatchList.snapshot .reference entries
    LooksAtEach (AaveProtocolAdapter.evaluateTracked .reference aaveConfig)
        (fetchStart (AaveWatchList.snapshot .reference (sampleEntries wpol weth))
          [.ofNat 20 1, .zero 20]) some
        {b | ∃ r, (WatchList.new (sampleCache wpol weth)).contains b r = true} ∧
      texts.length = 3 ∧
      LooksAtEach (MorphoProtocolAdapter.evaluateTarget .reference .load)
        (fetchStart texts texts.reverse) (morphoKind.parse .reference)
        {p | (WatchList.new (sampleCache (.zero 32) (.ofNat 32 1))).contains p.1 p.2 = true} := by
  intro aaveConfig entries texts
  have hscans := scans_coverTracked .reference aaveConfig .load
  have hvisits : Visits entries _ := sampleEntries_visits (by decide)
  refine ⟨hscans.1 (.new _) _ _ (sampleEntries_visits (by decide)) ⟨by decide, ?_⟩, rfl,
    hscans.2 (.new _) _ _ hvisits ⟨?_, List.toFinset_reverse⟩⟩
  · simp [AaveProtocolAdapter.uniqueBorrowers, AaveWatchList.snapshot, sampleEntries, ListKind.text,
      aaveKind, TrackerIdentity.fromStr_toStringId, Finset.pair_comm]
  · exact List.nodup_reverse.mpr (MorphoProtocolAdapter.snapshot_nodup _ hvisits)

end LiqRanger
