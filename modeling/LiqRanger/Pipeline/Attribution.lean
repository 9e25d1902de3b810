import LiqRanger.Pipeline.Intake
import LiqRanger.Readers.Findings
import LiqRanger.Readers.Refresh

/-!
# From a list to a transaction

The two readers with their lists, the scans, the channel and the evaluations in one system. The
lists change at any time, every call may be answered by anything, and all parts take their steps in
any order. Each transaction goes back to a fetch of the scan with its block number: to a position
that was on the list when the fetch read it, and to calls of that fetch that show why it may be
liquidated (`attributed`). Who is never on a list is never named (`never_named`).
-/

namespace LiqRanger

open Effect Transition

/-! ### The system -/

/-- One reader: its list as it is now, and the fetches by the numbers of their scans. -/
structure ReaderState (κ : Type) (I : Interface) (α : Type) where
  list : WatchList κ
  fetches : ℕ → Option (Fetch κ I α)

namespace ReaderState

variable {κ α : Type} {I : Interface}

/-- The list changes, or the fetch of scan `k` reads it or goes on. -/
inductive Step (reader : ReaderConfig κ I α) (Fetches : ℕ → Prop) :
    ReaderState κ I α → ReaderState κ I α → Prop where
  | list (s : ReaderState κ I α) (list : WatchList κ) :
      Step reader Fetches s { s with list := list }
  | read (s : ReaderState κ I α) (k : ℕ) (start : Pool I Panic α (Option BorrowerProfile))
      (hfetches : Fetches k) (hnone : s.fetches k = none) (hstarts : reader.Starts s.list start) :
      Step reader Fetches s
        { s with fetches := Function.update s.fetches k (some ⟨s.list, start, []⟩) }
  | goOn (s : ReaderState κ I α) (k : ℕ) (fetch fetch' : Fetch κ I α) (hfetches : Fetches k)
      (hfetch : s.fetches k = some fetch) (hstep : fetch.Step reader fetch') :
      Step reader Fetches s { s with fetches := Function.update s.fetches k (some fetch') }

/-- The fetch of scan `k` returns these profiles. -/
def Returns (s : ReaderState κ I α) (k : ℕ) (profiles : List BorrowerProfile) : Prop :=
  ∃ fetch, s.fetches k = some fetch ∧ fetch.evaluations.Returned ∧
    profiles = collectCandidates fetch.evaluations

/-- The fetch of scan `k` has found this profile. -/
def Found (s : ReaderState κ I α) (k : ℕ) (profile : BorrowerProfile) : Prop :=
  ∃ fetch, s.fetches k = some fetch ∧ profile ∈ collectCandidates fetch.evaluations

end ReaderState

namespace Scanner

variable {ρ : Type}

def future? (s : Scanner ρ) (k i : ℕ) : Option (ScanFuture ρ) :=
  s.scans[k]?.bind fun scan => scan.futures[i]?

/-- Scan `k` waits for what the reader returns. -/
def WaitsFor (s : Scanner ρ) (reader : ρ) (k : ℕ) : Prop :=
  ∃ scan, s.scans[k]? = some scan ∧ scan.ended = none ∧
    ∃ future ∈ scan.futures, future.reader = reader ∧ future.progress = .fetching

end Scanner

structure Ranger where
  aave : ReaderState Address aaveCalls Address
  morpho : ReaderState H256 morphoCalls Text
  intake : Intake Protocol

def protocolReaders : List Protocol := [.aave, .morpho]

namespace Ranger

/-- Nothing was read yet. -/
def initial (aaveList : AaveWatchList) (morphoList : MorphoWatchList) : Ranger where
  aave := ⟨aaveList, fun _ => none⟩
  morpho := ⟨morphoList, fun _ => none⟩
  intake := .initial

def Returns (s : Ranger) (k : ℕ) (profiles : List BorrowerProfile) : Protocol → Prop
  | .aave => s.aave.Returns k profiles
  | .morpho => s.morpho.Returns k profiles

def Found (s : Ranger) (k : ℕ) (profile : BorrowerProfile) : Protocol → Prop
  | .aave => s.aave.Found k profile
  | .morpho => s.morpho.Found k profile

/-- What a future gets is what the fetch of its reader returns. -/
def Answers (s : Ranger) (intake : Intake Protocol) : Prop :=
  ∀ k i future future', s.intake.scanner.future? k i = some future →
    intake.scanner.future? k i = some future' → future.progress = .fetching →
    future'.progress = .fetching ∨
      ∃ profiles, s.Returns k profiles future.reader ∧ future'.progress = .streaming [] profiles

inductive Step (T : EthersText) (aaveConfig : AaveConfig) (morphoConfig : MorphoConfig)
    (deployment : Deployment) (limit : ℕ) : Ranger → Ranger → Prop where
  | aave (s : Ranger) (aave : ReaderState Address aaveCalls Address)
      (hstep : ReaderState.Step (aaveReader T aaveConfig) (s.intake.scanner.WaitsFor .aave)
        s.aave aave) :
      Step T aaveConfig morphoConfig deployment limit s { s with aave := aave }
  | morpho (s : Ranger) (morpho : ReaderState H256 morphoCalls Text)
      (hstep : ReaderState.Step (morphoReader T morphoConfig) (s.intake.scanner.WaitsFor .morpho)
        s.morpho morpho) :
      Step T aaveConfig morphoConfig deployment limit s { s with morpho := morpho }
  | intake (s : Ranger) (intake : Intake Protocol)
      (hstep : Intake.Step protocolReaders deployment limit s.intake intake)
      (hanswers : s.Answers intake) :
      Step T aaveConfig morphoConfig deployment limit s { s with intake := intake }

end Ranger

/-! ### Readers -/

namespace ReaderState

variable {κ α : Type} {I : Interface} {reader : ReaderConfig κ I α} {Fetches : ℕ → Prop}
  {s s' : ReaderState κ I α} {k : ℕ} {profile : BorrowerProfile}

/-- Every fetch has read its list and gone on from there. -/
def Sound (reader : ReaderConfig κ I α) (s : ReaderState κ I α) : Prop :=
  ∀ k fetch, s.fetches k = some fetch → fetch.Sound reader

/-- What holds of the list now, if it held before, holds of the lists that were read. -/
def EachList (P : WatchList κ → Prop) (s : ReaderState κ I α) : Prop :=
  P s.list ∧ ∀ k fetch, s.fetches k = some fetch → P fetch.list

lemma sound_step : Preserves (Step reader Fetches) (Sound reader) := by
  intro s s' hstep h
  cases hstep with
  | list => exact h
  | read k start hfetches hnone hstarts =>
    intro k' fetch hfetch
    simp only [Function.update_apply] at hfetch
    split at hfetch
    · cases hfetch
      exact ⟨start, hstarts, .refl⟩
    · exact h k' fetch hfetch
  | goOn k fetch fetch' hfetches hfetch hmove =>
    intro k' found hfound
    simp only [Function.update_apply] at hfound
    split at hfound
    · cases hfound
      exact (h k fetch hfetch).step hmove
    · exact h k' found hfound

lemma EachList.step {P : WatchList κ → Prop} (h : s.EachList P) (hstep : Step reader Fetches s s')
    (hP : P s'.list) : s'.EachList P := by
  refine ⟨hP, ?_⟩
  cases hstep with
  | list => exact h.2
  | read k start hfetches hnone hstarts =>
    intro k' fetch hfetch
    simp only [Function.update_apply] at hfetch
    split at hfetch
    · cases hfetch
      exact h.1
    · exact h.2 k' fetch hfetch
  | goOn k fetch fetch' hfetches hfetch hmove =>
    intro k' found hfound
    simp only [Function.update_apply] at hfound
    split at hfound
    · cases hfound
      rw [hmove.1]
      exact h.2 k fetch hfetch
    · exact h.2 k' found hfound

/-- What was found stays found. -/
lemma Found.step (h : s.Found k profile) (hstep : Step reader Fetches s s') :
    s'.Found k profile := by
  obtain ⟨found, hfound, hmem⟩ := h
  cases hstep with
  | list => exact ⟨found, hfound, hmem⟩
  | read k' start hfetches hnone hstarts =>
    have hk : k ≠ k' := by
      rintro rfl
      rw [hfound] at hnone
      cases hnone
    exact ⟨found, (Function.update_of_ne hk ..).trans hfound, hmem⟩
  | goOn k' fetch fetch' hfetches hfetch hmove =>
    by_cases hk : k = k'
    · subst hk
      rw [hfound, Option.some.injEq] at hfetch
      subst hfetch
      exact ⟨fetch', Function.update_self .., hmove.candidates_subset hmem⟩
    · exact ⟨found, (Function.update_of_ne hk ..).trans hfound, hmem⟩

end ReaderState

/-! ### Scans -/

/-- Only a fetch brings profiles. -/
lemma ScanProgress.Move.profiles_eq {channelClosed : Bool} {progress progress' : ScanProgress}
    {out : Option BorrowerProfile} (h : Move channelClosed progress progress' out) :
    progress = .fetching ∨ progress'.profiles = progress.profiles := by
  cases h with
  | fetch reply => exact Or.inl rfl
  | push pushed waiting profile hopen =>
    right
    simp [ScanProgress.profiles]
  | cutOff pushed waiting profile hclosed => exact Or.inr rfl

namespace Scanner

variable {ρ : Type} {readers : List ρ} {s s' : Scanner ρ} {k i : ℕ} {future future' : ScanFuture ρ}

lemma future?_eq_some : s.future? k i = some future ↔
    ∃ scan, s.scans[k]? = some scan ∧ scan.futures[i]? = some future := Option.bind_eq_some_iff

/-- A future is new, or it was there, and its profiles as well unless it was fetching them. -/
lemma Step.future? (hstep : Step readers s s') (hfuture : s'.future? k i = some future') :
    future'.progress = .fetching ∨ ∃ future, s.future? k i = some future ∧
      future'.reader = future.reader ∧
      (future.progress = .fetching ∨ future'.progress.profiles = future.progress.profiles) := by
  obtain ⟨scan', hscan', hfuture'⟩ := future?_eq_some.mp hfuture
  rcases hstep.cases with ⟨n, hscanstep⟩ | hkeeps | hspawns
  · right
    cases hscanstep with
    | move scan j moved progress out hscan hrunning hmoved hmove =>
      rcases getElem?_set_cases hscan' with ⟨rfl, rfl⟩ | ⟨hne, hold⟩
      · rcases getElem?_set_cases hfuture' with ⟨rfl, rfl⟩ | ⟨hne, hold⟩
        · exact ⟨moved, future?_eq_some.mpr ⟨scan, hscan, hmoved⟩, rfl, hmove.profiles_eq⟩
        · exact ⟨future', future?_eq_some.mpr ⟨scan, hscan, hold⟩, rfl, Or.inr rfl⟩
      · exact ⟨future', future?_eq_some.mpr ⟨scan', hold, hfuture'⟩, rfl, Or.inr rfl⟩
    | ended scan how hscan hrunning hhow =>
      rcases getElem?_set_cases hscan' with ⟨rfl, rfl⟩ | ⟨hne, hold⟩
      · exact ⟨future', future?_eq_some.mpr ⟨scan, hscan, hfuture'⟩, rfl, Or.inr rfl⟩
      · exact ⟨future', future?_eq_some.mpr ⟨scan', hold, hfuture'⟩, rfl, Or.inr rfl⟩
  · right
    rw [hkeeps.scans] at hscan'
    exact ⟨future', future?_eq_some.mpr ⟨scan', hscan', hfuture'⟩, rfl, Or.inr rfl⟩
  · rw [hspawns.scans, List.getElem?_append] at hscan'
    split at hscan'
    · exact Or.inr ⟨future', future?_eq_some.mpr ⟨scan', hscan', hfuture'⟩, rfl, Or.inr rfl⟩
    · left
      obtain rfl := List.mem_singleton.mp (List.mem_of_getElem? hscan')
      obtain ⟨reader, -, rfl⟩ := List.mem_map.mp (List.mem_of_getElem? hfuture')
      rfl

end Scanner

/-- The scanner takes a step of its own, or stays. -/
lemma Intake.Step.scanner_cases {ρ : Type} {readers : List ρ} {deployment : Deployment} {limit : ℕ}
    {s s' : Intake ρ} (hstep : Step readers deployment limit s s') :
    s'.scanner = s.scanner ∨ Scanner.Step readers s.scanner s'.scanner := by
  cases hstep with
  | scanner scanner hstep hroom hclosed => exact Or.inr hstep
  | _ => exact Or.inl rfl

/-! ### Every run -/

namespace Ranger

variable {T : EthersText} {aaveConfig : AaveConfig} {morphoConfig : MorphoConfig}
  {deployment : Deployment} {limit : ℕ} {s s' : Ranger}

/-- Everything that a future holds was found by the fetch of its scan. -/
structure Sound (T : EthersText) (aaveConfig : AaveConfig) (morphoConfig : MorphoConfig)
    (deployment : Deployment) (limit : ℕ) (s : Ranger) : Prop where
  aave : s.aave.Sound (aaveReader T aaveConfig)
  morpho : s.morpho.Sound (morphoReader T morphoConfig)
  intake : Run (Intake.Step protocolReaders deployment limit) .initial s.intake
  found : ∀ k i future, s.intake.scanner.future? k i = some future →
    ∀ profile ∈ future.progress.profiles, s.Found k profile future.reader

lemma sound_initial (aaveList : AaveWatchList) (morphoList : MorphoWatchList) :
    Sound T aaveConfig morphoConfig deployment limit (initial aaveList morphoList) where
  aave := nofun
  morpho := nofun
  intake := .refl
  found := nofun

lemma Found.of_returns {k : ℕ} {profiles : List BorrowerProfile} {profile : BorrowerProfile}
    {reader : Protocol} (h : s.Returns k profiles reader) (hmem : profile ∈ profiles) :
    s.Found k profile reader := by
  cases reader with
  | aave =>
    obtain ⟨fetch, hfetch, -, rfl⟩ := h
    exact ⟨fetch, hfetch, hmem⟩
  | morpho =>
    obtain ⟨fetch, hfetch, -, rfl⟩ := h
    exact ⟨fetch, hfetch, hmem⟩

lemma Found.mono {k : ℕ} {profile : BorrowerProfile} {reader : Protocol}
    (h : s.Found k profile reader) (haave : s.aave.Found k profile → s'.aave.Found k profile)
    (hmorpho : s.morpho.Found k profile → s'.morpho.Found k profile) :
    s'.Found k profile reader := by
  cases reader with
  | aave => exact haave h
  | morpho => exact hmorpho h

/-- After a step of the scanner a future still holds what was found. -/
lemma Sound.found_step (h : Sound T aaveConfig morphoConfig deployment limit s)
    {intake : Intake Protocol}
    (hstep : Intake.Step protocolReaders deployment limit s.intake intake)
    (hanswers : s.Answers intake) {k i : ℕ} {future' : ScanFuture Protocol}
    (hfuture' : intake.scanner.future? k i = some future') {profile : BorrowerProfile}
    (hprofile : profile ∈ future'.progress.profiles) : s.Found k profile future'.reader := by
  rcases hstep.scanner_cases with hsame | hscanner
  · rw [hsame] at hfuture'
    exact h.found k i future' hfuture' profile hprofile
  · rcases hscanner.future? hfuture' with hnew | ⟨future, hfuture, hreader, hfetching | hkept⟩
    · rw [hnew] at hprofile
      cases hprofile
    · rw [hreader]
      rcases hanswers k i future future' hfuture hfuture' hfetching with
        hnew | ⟨profiles, hreturns, hstreaming⟩
      · rw [hnew] at hprofile
        cases hprofile
      · rw [hstreaming] at hprofile
        exact .of_returns hreturns hprofile
    · rw [hreader]
      exact h.found k i future hfuture profile (hkept ▸ hprofile)

lemma sound_step : Preserves (Step T aaveConfig morphoConfig deployment limit)
    (Sound T aaveConfig morphoConfig deployment limit) := by
  intro s s' hstep h
  cases hstep with
  | aave aave hstep =>
    refine ⟨ReaderState.sound_step hstep h.aave, h.morpho, h.intake, ?_⟩
    intro k i future hfuture profile hprofile
    exact (h.found k i future hfuture profile hprofile).mono (fun hfound => hfound.step hstep) id
  | morpho morpho hstep =>
    refine ⟨h.aave, ReaderState.sound_step hstep h.morpho, h.intake, ?_⟩
    intro k i future hfuture profile hprofile
    exact (h.found k i future hfuture profile hprofile).mono id fun hfound => hfound.step hstep
  | intake intake hstep hanswers =>
    refine ⟨h.aave, h.morpho, h.intake.tail hstep, ?_⟩
    intro k i future hfuture profile hprofile
    exact (h.found_step hstep hanswers hfuture hprofile).mono id id

/-! ### Where a transaction comes from -/

/-- A fetch of scan `k` read a list with the borrower, and its calls show why. -/
def Shows (s : Ranger) (config : AaveConfig) (k : ℕ) (profile : BorrowerProfile) : Protocol → Prop
  | .aave => ∃ fetch, s.aave.fetches k = some fetch ∧
      (∃ reserve, fetch.list.contains profile.address reserve = true) ∧
      AaveEvidence config fetch.calls profile.address profile.debtAsset
  | .morpho => ∃ fetch, s.morpho.fetches k = some fetch ∧
      ∃ marketId, profile.marketId = some marketId ∧
        fetch.list.contains profile.address marketId = true ∧
        MorphoEvidence fetch.calls marketId profile.address profile.debtAsset

lemma Sound.shows (h : Sound T aaveConfig morphoConfig deployment limit s) {k : ℕ}
    {profile : BorrowerProfile} {reader : Protocol} (hfound : s.Found k profile reader) :
    s.Shows aaveConfig k profile reader := by
  cases reader with
  | aave =>
    obtain ⟨fetch, hfetch, hmem⟩ := hfound
    exact ⟨fetch, hfetch, Fetch.shown_aave (h.aave k fetch hfetch) hmem⟩
  | morpho =>
    obtain ⟨fetch, hfetch, hmem⟩ := hfound
    exact ⟨fetch, hfetch, Fetch.shown_morpho (h.morpho k fetch hfetch) hmem⟩

/-- An evaluation is of a profile that its scan shows. -/
lemma Sound.shows_payload (h : Sound T aaveConfig morphoConfig deployment limit s)
    {evaluation : PayloadTask Protocol} (hmem : evaluation ∈ s.intake.evaluations) :
    ∃ k scan, s.intake.scanner.scans[k]? = some scan ∧
      scan.blockNumber = evaluation.payload.blockNumber ∧
      s.Shows aaveConfig k evaluation.payload.profile evaluation.payload.reader := by
  have hsafe := Intake.sound_step.run h.intake Intake.sound_initial
  have hdelivers : Scanner.Delivers protocolReaders s.intake.scanner :=
    Scanner.delivers_step.run hsafe.scanner_run Scanner.delivers_initial
  have hpushed : evaluation.payload ∈ s.intake.scanner.pushed := by
    apply List.mem_of_mem_take (i := s.intake.taken)
    rw [← hsafe.fifo]
    exact List.mem_append_left _ (List.mem_map_of_mem hmem)
  obtain ⟨pushed, hchannel, hpayload⟩ := List.mem_map.mp hpushed
  obtain ⟨scan, hscan, future, hfuture, -, profile, hprofile, heq⟩ := hdelivers.found hchannel
  obtain ⟨k, hk⟩ := List.getElem?_of_mem hscan
  obtain ⟨i, hi⟩ := List.getElem?_of_mem hfuture
  have hfound := h.found k i future (Scanner.future?_eq_some.mpr ⟨scan, hk, hi⟩) profile hprofile
  rw [← hpayload, heq]
  exact ⟨k, scan, hk, rfl, h.shows hfound⟩

/-- In every run, whatever the lists become and whatever is answered: a transaction names the
borrower and the debt asset of the profile of its payload, and a fetch of the scan with the number
of that block has read a list with the borrower and got answers that show an account, or a position,
that may be liquidated. -/
theorem attributed (T : EthersText) (aaveConfig : AaveConfig) (morphoConfig : MorphoConfig)
    (deployment : Deployment) (limit : ℕ) (aaveList : AaveWatchList) (morphoList : MorphoWatchList)
    (s : Ranger)
    (hrun : Run (Step T aaveConfig morphoConfig deployment limit) (initial aaveList morphoList) s) :
    ∀ evaluation ∈ s.intake.evaluations, ∀ before tx answer after,
      evaluation.calls = before ++ sentEvent tx answer :: after →
      AsksFor deployment.abi evaluation.payload.profile tx.data ∧
      ∃ k scan, s.intake.scanner.scans[k]? = some scan ∧
        scan.blockNumber = evaluation.payload.blockNumber ∧
        s.Shows aaveConfig k evaluation.payload.profile evaluation.payload.reader := by
  intro evaluation hmem before tx answer after hcalls
  have h : Sound T aaveConfig morphoConfig deployment limit s :=
    sound_step.run hrun (sound_initial aaveList morphoList)
  have hsafe := Intake.sound_step.run h.intake Intake.sound_initial
  exact ⟨((hsafe.under_way evaluation hmem).rehearsed hcalls).2.2, h.shows_payload hmem⟩

/-- The borrower is on a list. -/
def Tracks (s : Ranger) (borrower : Address) : Prop :=
  (∃ reserve, s.aave.list.contains borrower reserve = true) ∨
    ∃ marketId, s.morpho.list.contains borrower marketId = true

/-- No list that was read has the borrower. -/
structure NeverRead (borrower : Address) (s : Ranger) : Prop where
  aave : s.aave.EachList fun w => ¬ ∃ reserve, w.contains borrower reserve = true
  morpho : s.morpho.EachList fun w => ¬ ∃ marketId, w.contains borrower marketId = true

lemma neverRead_initial {borrower : Address} {aaveList : AaveWatchList}
    {morphoList : MorphoWatchList} (h : ¬ (initial aaveList morphoList).Tracks borrower) :
    NeverRead borrower (initial aaveList morphoList) := by
  rw [Tracks, not_or] at h
  exact ⟨⟨h.1, nofun⟩, h.2, nofun⟩

lemma NeverRead.step {borrower : Address} (h : s.NeverRead borrower)
    (hstep : Step T aaveConfig morphoConfig deployment limit s s') (hnot : ¬ s'.Tracks borrower) :
    s'.NeverRead borrower := by
  rw [Tracks, not_or] at hnot
  cases hstep with
  | aave aave hstep => exact ⟨h.aave.step hstep hnot.1, h.morpho⟩
  | morpho morpho hstep => exact ⟨h.aave, h.morpho.step hstep hnot.2⟩
  | intake intake hstep hanswers => exact ⟨h.aave, h.morpho⟩

lemma NeverRead.address_ne {borrower : Address} (h : s.NeverRead borrower) {k : ℕ}
    {profile : BorrowerProfile} {reader : Protocol}
    (hshows : s.Shows aaveConfig k profile reader) : profile.address ≠ borrower := by
  rintro rfl
  cases reader with
  | aave =>
    obtain ⟨fetch, hfetch, hlist, -⟩ := hshows
    exact h.aave.2 k fetch hfetch hlist
  | morpho =>
    obtain ⟨fetch, hfetch, marketId, -, hlist, -⟩ := hshows
    exact h.morpho.2 k fetch hfetch ⟨marketId, hlist⟩

/-- As long as a borrower is on neither list, no transaction names it. -/
theorem never_named (T : EthersText) (aaveConfig : AaveConfig) (morphoConfig : MorphoConfig)
    (deployment : Deployment) (limit : ℕ) (aaveList : AaveWatchList) (morphoList : MorphoWatchList)
    (borrower : Address) (s : Ranger) (hinitial : ¬ (initial aaveList morphoList).Tracks borrower)
    (hrun : Run (Restrict (Step T aaveConfig morphoConfig deployment limit)
      fun _ s' => ¬ s'.Tracks borrower) (initial aaveList morphoList) s) :
    ∀ evaluation ∈ s.intake.evaluations, ∀ before tx answer after flashAmount params,
      evaluation.calls = before ++ sentEvent tx answer :: after →
      deployment.abi.decode tx.data = some (flashAmount, params) → params.borrower ≠ borrower := by
  intro evaluation hmem before tx answer after flashAmount params hcalls hdecode
  have h : Sound T aaveConfig morphoConfig deployment limit s :=
    sound_step.run (Run.of_restrict hrun) (sound_initial aaveList morphoList)
  have hany : Preserves (Step T aaveConfig morphoConfig deployment limit) fun _ => True :=
    fun _ _ _ _ => trivial
  have hnever : s.NeverRead borrower :=
    run_restrict hany (fun _ _ _ hstep hnot hnever => NeverRead.step hnever hstep hnot) trivial
      (neverRead_initial hinitial) hrun
  have hsafe := Intake.sound_step.run h.intake Intake.sound_initial
  obtain ⟨-, -, flashAmount', params', hdecode', -, hborrower, -⟩ :=
    (hsafe.under_way evaluation hmem).rehearsed hcalls
  obtain ⟨k, scan, -, -, hshows⟩ := h.shows_payload hmem
  rw [hdecode', Option.some.injEq, Prod.mk.injEq] at hdecode
  rw [← hdecode.2, hborrower]
  exact hnever.address_ne hshows

/-! ### One borrower -/

/-- The lists are these after a step. -/
def Keeps (aaveList : AaveWatchList) (morphoList : MorphoWatchList) (_ s' : Ranger) : Prop :=
  s'.aave.list = aaveList ∧ s'.morpho.list = morphoList

section
variable {aaveList : AaveWatchList} {morphoList : MorphoWatchList}

lemma answers_of_eq {intake : Intake Protocol} (h : intake.scanner = s.intake.scanner) :
    s.Answers intake := by
  intro k i future future' hfuture hfuture' hfetching
  rw [h, hfuture, Option.some.injEq] at hfuture'
  exact Or.inl (hfuture' ▸ hfetching)

/-- A fetch goes on while nothing else happens. -/
lemma run_morpho (hlists : Keeps aaveList morphoList s s) {k : ℕ}
    {fetch : Fetch H256 morphoCalls Text} (hwaits : s.intake.scanner.WaitsFor .morpho k)
    (hfetch : s.morpho.fetches k = some fetch)
    {pool : Pool morphoCalls Panic Text (Option BorrowerProfile)} {calls : List (Event morphoCalls)}
    (hrun : Run (Pool.Step (.log morphoCalls) (morphoReader T morphoConfig).evaluate 10)
      (fetch.evaluations, fetch.calls) (pool, calls)) :
    Run (Restrict (Step T aaveConfig morphoConfig deployment limit) (Keeps aaveList morphoList)) s
      { s with morpho := { s.morpho with
        fetches := Function.update s.morpho.fetches k (some ⟨fetch.list, pool, calls⟩) } } := by
  let at' (x : Pool morphoCalls Panic Text (Option BorrowerProfile) × List (Event morphoCalls)) :
      Ranger :=
    { s with morpho := { s.morpho with
      fetches := Function.update s.morpho.fetches k (some ⟨fetch.list, x.1, x.2⟩) } }
  have hstart : s = at' (fetch.evaluations, fetch.calls) := by
    simp only [at', ← hfetch, Function.update_eq_self]
  have hlift : Run (Restrict (Step T aaveConfig morphoConfig deployment limit)
      (Keeps aaveList morphoList)) (at' (fetch.evaluations, fetch.calls)) (at' (pool, calls)) := by
    refine Relation.ReflTransGen.lift at' ?_ _ _ hrun
    intro x x' hmove
    refine ⟨.morpho _ _ ?_, hlists⟩
    have hstep : ReaderState.Step (morphoReader T morphoConfig) (s.intake.scanner.WaitsFor .morpho)
        (at' x).morpho _ :=
      .goOn (at' x).morpho k ⟨fetch.list, x.1, x.2⟩ ⟨fetch.list, x'.1, x'.2⟩ hwaits
        (Function.update_self ..) ⟨rfl, hmove⟩
    simpa only [at', Function.update_idem] using hstep
  rwa [← hstart] at hlift

/-- So do the evaluations. -/
lemma run_intake (hlists : Keeps aaveList morphoList s s) {intake : Intake Protocol}
    (hrun : Run (Restrict (Intake.Step protocolReaders deployment limit)
      fun s s' => s'.scanner = s.scanner) s.intake intake) :
    Run (Restrict (Step T aaveConfig morphoConfig deployment limit) (Keeps aaveList morphoList)) s
      { s with intake := intake } := by
  refine Relation.ReflTransGen.lift (fun intake => { s with intake := intake }) ?_ _ _ hrun
  intro intake intake' hstep
  exact ⟨.intake { s with intake := intake } intake' hstep.1 (answers_of_eq hstep.2), hlists⟩

end

/-- The sample position, as a scan of block 3 finds it. -/
def sampleFound : BorrowerProfile := sampleMorphoProfile sampleRepay 1000000000000000000

def samplePush : LiqPayload Protocol := ⟨sampleFound, .morpho, 3⟩

def samplePushQuote : MarketQuote := sampleQuote 50 2000000000000000000

def samplePushJob : LiquidationJob := buildLiquidationJob sampleFound samplePushQuote

def samplePushTx : Eip1559TransactionRequest :=
  ⟨flashLiquidator, FlashAbi.selector ++ FlashAbi.layout sampleFound.debtToCover
    samplePushJob.params, 240, 72000000000, 36000000000⟩

def samplePushSimulation : List (Event simulatorPorts) :=
  [.left evmPorts ⟨.cachedSnapshot 3, some sampleSnapshot⟩,
    RevmAdapter.executedEvent
      { sampleEnv with tx := { sampleEnv.tx with data := samplePushTx.data } } sampleSnapshot
      (.ok (.success 200))]

def samplePushFees : Event contractPorts :=
  FlashLiquidatorAdapter.feesEvent (.ok (30000000000, 24000000000))

/-- The calls up to the refresh. -/
def samplePushScouted : List (Event (wiredPorts Protocol)) :=
  .left nodePorts ⟨.getSwapQuote (.ofNat 20 1) (.ofNat 20 2) 18 18 sampleFound.seizeAmount,
      .ok samplePushQuote⟩ ::
    (samplePushSimulation.map (Event.left contractPorts)).map (Event.right (scoutPorts Protocol))

/-- The calls up to the transaction. -/
def samplePushBefore : List (Event (wiredPorts Protocol)) :=
  samplePushScouted ++
    [.left nodePorts ⟨.refreshBorrower .morpho sampleMorphoIdentity, .ok sampleFound⟩,
      .right (scoutPorts Protocol) (.right simulatorPorts samplePushFees)]

def samplePushAfter : List (Event (wiredPorts Protocol)) :=
  [.right (scoutPorts Protocol) (.right simulatorPorts ⟨.spawnPolling (.zero 32), ()⟩)]

lemma samplePush_simulation :
    (RevmAdapter.simulateLiquidation sampleDeployment 3 samplePushJob).Trace samplePushSimulation
      (.ok 200) :=
  ⟨some sampleSnapshot, _, rfl, .ok (.success 200), _, rfl, rfl, rfl⟩

lemma samplePush_sending :
    (FlashLiquidatorAdapter.executeLiquidation sampleDeployment.abi samplePushJob
      (gasLimitOf 200)).Trace
      [samplePushFees, FlashLiquidatorAdapter.sendEvent samplePushTx (.ok (.zero 32)),
        ⟨.spawnPolling (.zero 32), ()⟩] (.ok (.ok (.zero 32))) :=
  ⟨.ok (30000000000, 24000000000), _, rfl, .ok (.zero 32), _, rfl, (), _, rfl, rfl, rfl⟩

lemma samplePush_carriesOut : CarriesOut (I := ports Protocol) sampleDeployment.adapter
    [quoteEvent sampleFound (.ok samplePushQuote), simulateEvent 3 samplePushJob (.ok 200),
      refreshEvent .morpho sampleMorphoIdentity (.ok sampleFound),
      executeEvent samplePushJob (gasLimitOf 200) (.ok (.zero 32))]
    (samplePushBefore ++ sentEvent samplePushTx (.ok (.zero 32)) :: samplePushAfter) := by
  refine .cons (u := [_]) ⟨_, _, rfl, rfl, rfl⟩ (.cons (u := [_, _]) ?_
    (.cons (u := [_]) ⟨_, _, rfl, rfl, rfl⟩ (.cons (u := [_, _, _]) ?_ .nil)))
  · exact Program.trace_right.mpr ⟨_, rfl, Program.trace_left.mpr
      ⟨_, rfl, RevmAdapter.trace_awaitSimulation.mpr ⟨_, samplePush_simulation, rfl⟩⟩⟩
  · exact Program.trace_right.mpr ⟨_, rfl, Program.trace_right.mpr ⟨_, rfl, samplePush_sending⟩⟩

/-- It is sent. -/
lemma samplePush_trace : (sampleDeployment.processPayload samplePush).Trace
    (samplePushBefore ++ sentEvent samplePushTx (.ok (.zero 32)) :: samplePushAfter)
    (.ok (.ok ())) := by
  have hrun : BroadcastRun samplePush sampleFound samplePushJob 200 _ :=
    .unchanged samplePushQuote 200 (.ok (.zero 32)) (by decide) (by decide) rfl rfl
  exact Program.trace_interpret.mpr (Or.inl ⟨_, _, hrun.trace, samplePush_carriesOut, rfl⟩)

/-! ### A run up to the transaction -/

def sampleAaveList : AaveWatchList := .new ∅

def sampleMorphoList : MorphoWatchList :=
  .new ((∅ : MultiMap Address H256).insert (.ofNat 20 1001) [.ofNat 32 7].toFinset)

def sampleRanger (fetches : ℕ → Option (Fetch H256 morphoCalls Text)) (intake : Intake Protocol) :
    Ranger :=
  ⟨⟨sampleAaveList, fun _ => none⟩, ⟨sampleMorphoList, fetches⟩, intake⟩

/-- A scan of block 3 while the Aave reader fetches, and what the Morpho reader has pushed. -/
def samplePushScanner (morpho : ScanProgress) (sent : List BorrowerProfile) : Scanner Protocol where
  phase := .selecting
  lastProcessedBlock := 3
  scans := [Scanner.sampleScanOf .fetching morpho none]
  tracker := [0]
  channel := sent.map fun profile => ⟨0, 1, ⟨profile, .morpho, 3⟩⟩
  channelClosed := false

def samplePushIntake (morpho : ScanProgress) (sent : List BorrowerProfile) : Intake Protocol :=
  ⟨false, samplePushScanner morpho sent, 0, .selecting, []⟩

open Scanner in
lemma samplePushIntake_move {morpho morpho' : ScanProgress} {out : Option BorrowerProfile}
    (hmove : ScanProgress.Move false morpho morpho' out) :
    Intake.Step protocolReaders deployment limit (samplePushIntake morpho [])
      (samplePushIntake morpho' out.toList) := by
  have hstep : ScanStep 0 (samplePushScanner morpho []) (samplePushScanner morpho' out.toList) := by
    have hmoved := ScanStep.move (k := 0) (samplePushScanner morpho [])
      (sampleScanOf .fetching morpho none) 1 ⟨.morpho, morpho⟩ morpho' out rfl rfl rfl hmove
    cases out <;> exact hmoved
  refine .scanner (samplePushIntake morpho []) _ (.scan _ _ 0 hstep) ?_ nofun
  cases out <;> simp [samplePushScanner, samplePushIntake, queueCapacity]

lemma samplePush_answers {fetches : ℕ → Option (Fetch H256 morphoCalls Text)}
    {morpho morpho' : ScanProgress} {sent sent' : List BorrowerProfile}
    (h : morpho = .fetching → ∃ profiles,
      (sampleRanger fetches (samplePushIntake morpho sent)).Returns 0 profiles .morpho ∧
        morpho' = .streaming [] profiles) :
    (sampleRanger fetches (samplePushIntake morpho sent)).Answers
      (samplePushIntake morpho' sent') := by
  intro k i future future' hfuture hfuture' hfetching
  obtain ⟨scan, hscan, hfuture⟩ := Scanner.future?_eq_some.mp hfuture
  obtain ⟨scan', hscan', hfuture'⟩ := Scanner.future?_eq_some.mp hfuture'
  rcases k with _ | k
  · obtain rfl : Scanner.sampleScanOf .fetching morpho none = scan := Option.some.inj hscan
    obtain rfl : Scanner.sampleScanOf .fetching morpho' none = scan' := Option.some.inj hscan'
    match i with
    | 0 =>
      obtain rfl := Option.some.inj hfuture'
      exact Or.inl rfl
    | 1 =>
      obtain rfl := Option.some.inj hfuture
      obtain rfl := Option.some.inj hfuture'
      exact Or.inr (h hfetching)
    | i + 2 => cases hfuture
  · cases hscan

lemma samplePush_waits (fetches : ℕ → Option (Fetch H256 morphoCalls Text)) :
    (sampleRanger fetches (samplePushIntake .fetching [])).intake.scanner.WaitsFor .morpho 0 :=
  ⟨_, rfl, rfl, ⟨.morpho, .fetching⟩, by simp [Scanner.sampleScanOf], rfl, rfl⟩

/-- A step of the sample, with the lists as they are. -/
abbrev SampleStep : Ranger → Ranger → Prop :=
  Restrict (Step .reference sampleAaveConfig .load sampleDeployment 1)
    (Keeps sampleAaveList sampleMorphoList)

/-- The Morpho reader reads its list and finds the position. -/
lemma sample_found : ∃ fetches, Run SampleStep (initial sampleAaveList sampleMorphoList)
      (sampleRanger fetches (samplePushIntake .fetching [])) ∧
    (sampleRanger fetches (samplePushIntake .fetching [])).Returns 0 [sampleFound] .morpho := by
  obtain ⟨t, ht, -⟩ := Program.exists_trace_eval
    (sampleReads 1000000000000000000000000 1100000000000000000).answer
    (MorphoProtocolAdapter.evaluateTarget .reference .load sampleMorphoIdentity)
  rw [sample_exact] at ht
  let started : Fetch H256 morphoCalls Text := ⟨sampleMorphoList, .start [sampleMorphoIdentity], []⟩
  let ended : Fetch H256 morphoCalls Text :=
    ⟨sampleMorphoList, ⟨[], [], [(sampleMorphoIdentity, some sampleFound)], none⟩, t⟩
  let fetches : ℕ → Option (Fetch H256 morphoCalls Text) :=
    Function.update (fun _ => none) 0 (some started)
  have hscan : Run SampleStep (initial sampleAaveList sampleMorphoList)
      (sampleRanger (fun _ => none) (samplePushIntake .fetching [])) := by
    refine .head ⟨.intake _ _ (.startPipeline _ rfl) (answers_of_eq rfl), rfl, rfl⟩ ?_
    exact .single ⟨.intake _ (samplePushIntake .fetching []) (.scanner _ _ (.block _ 3 rfl)
      (Nat.zero_le _) nofun) nofun, rfl, rfl⟩
  have hread : Run SampleStep (sampleRanger (fun _ => none) (samplePushIntake .fetching []))
      (sampleRanger fetches (samplePushIntake .fetching [])) := by
    have hstarts : (morphoReader .reference .load).Starts sampleMorphoList
        (.start [sampleMorphoIdentity]) :=
      ⟨[(.ofNat 20 1001, [.ofNat 32 7])], [sampleMorphoIdentity], .single (List.nodup_singleton _),
        ⟨List.nodup_singleton _, rfl⟩, rfl⟩
    exact .single ⟨.morpho _ _ (.read _ 0 _ (samplePush_waits _) rfl hstarts), rfl, rfl⟩
  have hpool : Run (Pool.Step (.log morphoCalls) (morphoReader .reference .load).evaluate 10)
      (started.evaluations, started.calls) (ended.evaluations, ended.calls) :=
    .head (.take sampleMorphoIdentity [] [] [] [] (by simp))
      (Pool.run_of_trace ht (path_log [] t) [] [] [] [])
  have hstarted : fetches 0 = some started := Function.update_self ..
  have hfetch : Run SampleStep (sampleRanger fetches (samplePushIntake .fetching []))
      (sampleRanger (Function.update fetches 0 (some ended)) (samplePushIntake .fetching [])) :=
    run_morpho (s := sampleRanger fetches (samplePushIntake .fetching [])) ⟨rfl, rfl⟩
      (samplePush_waits _) hstarted hpool
  have hended : Function.update fetches 0 (some ended) 0 = some ended := Function.update_self ..
  exact ⟨_, hscan.trans (hread.trans hfetch), ended, hended, ⟨rfl, rfl, rfl⟩, rfl⟩

/-- What it finds is pushed, evaluated and sent. -/
lemma sample_sent : ∃ s, Run SampleStep (initial sampleAaveList sampleMorphoList) s ∧
    s.intake.evaluations = [⟨samplePush,
      samplePushBefore ++ sentEvent samplePushTx (.ok (.zero 32)) :: samplePushAfter,
      .ret (.ok ())⟩] := by
  obtain ⟨fetches, hfound, hreturns⟩ := sample_found
  have hpush : Run SampleStep (sampleRanger fetches (samplePushIntake .fetching []))
      (sampleRanger fetches (samplePushIntake (.streaming [sampleFound] []) [sampleFound])) := by
    refine .head ⟨.intake _ (samplePushIntake (.streaming [] [sampleFound]) [])
      (samplePushIntake_move (.fetch (.ok [sampleFound]))) (samplePush_answers ?_), rfl, rfl⟩ ?_
    · exact fun _ => ⟨_, hreturns, rfl⟩
    · exact .single ⟨.intake _ _ (samplePushIntake_move (.push [] [] sampleFound rfl))
        (samplePush_answers nofun), rfl, rfl⟩
  let acquired : Ranger := sampleRanger fetches
    { samplePushIntake (.streaming [sampleFound] []) [sampleFound] with
      taken := 1
      evaluations := [⟨samplePush, [], sampleDeployment.processPayload samplePush⟩] }
  have hacquire : Run SampleStep
      (sampleRanger fetches (samplePushIntake (.streaming [sampleFound] []) [sampleFound]))
      acquired := by
    refine .head ⟨.intake _ _ (.receive _ ⟨0, 1, samplePush⟩ rfl rfl) (answers_of_eq rfl), rfl, rfl⟩
      ?_
    exact .single ⟨.intake _ _ (.acquire _ samplePush rfl (Nat.lt_succ_self 0)) (answers_of_eq rfl),
      rfl, rfl⟩
  have hsend : Run SampleStep acquired _ :=
    run_intake (s := acquired) ⟨rfl, rfl⟩
      (Intake.run_trace (s := acquired.intake) [] [] samplePush_trace rfl)
  exact ⟨_, hfound.trans (hpush.trans (hacquire.trans hsend)), rfl⟩

/-- The sample position was on the list, and was not healthy. -/
theorem attributed_sample : ∃ (s : Ranger) (k : ℕ) (scan : Scan Protocol),
    s.intake.scanner.scans[k]? = some scan ∧ scan.blockNumber = 3 ∧
      s.Shows sampleAaveConfig k sampleFound .morpho := by
  obtain ⟨s, hrun, hevaluations⟩ := sample_sent
  obtain ⟨-, k, scan, hscan, hblock, hshows⟩ := attributed .reference sampleAaveConfig .load
    sampleDeployment 1 sampleAaveList sampleMorphoList s (Run.of_restrict hrun) _
    (hevaluations ▸ List.mem_singleton_self _) samplePushBefore samplePushTx (.ok (.zero 32))
    samplePushAfter rfl
  exact ⟨s, k, scan, hscan, hblock, hshows⟩

/-- Another borrower is not named. -/
theorem never_named_sample : ∃ flashAmount params,
    sampleDeployment.abi.decode samplePushTx.data = some (flashAmount, params) ∧
      params.borrower ≠ .ofNat 20 9 := by
  obtain ⟨s, hrun, hevaluations⟩ := sample_sent
  have haave : ¬ ∃ reserve, sampleAaveList.contains (.ofNat 20 9) reserve = true := by
    rintro ⟨reserve, h⟩
    cases h
  have hmorpho : ¬ ∃ marketId, sampleMorphoList.contains (.ofNat 20 9) marketId = true := by
    rintro ⟨marketId, h⟩
    cases h
  have hnot : ∀ s s' : Ranger, Keeps sampleAaveList sampleMorphoList s s' →
      ¬ s'.Tracks (.ofNat 20 9) := by
    rintro s s' ⟨hlist, hlist'⟩ (h | h)
    · exact haave (hlist ▸ h)
    · exact hmorpho (hlist' ▸ h)
  have hnever : Run (Restrict (Step .reference sampleAaveConfig .load sampleDeployment 1)
      fun _ s' => ¬ s'.Tracks (.ofNat 20 9)) (initial sampleAaveList sampleMorphoList) s :=
    Relation.ReflTransGen.mono (fun s s' hstep => ⟨hstep.1, hnot s s' hstep.2⟩) _ _ hrun
  have hdecode : sampleDeployment.abi.decode samplePushTx.data
      = some (sampleFound.debtToCover, samplePushJob.params) :=
    FlashAbi.reference.decode_encode _ _ _ rfl
  exact ⟨_, _, hdecode, never_named .reference sampleAaveConfig .load sampleDeployment 1
    sampleAaveList sampleMorphoList (.ofNat 20 9) s (hnot s _ ⟨rfl, rfl⟩) hnever _
    (hevaluations ▸ List.mem_singleton_self _) samplePushBefore samplePushTx (.ok (.zero 32))
    samplePushAfter _ _ rfl hdecode⟩

end Ranger

end LiqRanger
