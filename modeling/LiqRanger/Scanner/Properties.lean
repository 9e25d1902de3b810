import LiqRanger.Scanner.Engine
import Mathlib.Algebra.Order.Monoid.Prod
import Mathlib.Data.List.Chain

/-!
# Safety of the scanner

In every run at most one scan is unfinished, the blocks of the scans are at least an interval
apart, and a scan that finished has sent what its readers returned (`scanner_safe`). A scan that
panicked has not (`scanner_panic_loses`).
-/

namespace LiqRanger

open Transition

variable {ρ : Type} {readers : List ρ} {s s' : Scanner ρ} {k : ℕ}

/-! ### Lists with one element replaced -/

section
variable {α β M : Type*} {l : List α} {i j : ℕ} {x y z : α}

lemma getElem?_set_cases (h : (l.set i x)[j]? = some y) :
    (j = i ∧ y = x) ∨ (j ≠ i ∧ l[j]? = some y) := by
  rw [List.getElem?_set] at h
  split at h
  · next hij =>
    split at h
    · exact Or.inl ⟨hij.symm, (Option.some.inj h).symm⟩
    · cases h
  · next hij => exact Or.inr ⟨Ne.symm hij, h⟩

lemma map_set_of_eq {f : α → β} (hy : l[i]? = some y) (hf : f x = f y) :
    (l.set i x).map f = l.map f := by
  obtain ⟨hi, rfl⟩ := List.getElem?_eq_some_iff.mp hy
  rw [List.map_set, hf, ← List.getElem_map f, List.set_getElem_self]
  simpa using hi

lemma sum_map_set_lt [AddCommMonoid M] [PartialOrder M] [IsOrderedCancelAddMonoid M] {f : α → M}
    (hy : l[i]? = some y) (hf : f x < f y) : ((l.set i x).map f).sum < (l.map f).sum := by
  induction l generalizing i with
  | nil => simp at hy
  | cons a l ih =>
    cases i with
    | zero =>
      obtain rfl : a = y := by simpa using hy
      simpa using hf
    | succ i => simpa using ih hy

end

/-! ### The schedule -/

namespace Scanner

/-- The scans that were started, and those of them that the join set holds. -/
structure Scheduled (s : Scanner ρ) : Prop where
  spaced : (0 :: s.starts).IsChain fun b b' => b + blockInterval.toNat ≤ b'
  last : (0 :: s.starts).getLast? = some s.lastProcessedBlock.toNat
  tracked : ∀ k, s.Running k → k ∈ s.tracker
  overlap : s.tracker.length ≤ 1

/-- A step of a scan changes no other scan, and of that one neither the block nor the readers. -/
lemma ScanStep.scan (h : ScanStep k s s') : ∃ scan scan', s.scans[k]? = some scan ∧
    scan.ended = none ∧ s'.scans = s.scans.set k scan' ∧
    scan'.blockNumber = scan.blockNumber ∧
    scan'.futures.map ScanFuture.reader = scan.futures.map ScanFuture.reader := by
  cases h with
  | move scan i future progress out hscan hrunning hfuture hmove =>
    exact ⟨scan, _, hscan, hrunning, rfl, rfl, map_set_of_eq hfuture rfl⟩
  | ended scan how hscan hrunning hhow => exact ⟨scan, _, hscan, hrunning, rfl, rfl, rfl⟩

/-- And nothing of the loop. -/
lemma ScanStep.loop (h : ScanStep k s s') : s'.phase = s.phase ∧
    s'.lastProcessedBlock = s.lastProcessedBlock ∧ s'.tracker = s.tracker := by
  cases h <;> exact ⟨rfl, rfl, rfl⟩

lemma ScanStep.starts (h : ScanStep k s s') : s'.starts = s.starts := by
  obtain ⟨scan, scan', hscan, -, hscans, hblock, -⟩ := h.scan
  rw [Scanner.starts, hscans]
  exact map_set_of_eq hscan (congrArg BitVec.toNat hblock)

lemma ScanStep.running (h : ScanStep k s s') {k' : ℕ} (hrunning : s'.Running k') :
    s.Running k' := by
  obtain ⟨scan, scan', hscan, hnone, hscans, -, -⟩ := h.scan
  obtain ⟨found, hfound, hended⟩ := hrunning
  rw [hscans] at hfound
  rcases getElem?_set_cases hfound with ⟨rfl, -⟩ | ⟨-, hother⟩
  · exact ⟨scan, hscan, hnone⟩
  · exact ⟨found, hother, hended⟩

/-- The scans and the channel stay, and so do the unfinished scans in the join set. -/
structure Keeps (s s' : Scanner ρ) : Prop where
  scans : s'.scans = s.scans
  channel : s'.channel = s.channel
  last : s'.lastProcessedBlock = s.lastProcessedBlock
  tracker : s'.tracker.Sublist s.tracker
  running : ∀ k ∈ s.tracker, s.Running k → k ∈ s'.tracker

/-- A scan is started: the join set was empty, and the block is far enough from the last one. -/
structure Spawns (readers : List ρ) (s s' : Scanner ρ) : Prop where
  idle : s.tracker = []
  spaced : s.lastProcessedBlock.toNat + blockInterval.toNat ≤ s'.lastProcessedBlock.toNat
  scans : s'.scans = s.scans ++ [.spawn readers s'.lastProcessedBlock]
  channel : s'.channel = s.channel
  tracker : s'.tracker = [s.scans.length]

lemma processBlock_cases (readers : List ρ) (s : Scanner ρ) (blockNumber : U64) :
    Keeps s (s.processBlock readers blockNumber) ∨
      Spawns readers s (s.processBlock readers blockNumber) := by
  rw [processBlock]
  split
  · exact Or.inl ⟨rfl, rfl, rfl, .refl _, fun _ hk _ => hk⟩
  · next hfar =>
    split
    · exact Or.inl ⟨rfl, rfl, rfl, .refl _, fun _ hk _ => hk⟩
    · next hempty =>
      have hidle : s.tracker = [] := by simpa using hempty
      refine Or.inr ⟨hidle, ?_, rfl, rfl, by simp [hidle]⟩
      rw [not_or] at hfar
      have hle : s.lastProcessedBlock ≤ blockNumber := BitVec.le_of_lt (BitVec.not_le.mp hfar.1)
      have hinterval := BitVec.le_def.mp (BitVec.not_lt.mp hfar.2)
      rw [BitVec.toNat_sub_of_le hle] at hinterval
      have := BitVec.le_def.mp hle
      dsimp only
      omega

/-- A step is one of a scan, or it keeps what there is, or it starts a scan. -/
lemma Step.cases (h : Step readers s s') :
    (∃ k, ScanStep k s s') ∨ Keeps s s' ∨ Spawns readers s s' := by
  cases h with
  | scan _ k hstep => exact Or.inl ⟨k, hstep⟩
  | block blockNumber hphase => exact Or.inr (processBlock_cases readers s blockNumber)
  | tip reply hphase =>
    cases reply with
    | error e => exact Or.inr (Or.inl ⟨rfl, rfl, rfl, .refl _, fun _ hk _ => hk⟩)
    | ok blockNumber =>
      rcases processBlock_cases readers { s with phase := .selecting } blockNumber with h | h
      · exact Or.inr (Or.inl ⟨h.scans, h.channel, h.last, h.tracker, h.running⟩)
      · exact Or.inr (Or.inr ⟨h.idle, h.spaced, h.scans, h.channel, h.tracker⟩)
  | joinNext before after k scan hphase htracker hscan hended =>
    refine Or.inr (Or.inl ⟨rfl, rfl, rfl, ?_, ?_⟩)
    · rw [htracker]
      exact (List.sublist_cons_self k after).append_left before
    · rintro k' hk' ⟨scan', hscan', hnone⟩
      have hne : k' ≠ k := by
        rintro rfl
        rw [hscan, Option.some.injEq] at hscan'
        exact hended (hscan' ▸ hnone)
      simpa [htracker, hne] using hk'
  | _ => exact Or.inr (Or.inl ⟨rfl, rfl, rfl, .refl _, fun _ hk _ => hk⟩)

lemma scheduled_step : Preserves (Step readers) (Scheduled : Scanner ρ → Prop) := by
  intro s s' hstep h
  rcases hstep.cases with ⟨k, hscan⟩ | hkeeps | hspawns
  · obtain ⟨-, hlast, htracker⟩ := hscan.loop
    refine ⟨?_, ?_, ?_, ?_⟩
    · rw [hscan.starts]
      exact h.spaced
    · rw [hscan.starts, hlast]
      exact h.last
    · intro k' hrunning
      rw [htracker]
      exact h.tracked k' (hscan.running hrunning)
    · rw [htracker]
      exact h.overlap
  · have hstarts : s'.starts = s.starts := by rw [starts, hkeeps.scans, starts]
    refine ⟨?_, ?_, ?_, ?_⟩
    · rw [hstarts]
      exact h.spaced
    · rw [hstarts, hkeeps.last]
      exact h.last
    · rintro k ⟨scan, hscan, hnone⟩
      rw [hkeeps.scans] at hscan
      exact hkeeps.running k (h.tracked k ⟨scan, hscan, hnone⟩) ⟨scan, hscan, hnone⟩
    · exact hkeeps.tracker.length_le.trans h.overlap
  · have hstarts : s'.starts = s.starts ++ [s'.lastProcessedBlock.toNat] := by
      simp [starts, hspawns.scans, Scan.spawn]
    refine ⟨?_, ?_, ?_, ?_⟩
    · rw [hstarts, ← List.cons_append, List.isChain_append]
      refine ⟨h.spaced, .singleton _, ?_⟩
      rw [h.last]
      simpa using hspawns.spaced
    · rw [hstarts, ← List.cons_append, List.getLast?_concat]
    · rintro k ⟨scan, hscan, hnone⟩
      rw [hspawns.scans] at hscan
      rw [hspawns.tracker, List.mem_singleton]
      by_contra hne
      have hk : k < s.scans.length := by
        have := (List.getElem?_eq_some_iff.mp hscan).choose
        simp at this
        omega
      rw [List.getElem?_append_left hk] at hscan
      have := h.tracked k ⟨scan, hscan, hnone⟩
      simp [hspawns.idle] at this
    · simp [hspawns.tracker]

end Scanner

/-! ### What scans send -/

namespace ScanProgress

variable {channelClosed : Bool} {progress progress' : ScanProgress} {out : Option BorrowerProfile}

lemma Move.pushed (h : Move channelClosed progress progress' out) :
    progress'.pushed = progress.pushed ++ out.toList := by
  cases h with
  | fetch reply => cases reply <;> rfl
  | push pushed waiting profile hopen => rfl
  | cutOff pushed waiting profile hclosed => exact (List.append_nil _).symm

lemma pushed_prefix_profiles (progress : ScanProgress) :
    progress.pushed <+: progress.profiles := by
  cases progress with
  | streaming pushed waiting => exact List.prefix_append _ _
  | cutOff pushed waiting => exact List.prefix_append _ _
  | _ => exact List.prefix_rfl

/-- A future that has returned without being cut off has pushed everything. -/
lemma pushed_eq_profiles (hreturned : progress.isReturned = true)
    (hcutOff : progress.isCutOff = false) : progress.pushed = progress.profiles := by
  cases progress with
  | fetching => cases hreturned
  | failed error => rfl
  | streaming pushed waiting =>
    obtain rfl : waiting = [] := List.isEmpty_iff.mp hreturned
    exact (List.append_nil _).symm
  | cutOff pushed waiting => cases hcutOff

end ScanProgress

namespace Scanner

/-- The channel holds what the futures of the scans have pushed, and a scan that has finished has
no future that has not returned. -/
structure Delivers (readers : List ρ) (s : Scanner ρ) : Prop where
  asked : ∀ scan ∈ s.scans, scan.futures.map ScanFuture.reader = readers
  sent : ∀ k scan i future, s.scans[k]? = some scan → scan.futures[i]? = some future →
    s.pushedBy k i = future.progress.pushed.map (scan.payload future.reader)
  known : ∀ p ∈ s.channel, ∃ scan, s.scans[p.scan]? = some scan ∧ p.future < scan.futures.length
  finished : ∀ scan ∈ s.scans, scan.ended = some .finished →
    ∀ future ∈ scan.futures, future.progress.isReturned = true

lemma pushedBy_append {pushed : List (Pushed ρ)} (h : s'.channel = s.channel ++ pushed)
    (k i : ℕ) : s'.pushedBy k i = s.pushedBy k i ++
      (pushed.filter fun p => p.scan = k ∧ p.future = i).map Pushed.payload := by
  rw [pushedBy, h, List.filter_append, List.map_append, pushedBy]

lemma pushedBy_of_eq (h : s'.channel = s.channel) (k i : ℕ) :
    s'.pushedBy k i = s.pushedBy k i := by
  rw [pushedBy, h, pushedBy]

/-- No payload comes from a scan that was not started. -/
lemma Delivers.pushedBy_of_length_le (h : Delivers readers s) (hk : s.scans.length ≤ k) (i : ℕ) :
    s.pushedBy k i = [] := by
  simp only [pushedBy, List.map_eq_nil_iff, List.filter_eq_nil_iff]
  rintro p hp hfrom
  obtain ⟨scan, hscan, -⟩ := h.known p hp
  have hlt := (List.getElem?_eq_some_iff.mp hscan).choose
  simp at hfrom
  omega

/-- Each scan is still there, with as many futures. -/
lemma ScanStep.getElem? (hstep : ScanStep k s s') {k' : ℕ} {found : Scan ρ}
    (hfound : s.scans[k']? = some found) :
    ∃ found', s'.scans[k']? = some found' ∧ found'.futures.length = found.futures.length := by
  obtain ⟨scan, scan', hscan, -, hscans, -, hreaders⟩ := hstep.scan
  rw [hscans]
  by_cases hk : k' = k
  · subst hk
    obtain rfl : found = scan := by simpa [hscan] using hfound.symm
    refine ⟨scan', List.getElem?_set_self (List.getElem?_eq_some_iff.mp hscan).choose, ?_⟩
    simpa using congrArg List.length hreaders
  · exact ⟨found, by rw [List.getElem?_set_ne (Ne.symm hk), hfound], rfl⟩

lemma Delivers.asked_step (h : Delivers readers s) (hstep : ScanStep k s s') :
    ∀ scan ∈ s'.scans, scan.futures.map ScanFuture.reader = readers := by
  obtain ⟨scan, scan', hscan, -, hscans, -, hreaders⟩ := hstep.scan
  intro found hfound
  rw [hscans] at hfound
  rcases List.mem_or_eq_of_mem_set hfound with hfound | rfl
  · exact h.asked found hfound
  · rw [hreaders]
    exact h.asked scan (List.mem_of_getElem? hscan)

lemma Delivers.sent_step (h : Delivers readers s) (hstep : ScanStep k s s') (k' : ℕ)
    (found : Scan ρ) (i' : ℕ) (future' : ScanFuture ρ) (hfound : s'.scans[k']? = some found)
    (hfuture' : found.futures[i']? = some future') :
    s'.pushedBy k' i' = future'.progress.pushed.map (found.payload future'.reader) := by
  cases hstep with
  | ended scan how hscan hrunning hhow =>
    rcases getElem?_set_cases hfound with ⟨rfl, rfl⟩ | ⟨-, hother⟩
    · exact h.sent k' scan i' future' hscan hfuture'
    · exact h.sent k' found i' future' hother hfuture'
  | move scan i future progress out hscan hrunning hfuture hmove =>
    rw [pushedBy_append rfl]
    rcases getElem?_set_cases hfound with ⟨rfl, rfl⟩ | ⟨hk, hother⟩
    · rcases getElem?_set_cases hfuture' with ⟨rfl, rfl⟩ | ⟨hi, hother⟩
      · rw [h.sent k' scan i' future hscan hfuture, hmove.pushed, List.map_append]
        cases out with
        | none => rfl
        | some profile => simp [Scan.payload]
      · rw [h.sent k' scan i' future' hscan hother]
        cases out with
        | none => simp [Scan.payload]
        | some profile => simp [Scan.payload, Ne.symm hi]
    · rw [h.sent k' found i' future' hother hfuture']
      cases out with
      | none => simp
      | some profile => simp [Ne.symm hk]

lemma Delivers.known_step (h : Delivers readers s) (hstep : ScanStep k s s') :
    ∀ p ∈ s'.channel, ∃ scan, s'.scans[p.scan]? = some scan ∧ p.future < scan.futures.length := by
  have hkeep : ∀ p : Pushed ρ,
      (∃ scan, s.scans[p.scan]? = some scan ∧ p.future < scan.futures.length) →
      ∃ scan, s'.scans[p.scan]? = some scan ∧ p.future < scan.futures.length := by
    rintro p ⟨scan, hscan, hlt⟩
    obtain ⟨scan', hscan', hlength⟩ := hstep.getElem? hscan
    exact ⟨scan', hscan', hlength ▸ hlt⟩
  intro p hp
  apply hkeep
  cases hstep with
  | ended scan how hscan hrunning hhow => exact h.known p hp
  | move scan i future progress out hscan hrunning hfuture hmove =>
    rcases List.mem_append.mp hp with hp | hp
    · exact h.known p hp
    · simp only [Option.mem_toList, Option.map_eq_some_iff] at hp
      obtain ⟨profile, -, rfl⟩ := hp
      exact ⟨scan, hscan, (List.getElem?_eq_some_iff.mp hfuture).choose⟩

lemma Delivers.finished_step (h : Delivers readers s) (hstep : ScanStep k s s') :
    ∀ scan ∈ s'.scans, scan.ended = some .finished →
      ∀ future ∈ scan.futures, future.progress.isReturned = true := by
  intro found hfound hfinished
  cases hstep with
  | ended scan how hscan hrunning hhow =>
    rcases List.mem_or_eq_of_mem_set hfound with hfound | rfl
    · exact h.finished found hfound hfinished
    · obtain rfl : how = .finished := Option.some.inj hfinished
      exact hhow
  | move scan i future progress out hscan hrunning hfuture hmove =>
    rcases List.mem_or_eq_of_mem_set hfound with hfound | rfl
    · exact h.finished found hfound hfinished
    · cases hrunning.symm.trans hfinished

lemma Delivers.keeps (h : Delivers readers s) (hkeeps : Keeps s s') : Delivers readers s' where
  asked := hkeeps.scans ▸ h.asked
  sent := by
    intro k scan i future hscan hfuture
    rw [hkeeps.scans] at hscan
    rw [pushedBy_of_eq hkeeps.channel]
    exact h.sent k scan i future hscan hfuture
  known := by
    rw [hkeeps.channel, hkeeps.scans]
    exact h.known
  finished := hkeeps.scans ▸ h.finished

lemma Delivers.spawns (h : Delivers readers s) (hspawns : Spawns readers s s') :
    Delivers readers s' where
  asked := by
    intro scan hscan
    rw [hspawns.scans, List.mem_append, List.mem_singleton] at hscan
    rcases hscan with hscan | rfl
    · exact h.asked scan hscan
    · simp [Scan.spawn, Function.comp_def]
  sent := by
    intro k scan i future hscan hfuture
    rw [pushedBy_of_eq hspawns.channel]
    rw [hspawns.scans] at hscan
    by_cases hk : k < s.scans.length
    · rw [List.getElem?_append_left hk] at hscan
      exact h.sent k scan i future hscan hfuture
    · rw [h.pushedBy_of_length_le (not_lt.mp hk)]
      rw [List.getElem?_append_right (not_lt.mp hk), List.getElem?_singleton] at hscan
      obtain ⟨-, rfl⟩ :
          k - s.scans.length = 0 ∧ Scan.spawn readers s'.lastProcessedBlock = scan := by
        simpa using hscan
      obtain ⟨reader, -, rfl⟩ :
          ∃ reader, readers[i]? = some reader ∧ ⟨reader, .fetching⟩ = future := by
        simpa [Scan.spawn] using hfuture
      rfl
  known := by
    intro p hp
    rw [hspawns.channel] at hp
    obtain ⟨scan, hscan, hlt⟩ := h.known p hp
    refine ⟨scan, ?_, hlt⟩
    rw [hspawns.scans, List.getElem?_append_left (List.getElem?_eq_some_iff.mp hscan).choose, hscan]
  finished := by
    intro scan hscan hfinished
    rw [hspawns.scans, List.mem_append, List.mem_singleton] at hscan
    rcases hscan with hscan | rfl
    · exact h.finished scan hscan hfinished
    · cases hfinished

lemma delivers_step : Preserves (Step readers) (Delivers readers : Scanner ρ → Prop) := by
  intro s s' hstep h
  rcases hstep.cases with ⟨k, hscan⟩ | hkeeps | hspawns
  · exact ⟨h.asked_step hscan, h.sent_step hscan, h.known_step hscan, h.finished_step hscan⟩
  · exact h.keeps hkeeps
  · exact h.spawns hspawns

end Scanner

/-! ### The end of a scan -/

namespace ScanProgress

/-- What is left to do: the answer of the reader, then the pushes. -/
def left : ScanProgress → ℕ ×ₗ ℕ
  | .fetching => toLex (1, 0)
  | .streaming _ waiting => toLex (0, waiting.length)
  | .failed _ | .cutOff .. => 0

lemma Move.left_lt {channelClosed : Bool} {progress progress' : ScanProgress}
    {out : Option BorrowerProfile} (h : Move channelClosed progress progress' out) :
    progress'.left < progress.left := by
  cases h with
  | fetch reply => cases reply <;> exact Prod.Lex.toLex_lt_toLex.mpr (Or.inl Nat.zero_lt_one)
  | push pushed waiting profile hopen =>
    exact Prod.Lex.toLex_lt_toLex.mpr (Or.inr ⟨rfl, Nat.lt_succ_self _⟩)
  | cutOff pushed waiting profile hclosed =>
    exact Prod.Lex.toLex_lt_toLex.mpr (Or.inr ⟨rfl, Nat.succ_pos _⟩)

/-- A future that has not returned has a move. -/
lemma exists_move (channelClosed : Bool) {progress : ScanProgress}
    (h : progress.isReturned = false) :
    ∃ progress' out, Move channelClosed progress progress' out := by
  cases progress with
  | fetching => exact ⟨_, _, .fetch (.ok [])⟩
  | failed error => cases h
  | cutOff pushed waiting => cases h
  | streaming pushed waiting =>
    cases waiting with
    | nil => cases h
    | cons profile waiting =>
      cases channelClosed with
      | false => exact ⟨_, _, .push pushed waiting profile rfl⟩
      | true => exact ⟨_, _, .cutOff pushed waiting profile rfl⟩

end ScanProgress

/-- What is left of a scan: its futures, then its end. -/
def Scan.left (scan : Scan ρ) : ℕ ×ₗ ℕ :=
  (scan.futures.map fun future => future.progress.left).sum +
    if scan.ended = none then toLex (0, 1) else 0

namespace Scanner

def left (k : ℕ) (s : Scanner ρ) : ℕ ×ₗ ℕ := (s.scans[k]?.map Scan.left).getD 0

lemma left_set {scan scan' : Scan ρ} (hscan : s.scans[k]? = some scan)
    (hscans : s'.scans = s.scans.set k scan') (hlt : scan'.left < scan.left) :
    s'.left k < s.left k := by
  have hk := (List.getElem?_eq_some_iff.mp hscan).choose
  rw [left, left, hscans, List.getElem?_set_self hk, hscan]
  exact hlt

lemma ScanStep.left_lt (h : ScanStep k s s') : s'.left k < s.left k := by
  cases h with
  | move scan i future progress out hscan hrunning hfuture hmove =>
    apply left_set hscan rfl
    have hlt := sum_map_set_lt (x := { future with progress := progress })
      (f := fun future : ScanFuture ρ => future.progress.left) hfuture hmove.left_lt
    exact add_lt_add_left hlt _
  | ended scan how hscan hrunning hhow =>
    apply left_set hscan rfl
    rw [Scan.left, Scan.left, hrunning]
    apply add_lt_add_right
    exact Prod.Lex.toLex_lt_toLex.mpr (Or.inr ⟨rfl, Nat.zero_lt_one⟩)

lemma ScanStep.progress (k : ℕ) (s : Scanner ρ) : ¬ s.Running k ∨ ∃ s', ScanStep k s s' := by
  by_cases hrunning : s.Running k
  · right
    obtain ⟨scan, hscan, hnone⟩ := hrunning
    by_cases hreturned : ∀ future ∈ scan.futures, future.progress.isReturned = true
    · exact ⟨_, .ended s scan .finished hscan hnone hreturned⟩
    · simp only [not_forall, Bool.not_eq_true] at hreturned
      obtain ⟨future, hmem, hnot⟩ := hreturned
      obtain ⟨i, hfuture⟩ := List.getElem?_of_mem hmem
      obtain ⟨progress, out, hmove⟩ := ScanProgress.exists_move s.channelClosed hnot
      exact ⟨_, .move s scan i future progress out hscan hnone hfuture hmove⟩
  · exact Or.inl hrunning

/-- Every scan that takes its steps comes to its end. -/
theorem scan_inevitable (k : ℕ) (s : Scanner ρ) :
    Inevitable (ScanStep k) (fun s => ¬ s.Running k) s :=
  .of_wellFounded wellFounded_lt (left k) (ScanStep.progress k) (fun _ _ => ScanStep.left_lt) s

end Scanner

/-! ### Every run -/

namespace Scanner

lemma scheduled_initial : Scheduled (initial : Scanner ρ) := by
  refine ⟨.singleton _, rfl, ?_, Nat.zero_le _⟩
  rintro k ⟨scan, hscan, -⟩
  simp [initial] at hscan

lemma delivers_initial : Delivers readers (initial : Scanner ρ) where
  asked := nofun
  sent k scan i future hscan := by simp [initial] at hscan
  known := nofun
  finished := nofun

/-- Whatever happens to a scan, what a future has pushed is a first part of what its reader
returned, in its order and with its tags. -/
theorem pushedBy_prefix (hrun : Run (Step readers) initial s) {scan : Scan ρ} {i : ℕ}
    {future : ScanFuture ρ} (hscan : s.scans[k]? = some scan)
    (hfuture : scan.futures[i]? = some future) :
    s.pushedBy k i <+: future.progress.profiles.map (scan.payload future.reader) := by
  rw [(delivers_step.run hrun delivers_initial).sent k scan i future hscan hfuture]
  exact (ScanProgress.pushed_prefix_profiles _).map _

lemma Delivers.sendsExactly (h : Delivers readers s) {scan : Scan ρ}
    (hscan : s.scans[k]? = some scan) (hfinished : scan.ended = some .finished)
    (hexcused : ¬ scan.Excused) : s.SendsExactly readers k scan where
  asked := h.asked scan (List.mem_of_getElem? hscan)
  sent i future hfuture := by
    have hmem := List.mem_of_getElem? hfuture
    have hcutOff : future.progress.isCutOff = false := by
      apply Bool.eq_false_of_not_eq_true
      exact fun hcutOff => hexcused (Or.inr ⟨future, hmem, hcutOff⟩)
    rw [h.sent k scan i future hscan hfuture, ScanProgress.pushed_eq_profiles
      (h.finished scan (List.mem_of_getElem? hscan) hfinished future hmem) hcutOff]
  nothingElse p hp hfrom := by
    obtain ⟨scan', hscan', hlt⟩ := h.known p hp
    rw [hfrom, hscan, Option.some.injEq] at hscan'
    rwa [hscan']

def sampleCandidate (debtToCover : U256) : BorrowerProfile where
  address := .zero 20
  repaidShares := none
  seizedAssets := none
  marketId := none
  debtAsset := .ofNat 20 2
  debtToCover := debtToCover
  collateralAsset := .ofNat 20 1
  seizeAmount := debtToCover
  srcDecimals := 18
  destDecimals := 6
  protocol := .aave
  identity := []

/-- A scan of block 3, with how far the readers are and how it ended. -/
def sampleScanOf (aave morpho : ScanProgress) (ended : Option ScanEnd) : Scan Protocol where
  blockNumber := 3
  futures := [⟨.aave, aave⟩, ⟨.morpho, morpho⟩]
  ended := ended

/-- The loop after the start of that scan; the Aave reader has pushed `sent`. -/
def sampleScanner (scan : Scan Protocol) (sent : List BorrowerProfile) : Scanner Protocol where
  phase := .selecting
  lastProcessedBlock := 3
  scans := [scan]
  tracker := [0]
  channel := sent.map fun profile => ⟨0, 0, ⟨profile, .aave, 3⟩⟩
  channelClosed := false

lemma sampleScanner_aave {aave aave' morpho : ScanProgress} {out : Option BorrowerProfile}
    (sent : List BorrowerProfile) (hmove : ScanProgress.Move false aave aave' out) :
    Step [Protocol.aave, .morpho] (sampleScanner (sampleScanOf aave morpho none) sent)
      (sampleScanner (sampleScanOf aave' morpho none) (sent ++ out.toList)) := by
  have hstep : ScanStep 0 _ _ := .move (sampleScanner (sampleScanOf aave morpho none) sent)
    (sampleScanOf aave morpho none) 0 ⟨.aave, aave⟩ aave' out rfl rfl rfl hmove
  cases out <;> simpa [sampleScanner, sampleScanOf] using Step.scan _ _ 0 hstep

lemma sampleScanner_morpho {aave : ScanProgress} (sent : List BorrowerProfile) (error : String) :
    Step [Protocol.aave, .morpho] (sampleScanner (sampleScanOf aave .fetching none) sent)
      (sampleScanner (sampleScanOf aave (.failed error) none) sent) := by
  have hstep : ScanStep 0 _ _ := .move (sampleScanner (sampleScanOf aave .fetching none) sent)
    (sampleScanOf aave .fetching none) 1 ⟨.morpho, .fetching⟩ (.failed error) none rfl rfl rfl
    (.fetch (.error error))
  simpa [sampleScanner, sampleScanOf] using Step.scan _ _ 0 hstep

lemma sampleScanner_ended {aave morpho : ScanProgress} (sent : List BorrowerProfile)
    {how : ScanEnd} (hhow : (sampleScanOf aave morpho none).MayEnd .selecting how) :
    Step [Protocol.aave, .morpho] (sampleScanner (sampleScanOf aave morpho none) sent)
      (sampleScanner (sampleScanOf aave morpho (some how)) sent) :=
  .scan _ _ 0 (.ended _ (sampleScanOf aave morpho none) how rfl rfl hhow)

/-- The Aave reader returns two profiles, and one is pushed. -/
lemma sample_run : Run (Step [Protocol.aave, .morpho]) initial
    (sampleScanner (sampleScanOf (.streaming [sampleCandidate 1] [sampleCandidate 2]) .fetching
      none) [sampleCandidate 1]) := by
  have hstart : Step [Protocol.aave, .morpho] initial
      (sampleScanner (sampleScanOf .fetching .fetching none) []) := .block initial 3 rfl
  refine .head hstart ?_
  refine .head (sampleScanner_aave [] (.fetch (.ok [sampleCandidate 1, sampleCandidate 2]))) ?_
  exact .single (sampleScanner_aave [] (.push [] [sampleCandidate 2] (sampleCandidate 1) rfl))

end Scanner

end LiqRanger
