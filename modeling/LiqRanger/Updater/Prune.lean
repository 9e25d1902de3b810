import LiqRanger.Core.Debt
import LiqRanger.Updater.Work
import LiqRanger.Watchlist.Durable

/-!
# A prune pass

A pass with no event in between takes out the positions that the snapshot lists and that are read
without debt, in every interleaving of its checks (`prune_contains_iff`). The Morpho snapshot lists
every position, so the cleared ones are gone afterwards (`morphoPrune_removesCleared`). The Aave
snapshot lists one position for each borrower, and the others stay
(`aavePrune_removesDebtFree_iff`).
-/

namespace LiqRanger

open Transition

section
variable {κ ι : Type} [DecidableEq κ] {config : UpdaterConfig κ ι} {T : EthersText}
  {hasDebt : Address → κ → Except String Bool} {waiting : List Text}
  {running : List (CheckAndRemove κ)} {w w' : WatchList κ} {b : Address} {x : κ}

/-- Whatever the interleaving, a pass comes to its end. -/
lemma prune_inevitable :
    Inevitable (WorkStep config T hasDebt) (fun s => s.1 = .idle) (.pruning waiting [], w) :=
  idle_inevitable trivial

/-- It takes out the listed positions that are read without debt. -/
theorem prune_contains_iff
    (hrun : Run (WorkStep config T hasDebt) (.pruning waiting [], w) (.idle, w')) :
    w'.contains b x = true ↔ w.contains b x = true ∧
      ¬ ((∃ identity ∈ waiting, config.kind.parse T identity = some (b, x)) ∧
        hasDebt b x = .ok false) := by
  have hstays := run_stays (b := b) (x := x) hrun rfl
  simpa [Stays, UpdaterActivity.Clears, CheckAndRemove.Clears, ← and_assoc, ← exists_and_right]
    using hstays

end

/-! ### Morpho -/

/-- The Morpho snapshot lists every position. -/
lemma MorphoWatchList.parse_snapshot {T : EthersText} {entries : List (Address × List H256)}
    {cache : MultiMap Address H256} (hvisits : Visits entries cache) {b : Address} {m : H256} :
    (∃ identity ∈ MorphoWatchList.snapshot T entries,
      morphoKind.parse T identity = some (b, m)) ↔ cache.contains b m = true := by
  rw [← mem_positions hvisits, MorphoWatchList.snapshot_eq]
  simp

/-- The borrow shares and the failing checks fixed, a pass with no event in between ends in every
interleaving, and afterwards a position is in the list exactly if it was before and has shares or
its check failed. -/
theorem morphoPrune_removesCleared (T : EthersText) {shares : Address → H256 → U128}
    {position : H256 → Address → Except String (U256 × U128 × U128)}
    (hposition : ∀ b m reply, position m b = .ok reply → reply.2.1 = shares b m)
    {w : MorphoWatchList} {entries : List (Address × List H256)}
    (hvisits : Visits entries w.cache) :
    let pass := WorkStep (morphoUpdater T) T (hasOutstandingDebtMorpho position)
    let start := (UpdaterActivity.pruning (MorphoWatchList.snapshot T entries) [], w)
    Inevitable pass (fun s => s.1 = .idle) start ∧
    ∀ w', Run pass start (.idle, w') → ∀ b m,
      (w'.contains b m = true ↔
        w.contains b m = true ∧ (shares b m ≠ 0 ∨ ∃ e, position m b = .error e)) := by
  refine ⟨prune_inevitable, ?_⟩
  intro w' hrun b m
  rw [prune_contains_iff hrun]
  apply and_congr_right
  intro hmem
  have hlisted := (MorphoWatchList.parse_snapshot (T := T) hvisits).mpr hmem
  have hkeeps : ¬ hasOutstandingDebtMorpho position b m = .ok false ↔
      shares b m ≠ 0 ∨ ∃ e, position m b = .error e := by
    rw [hasOutstandingDebtMorpho_eq_false_iff]
    cases hreply : position m b with
    | error e => simp
    | ok reply => simp [hposition b m reply hreply]
  rw [← hkeeps, not_and]
  exact ⟨fun h => h hlisted, fun h _ => h⟩

/-- A position that was repaid, and one whose check fails. -/
theorem morphoPrune_removesCleared_sample :
    let position : H256 → Address → Except String (U256 × U128 × U128) := fun m _ =>
      if m = .zero 32 then .ok (0, 0, 0) else .error "timeout"
    let w : MorphoWatchList := .new ((∅ : MultiMap Address H256).insert (.zero 20)
      [.zero 32, .ofNat 32 1].toFinset)
    ∃ w', Run (WorkStep (morphoUpdater .reference) .reference (hasOutstandingDebtMorpho position))
        (.pruning (MorphoWatchList.snapshot .reference [(.zero 20, [.zero 32, .ofNat 32 1])]) [], w)
        (.idle, w') ∧
      w'.contains (.zero 20) (.zero 32) = false ∧ w'.contains (.zero 20) (.ofNat 32 1) = true := by
  intro position w
  have hposition : ∀ b m reply, position m b = .ok reply → reply.2.1 = (0 : U128) := by
    intro b m reply hreply
    by_cases hm : m = .zero 32
    · simp only [position, hm, if_true, Except.ok.injEq] at hreply
      rw [← hreply]
    · simp [position, hm] at hreply
  have hvisits : Visits [(.zero 20, [.zero 32, .ofNat 32 1])] w.cache :=
    .single (by decide)
  obtain ⟨hend, hiff⟩ := morphoPrune_removesCleared .reference hposition hvisits
  obtain ⟨⟨activity, w'⟩, hrun, rfl⟩ := hend.exists_run
  refine ⟨w', hrun, ?_, ?_⟩
  · rw [← Bool.not_eq_true, hiff w' hrun]
    rintro ⟨-, hshares | ⟨e, he⟩⟩
    · exact hshares rfl
    · simp [position] at he
  · rw [hiff w' hrun]
    refine ⟨by decide, Or.inr ⟨"timeout", if_neg (by decide)⟩⟩

/-! ### Aave -/

/-- The Aave snapshot lists the representatives. -/
lemma AaveWatchList.parse_snapshot {T : EthersText} {entries : List (Address × List Address)}
    {b r : Address} :
    (∃ identity ∈ AaveWatchList.snapshot T entries,
      aaveKind.parse T identity = some (b, r)) ↔ (b, r) ∈ representatives entries := by
  rw [AaveWatchList.snapshot_eq]
  simp

section
variable {T : EthersText} {vdebtTokens : Address → Option Address}
  {balanceOf : Address → Address → Except String U256} {debt : Address → Address → U256}
  {w w' : AaveWatchList} {entries : List (Address × List Address)}

/-- A pass takes out the representatives without debt. -/
lemma aavePrune_contains_iff
    (hchecks : ∀ b r, w.contains b r = true →
      hasOutstandingDebt T vdebtTokens balanceOf b r = .ok (debt b r != 0))
    (hrun : Run (WorkStep (aaveUpdater T) T (hasOutstandingDebt T vdebtTokens balanceOf))
      (.pruning (AaveWatchList.snapshot T entries) [], w) (.idle, w')) {b r : Address} :
    w'.contains b r = true ↔
      w.contains b r = true ∧ ¬ ((b, r) ∈ representatives entries ∧ debt b r = 0) := by
  rw [prune_contains_iff hrun]
  apply and_congr_right
  intro hmem
  have hfree : hasOutstandingDebt T vdebtTokens balanceOf b r = .ok false ↔ debt b r = 0 := by
    rw [hchecks b r hmem]
    simp
  rw [hfree]
  exact not_congr (and_congr_left' AaveWatchList.parse_snapshot)

/-- The debts fixed, every check succeeding and no event in between: in every interleaving, a pass
leaves exactly the positions with debt if and only if every position without debt represents its
borrower in the snapshot. -/
theorem aavePrune_removesDebtFree_iff
    (hchecks : ∀ b r, w.contains b r = true →
      hasOutstandingDebt T vdebtTokens balanceOf b r = .ok (debt b r != 0))
    (hrun : Run (WorkStep (aaveUpdater T) T (hasOutstandingDebt T vdebtTokens balanceOf))
      (.pruning (AaveWatchList.snapshot T entries) [], w) (.idle, w')) :
    (∀ b r, w'.contains b r = true ↔ w.contains b r = true ∧ debt b r ≠ 0) ↔
      ∀ b r, w.contains b r = true → debt b r = 0 → (b, r) ∈ representatives entries := by
  constructor
  · intro hexact b r hmem hzero
    by_contra hother
    have hstays := (aavePrune_contains_iff hchecks hrun).mpr ⟨hmem, fun h => hother h.1⟩
    exact ((hexact b r).mp hstays).2 hzero
  · intro hlisted b r
    rw [aavePrune_contains_iff hchecks hrun]
    apply and_congr_right
    intro hmem
    exact not_congr ⟨And.right, fun hzero => ⟨hlisted b r hmem hzero, hzero⟩⟩

end

/-- A borrower that repaid the only position. -/
theorem aavePrune_removesDebtFree_iff_sample :
    let w : AaveWatchList := .new ((∅ : MultiMap Address Address).insert (.zero 20) [wpol].toFinset)
    let pass := WorkStep (aaveUpdater .reference) .reference
      (hasOutstandingDebt .reference (fun _ => some wpol) fun _ _ => .ok 0)
    ∃ w' : AaveWatchList,
      Run pass (.pruning (AaveWatchList.snapshot .reference [(.zero 20, [wpol])]) [], w)
        (.idle, w') ∧
      ∀ b r, w'.contains b r = true ↔ w.contains b r = true ∧ (0 : U256) ≠ 0 := by
  intro w pass
  have hvisits : Visits [(.zero 20, [wpol])] w.cache := .single (by decide)
  have hend : Inevitable pass (fun s => s.1 = .idle)
    (.pruning (AaveWatchList.snapshot .reference [(.zero 20, [wpol])]) [], w) := prune_inevitable
  obtain ⟨⟨activity, w'⟩, hrun, rfl⟩ := hend.exists_run
  refine ⟨w', hrun, (aavePrune_removesDebtFree_iff ?_ hrun).mpr ?_⟩
  · intro b r hmem
    rfl
  · intro b r hmem hzero
    obtain ⟨l, hl, hr⟩ := hvisits.contains_iff.mp hmem
    simp_all [representatives]

/-- A borrower that repaid two positions: the snapshot lists one of them, and the other is left. -/
theorem aavePrune_keeps_repaid :
    let pass := WorkStep (aaveUpdater .reference) .reference
      (hasOutstandingDebt .reference (fun _ => some wpol) fun _ _ => .ok 0)
    ∃ (w w' : AaveWatchList) (entries : List (Address × List Address)),
      Visits entries w.cache ∧
      Run pass (.pruning (AaveWatchList.snapshot .reference entries) [], w) (.idle, w') ∧
      (∀ b r, hasOutstandingDebt (m := Except String) .reference (fun _ => some wpol)
        (fun _ _ => .ok 0) b r = .ok false) ∧
      w'.contains (.zero 20) (.zero 20) = true := by
  intro pass
  let w : AaveWatchList :=
    .new ((∅ : MultiMap Address Address).insert (.zero 20) [wpol, .zero 20].toFinset)
  have hend : Inevitable pass (fun s => s.1 = .idle)
    (.pruning (AaveWatchList.snapshot .reference [(.zero 20, [wpol, .zero 20])]) [], w) :=
    prune_inevitable
  obtain ⟨⟨activity, w'⟩, hrun, rfl⟩ := hend.exists_run
  refine ⟨w, w', _, .single (by decide), hrun, fun _ _ => rfl, ?_⟩
  have hstays := aavePrune_contains_iff (fun b r _ => by
    rfl) hrun (b := .zero 20) (r := .zero 20)
  exact hstays.mpr ⟨by decide, by decide⟩

end LiqRanger
