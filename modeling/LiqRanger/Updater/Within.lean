import LiqRanger.Updater.Moves
import LiqRanger.Watchlist.Durable

/-!
# What an updater lets in

A list whose positions are all in some markets, and calls that put nothing else in, not even by
writing a row that was captured before. An updater keeps to its whitelist in this sense, in its
list, its calls and the positions it is to check (`Confined.work`).
-/

namespace LiqRanger

variable {κ ι : Type} [DecidableEq κ] {S : Set κ}

/-! ### Calls -/

/-- Every position is in one of these markets. -/
structure WatchList.Within (S : Set κ) (w : WatchList κ) : Prop where
  cache : ∀ b x, w.contains b x = true → x ∈ S
  rows : ∀ b x, w.rows.contains b x = true → x ∈ S

/-- What a call puts in, and the row it has captured, is in these markets. -/
structure WatchCall.Within (S : Set κ) (call : WatchCall κ) : Prop where
  insertions : ∀ p ∈ call.insertions, p.2 ∈ S
  captured : ∀ b set, call = .write b (some set) → ∀ x ∈ set, x ∈ S

lemma WatchList.within_new {rows : MultiMap Address κ}
    (h : ∀ b x, rows.contains b x = true → x ∈ S) : (WatchList.new rows).Within S :=
  ⟨h, h⟩

namespace WatchCall

variable {call : WatchCall κ} {w : WatchList κ} {sled : Except String Unit}

omit [DecidableEq κ] in
lemma within_insertPair {b : Address} {x : κ} (hx : x ∈ S) :
    (insertPair b x : WatchCall κ).Within S where
  insertions p hp := by
    obtain rfl := List.mem_singleton.mp hp
    exact hx
  captured b' set hcall := by cases hcall

omit [DecidableEq κ] in
lemma within_removePair {b : Address} {x : κ} : (removePair b x : WatchCall κ).Within S where
  insertions p hp := absurd hp List.not_mem_nil
  captured b' set hcall := by cases hcall

omit [DecidableEq κ] in
lemma within_done {result : Except String Unit} : (done result : WatchCall κ).Within S where
  insertions p hp := absurd hp List.not_mem_nil
  captured b set hcall := by cases hcall

/-- A move keeps to the markets, and so does what it leads to. -/
theorem Within.step (sled : Except String Unit) (hw : w.Within S) (hcall : call.Within S) :
    (call.step sled w).1.Within S ∧ (call.step sled w).2.Within S := by
  refine ⟨⟨fun p hp => ?_, fun b set hwrite x hx => ?_⟩, ⟨fun b x hx => ?_, fun b x hx => ?_⟩⟩
  · rw [insertions_step] at hp
    cases hp
  · obtain ⟨-, hrow⟩ := step_eq_write hwrite
    exact hw.cache b x (MultiMap.contains_iff.mpr ⟨set, hrow.symm, hx⟩)
  · rcases contains_step_iff.mp hx with hinsert | ⟨hx, -⟩
    · exact hcall.insertions (b, x) hinsert
    · exact hw.cache b x hx
  · rcases call.rows_step sled w with hrows | ⟨borrower, row, rfl, hrows⟩
    · rw [hrows] at hx
      exact hw.rows b x hx
    · rw [hrows, MultiMap.contains_iff] at hx
      obtain ⟨set, hset, hx⟩ := hx
      by_cases hb : b = borrower
      · subst hb
        rw [WatchList.lookup_applyWrite_self] at hset
        subst hset
        exact hcall.captured b set rfl x hx
      · rw [WatchList.lookup_applyWrite_of_ne hb] at hset
        exact hw.rows b x (MultiMap.contains_iff.mpr ⟨set, hset, hx⟩)

/-- Also when all its moves are made. -/
lemma Within.finish (sled : Except String Unit) (hw : w.Within S) (hcall : call.Within S) :
    (call.finish sled w).2.Within S := by
  rw [WatchCall.finish]
  induction 4 generalizing call w with
  | zero => exact hw
  | succ n ih =>
    obtain ⟨hcall', hw'⟩ := hcall.step sled hw
    exact ih hw' hcall'

omit [DecidableEq κ] in
lemma within_ofAdd {K : ListKind κ} {T : EthersText} {identity : Text}
    (hparse : ∀ p, K.parse T identity = some p → p.2 ∈ S) : (ofAdd K T identity).Within S := by
  cases hid : K.parse T identity with
  | none =>
    rw [ofAdd, hid]
    exact within_done
  | some p =>
    rw [ofAdd, hid]
    exact within_insertPair (hparse p hid)

end WatchCall

/-- An addition keeps to the markets if the text does. -/
lemma WatchList.Within.add {K : ListKind κ} {T : EthersText} {identity : Text} {w : WatchList κ}
    (sled : Except String Unit) (hw : w.Within S)
    (hparse : ∀ p, K.parse T identity = some p → p.2 ∈ S) :
    (w.add K T sled identity).2.Within S := by
  have hfinish := (WatchCall.within_ofAdd hparse).finish sled hw
  rwa [WatchCall.finish_ofAdd] at hfinish

/-! ### What the updater is busy with -/

/-- The list, the calls and the texts to be checked keep to the markets. -/
structure Confined (K : ListKind κ) (T : EthersText) (S : Set κ) (w : WatchList κ)
    (activity : UpdaterActivity κ) : Prop where
  list : w.Within S
  calls : ∀ call ∈ activity.calls, call.Within S
  checks : ∀ identity ∈ activity.checks, ∃ b, ∃ x ∈ S, identity = K.text T b x

variable {config : UpdaterConfig κ ι} {T : EthersText} {w : WatchList κ}

/-- An event outside the whitelist begins nothing. -/
lemma confined_handleEvent {log : PositionLog κ} (hlist : ∀ x ∈ config.whitelist, x ∈ S)
    (hw : w.Within S) :
    Confined config.kind T S (handleEvent config T log w).2 (handleEvent config T log w).1 := by
  rcases handleEvent_cases config T log w with ⟨-, hlog, hadd⟩ | ⟨hsame, hcalls, hchecks⟩
  · rw [hadd]
    have hstart : (WatchCall.insertPair log.borrower log.market : WatchCall κ).Within S :=
      WatchCall.within_insertPair (hlist _ hlog)
    obtain ⟨hnext, hw'⟩ := hstart.step (.ok ()) hw
    refine ⟨hw', fun call hcall => ?_, fun identity hmem => absurd hmem List.not_mem_nil⟩
    obtain rfl := List.mem_singleton.mp hcall
    exact hnext
  · refine ⟨?_, fun call hcall => ?_, fun identity hmem => ?_⟩
    · rw [hsame]
      exact hw
    · rw [hcalls] at hcall
      cases hcall
    · obtain ⟨hlog, rfl⟩ := hchecks identity hmem
      exact ⟨log.borrower, log.market, hlist _ hlog, rfl⟩

/-- Every text of a snapshot is the text of a position in the cache. -/
def UpdaterConfig.SnapshotTracked (config : UpdaterConfig κ ι) (T : EthersText) : Prop :=
  ∀ ⦃entries cache⦄, Visits entries cache → ∀ identity ∈ config.snapshot entries,
    ∃ b x, cache.contains b x = true ∧ identity = config.kind.text T b x

lemma aaveUpdater_snapshotTracked : (aaveUpdater T).SnapshotTracked T := by
  intro entries cache hvisits identity hmem
  have hshown := AaveWatchList.snapshot_eq (T := T) entries
  rw [show (aaveUpdater T).snapshot entries = _ from hshown] at hmem
  obtain ⟨⟨b, r⟩, hpair, rfl⟩ := List.mem_map.mp hmem
  exact ⟨b, r, contains_of_mem_representatives hvisits hpair, rfl⟩

lemma morphoUpdater_snapshotTracked : (morphoUpdater T).SnapshotTracked T := by
  intro entries cache hvisits identity hmem
  have hshown := MorphoWatchList.snapshot_eq (T := T) entries
  rw [show (morphoUpdater T).snapshot entries = _ from hshown] at hmem
  obtain ⟨⟨b, m⟩, hpair, rfl⟩ := List.mem_map.mp hmem
  exact ⟨b, m, (mem_positions hvisits).mp hpair, rfl⟩

/-- An updater keeps to its whitelist. -/
theorem Confined.work [DecidableEq ι] {u u' : UpdaterState κ ι}
    (hlist : ∀ x ∈ config.whitelist, x ∈ S) (hsnapshot : config.SnapshotTracked T)
    (h : Confined config.kind T S u.list u.activity) (hstep : UpdaterStep.Work config T u u') :
    Confined config.kind T S u'.list u'.activity := by
  rcases hstep.cases with ⟨i, log, rest, -, -, rfl⟩ | ⟨-, hmove, hchecks⟩
  · exact confined_handleEvent hlist h.list
  · obtain ⟨hw, hcalls⟩ := hmove.rule (fun call sled w hw hcall => hcall.step sled hw)
      (fun b x _ => WatchCall.within_removePair) h.list h.calls
    refine ⟨hw, hcalls, fun identity hmem => ?_⟩
    rcases hchecks identity hmem with hold | ⟨entries, hvisits, hlisted⟩
    · exact h.checks identity hold
    · obtain ⟨b, x, hcontains, rfl⟩ := hsnapshot hvisits identity hlisted
      exact ⟨b, x, h.list.cache b x hcontains, rfl⟩

end LiqRanger
