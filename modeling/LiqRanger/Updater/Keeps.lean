import LiqRanger.Updater.Moves

/-!
# What an updater keeps

A position that a debt check never reads without debt stays where it is, whatever the updater is
busy with and whichever of its writes fail: those in the cache stay in the cache, and of those the
ones that have a row keep it, since every row is written from the cache (`Kept.work`).
-/

namespace LiqRanger

open Transition

variable {κ ι : Type} [DecidableEq κ] {F G : Set (Address × κ)}

/-! ### Calls -/

/-- The cache holds the positions of `G`, and the rows those of `F`. -/
structure WatchList.Keeps (F G : Set (Address × κ)) (w : WatchList κ) : Prop where
  cache : ∀ b x, (b, x) ∈ G → w.contains b x = true
  rows : ∀ b x, (b, x) ∈ F → w.rows.contains b x = true

/-- A call takes out no position of `G`, and the row it has captured holds those of `F`. -/
structure WatchCall.Keeps (F G : Set (Address × κ)) (call : WatchCall κ) : Prop where
  removals : ∀ p ∈ call.removals, p ∉ G
  captured : ∀ b row, call = .write b row → ∀ x, (b, x) ∈ F → ∃ set, row = some set ∧ x ∈ set

namespace WatchCall

variable {call : WatchCall κ} {w : WatchList κ} {sled : Except String Unit}

omit [DecidableEq κ] in
lemma keeps_insertPair {b : Address} {x : κ} : (insertPair b x : WatchCall κ).Keeps F G where
  removals p hp := absurd hp List.not_mem_nil
  captured b' row hcall := by cases hcall

omit [DecidableEq κ] in
/-- A removal that is to take out another position. -/
lemma keeps_removePair {b : Address} {x : κ} (hx : (b, x) ∉ G) :
    (removePair b x : WatchCall κ).Keeps F G where
  removals p hp := by
    obtain rfl := List.mem_singleton.mp hp
    exact hx
  captured b' row hcall := by cases hcall

/-- Writing a captured row that holds the positions of its borrower keeps the rows. -/
lemma contains_applyWrite {b : Address} {row : Option (Finset κ)} {rows : MultiMap Address κ}
    (hrows : ∀ b x, (b, x) ∈ F → rows.contains b x = true)
    (hrow : ∀ x, (b, x) ∈ F → ∃ set, row = some set ∧ x ∈ set) {b' : Address} {x : κ}
    (hx : (b', x) ∈ F) : (WatchList.applyWrite b row rows).contains b' x = true := by
  rw [MultiMap.contains_iff]
  by_cases hb : b' = b
  · subst hb
    obtain ⟨set, rfl, hset⟩ := hrow x hx
    exact ⟨set, WatchList.lookup_applyWrite_self rows, hset⟩
  · rw [WatchList.lookup_applyWrite_of_ne hb]
    exact MultiMap.contains_iff.mp (hrows b' x hx)

/-- A move keeps the positions, and so does what it leads to. -/
theorem Keeps.step (sled : Except String Unit) (hFG : F ⊆ G) (hw : w.Keeps F G)
    (hcall : call.Keeps F G) :
    (call.step sled w).1.Keeps F G ∧ (call.step sled w).2.Keeps F G := by
  refine ⟨⟨fun p hp => ?_, fun b row hwrite x hx => ?_⟩, ⟨fun b x hx => ?_, fun b x hx => ?_⟩⟩
  · rw [removals_step] at hp
    cases hp
  · obtain ⟨-, rfl⟩ := step_eq_write hwrite
    exact MultiMap.contains_iff.mp (hw.cache b x (hFG hx))
  · exact call.contains_step (hw.cache b x hx) fun hmem => hcall.removals _ hmem hx
  · rcases call.rows_step sled w with hrows | ⟨borrower, row, rfl, hrows⟩
    · rw [hrows]
      exact hw.rows b x hx
    · rw [hrows]
      exact contains_applyWrite hw.rows (hcall.captured borrower row rfl) hx

omit [DecidableEq κ] in
lemma Keeps.mono {F' G' : Set (Address × κ)} (h : call.Keeps F G) (hF : F' ⊆ F) (hG : G' ⊆ G) :
    call.Keeps F' G' :=
  ⟨fun p hp hmem => h.removals p hp (hG hmem), fun b row hcall x hx => h.captured b row hcall x
    (hF hx)⟩

end WatchCall

/-! ### What the updater is busy with -/

/-- The list and every call under way keep the positions. -/
structure Kept (F G : Set (Address × κ)) (w : WatchList κ) (activity : UpdaterActivity κ) :
    Prop where
  list : w.Keeps F G
  calls : ∀ call ∈ activity.calls, call.Keeps F G

variable {config : UpdaterConfig κ ι} {T : EthersText} {w : WatchList κ} {u u' : UpdaterState κ ι}

lemma Kept.mono {F' G' : Set (Address × κ)} {activity : UpdaterActivity κ}
    (h : Kept F G w activity) (hF : F' ⊆ F) (hG : G' ⊆ G) : Kept F' G' w activity :=
  ⟨⟨fun b x hx => h.list.cache b x (hG hx), fun b x hx => h.list.rows b x (hF hx)⟩,
    fun call hcall => (h.calls call hcall).mono hF hG⟩

/-- Handling an event keeps the positions, and a whitelisted Borrow is one of them. -/
lemma kept_handleEvent {log : PositionLog κ} (hFG : F ⊆ G) (hw : w.Keeps F G) :
    Kept F (G ∪ {p | log = ⟨.borrow, p.2, p.1⟩ ∧ p.2 ∈ config.whitelist})
      (handleEvent config T log w).2 (handleEvent config T log w).1 := by
  have hcache : ∀ b x, (b, x) ∈ G ∪ {p | log = ⟨.borrow, p.2, p.1⟩ ∧ p.2 ∈ config.whitelist} →
      (handleEvent config T log w).2.contains b x = true := by
    rintro b x (hx | ⟨rfl, hx⟩)
    · exact contains_handleEvent (hw.cache b x hx)
    · exact contains_handleEvent_borrow hx
  rcases handleEvent_cases config T log w with ⟨-, -, hadd⟩ | ⟨hlist, hcalls, -⟩
  · rw [hadd] at hcache ⊢
    have hstart : (WatchCall.insertPair log.borrower log.market : WatchCall κ).Keeps F G :=
      WatchCall.keeps_insertPair
    obtain ⟨hnext, hlist⟩ := hstart.step (.ok ()) hFG hw
    refine ⟨⟨hcache, hlist.rows⟩, fun call hcall => ?_⟩
    obtain rfl := List.mem_singleton.mp hcall
    exact ⟨fun p hp => absurd hp (by rw [WatchCall.removals_step]; exact List.not_mem_nil),
      hnext.captured⟩
  · refine ⟨⟨hcache, ?_⟩, fun call hcall => ?_⟩
    · rw [hlist]
      exact hw.rows
    · rw [hcalls] at hcall
      cases hcall

/-! ### Steps of the updater -/

/-- Those of some positions that no Borrow to be delivered names. -/
def NotPending (config : UpdaterConfig κ ι) (A : Set (Address × κ)) (u : UpdaterState κ ι) :
    Set (Address × κ) :=
  {p | p ∈ A ∧ ¬ PendingBorrow config u p.1 p.2}

variable [DecidableEq ι]

/-- Whitelisted positions with debt that wait for no Borrow stay in the cache, and those of them
that have rows keep their rows. -/
theorem Kept.work {A : Set (Address × κ)} (h : Kept F (NotPending config A u) u.list u.activity)
    (hF : F ⊆ NotPending config A u)
    (hA : ∀ b x, (b, x) ∈ A → x ∈ config.whitelist ∧ u.debt b x ≠ 0)
    (hstep : UpdaterStep.Work config T u u') :
    Kept F (NotPending config A u') u'.list u'.activity := by
  rcases hstep.cases with ⟨i, log, rest, -, hstream, rfl⟩ | ⟨hstreams, hmove, -⟩
  · refine (kept_handleEvent hF h.list).mono subset_rfl ?_
    rintro ⟨b, x⟩ ⟨hx, hpending⟩
    by_cases hbefore : PendingBorrow config u b x
    · rcases pendingBorrow_of_deliver hstream hbefore with hlog | hafter
      · exact Or.inr ⟨hlog, (hA b x hx).1⟩
      · exact absurd hafter hpending
    · exact Or.inl ⟨hx, hbefore⟩
  · have hsame : NotPending config A u' = NotPending config A u := by
      simp only [NotPending, PendingBorrow, hstreams]
    rw [hsame]
    obtain ⟨hlist, hcalls⟩ := hmove.rule (fun call sled w hw hcall => hcall.step sled hF hw)
      (fun b x hcleared => WatchCall.keeps_removePair fun hx => (hA b x hx.1).2 hcleared)
      h.list h.calls
    exact ⟨hlist, hcalls⟩

end LiqRanger
