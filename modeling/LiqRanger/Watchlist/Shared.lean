import LiqRanger.Core.Constants
import LiqRanger.Watchlist.Calls

/-!
# Calls that share a list

Any number of calls to one list, each at its own place, and a schedule that says which of them
makes its next move. The cache bears it: a position is there exactly if the last access to it put it
there, and no set is left empty (`sharedList_cacheSafe`). The rows do not: a row is captured in one
move and written in another, and a row that was captured early may be written late
(`sharedList_rowsAgree_iff`).
-/

namespace LiqRanger

/-- A list and the calls that share it. -/
structure SharedList (κ ι : Type) where
  list : WatchList κ
  calls : ι → WatchCall κ

/-- Which call moves, one move after the other, and for each move whether a write applies. -/
abbrev Schedule (ι : Type) := List (ι × Except String Unit)

variable {κ ι γ : Type} [DecidableEq κ] [DecidableEq ι]

/-- Whether the next move puts a pair into the cache or takes it out, if it is about that pair. -/
def WatchCall.access? (b : Address) (x : κ) : WatchCall κ → Option Bool
  | .insertPair borrower y => if borrower = b ∧ y = x then some true else none
  | .removePair borrower y => if borrower = b ∧ y = x then some false else none
  | _ => none

/-- A move about a pair decides whether it is there, and no other move does. -/
lemma WatchCall.contains_step_eq {sled : Except String Unit} {call : WatchCall κ} {w : WatchList κ}
    {b : Address} {x : κ} :
    (call.step sled w).2.contains b x = (call.access? b x).getD (w.contains b x) := by
  have hstep : (call.step sled w).2.contains b x = true ↔ _ := call.contains_step_iff
  cases call with
  | insertPair borrower y =>
    by_cases hpair : borrower = b ∧ y = x
    · obtain ⟨rfl, rfl⟩ := hpair
      simpa [access?, insertions] using hstep
    · rw [Bool.eq_iff_iff, hstep]
      have hne : ¬ (b = borrower ∧ x = y) := fun h => hpair ⟨h.1.symm, h.2.symm⟩
      simp [access?, hpair, insertions, removals, hne]
  | removePair borrower y =>
    by_cases hpair : borrower = b ∧ y = x
    · obtain ⟨rfl, rfl⟩ := hpair
      rw [Bool.eq_iff_iff, hstep]
      simp [access?, insertions, removals]
    · rw [Bool.eq_iff_iff, hstep]
      have hne : ¬ (b = borrower ∧ x = y) := fun h => hpair ⟨h.1.symm, h.2.symm⟩
      simp [access?, hpair, insertions, removals, hne]
  | _ =>
    rw [Bool.eq_iff_iff, hstep]
    simp [access?, insertions, removals]

namespace SharedList

/-- One call makes its next move. -/
def move (s : SharedList κ ι) (turn : ι × Except String Unit) : SharedList κ ι where
  list := ((s.calls turn.1).step turn.2 s.list).2
  calls := Function.update s.calls turn.1 ((s.calls turn.1).step turn.2 s.list).1

def run (s : SharedList κ ι) (schedule : Schedule ι) : SharedList κ ι := schedule.foldl move s

/-- What `note` records of every move of a schedule. -/
def record (note : SharedList κ ι → ι × Except String Unit → List γ) :
    SharedList κ ι → Schedule ι → List γ
  | _, [] => []
  | s, turn :: rest => note s turn ++ record note (s.move turn) rest

/-- The accesses to a pair: for each whether it puts the pair in or takes it out. -/
def accesses (b : Address) (x : κ) : SharedList κ ι → Schedule ι → List Bool :=
  record fun s turn => ((s.calls turn.1).access? b x).toList

/-- What one move captures of a borrower. -/
def captureOf (b : Address) (s : SharedList κ ι) (turn : ι × Except String Unit) :
    List (ι × Option (Finset κ)) :=
  match s.calls turn.1 with
  | .capture borrower => if borrower = b then [(turn.1, s.list.cache.lookup b)] else []
  | _ => []

/-- What one move writes of a borrower. -/
def writeOf (b : Address) (s : SharedList κ ι) (turn : ι × Except String Unit) :
    List (ι × Option (Finset κ)) :=
  match s.calls turn.1, turn.2 with
  | .write borrower row, .ok () => if borrower = b then [(turn.1, row)] else []
  | _, _ => []

/-- The rows of a borrower that are captured, with the call that captures. -/
def captures (b : Address) : SharedList κ ι → Schedule ι → List (ι × Option (Finset κ)) :=
  record fun s turn => captureOf b s turn

/-- The rows of a borrower that are written, with the call that writes. -/
def writes (b : Address) : SharedList κ ι → Schedule ι → List (ι × Option (Finset κ)) :=
  record fun s turn => writeOf b s turn

variable {s : SharedList κ ι} {turn : ι × Except String Unit} {schedule : Schedule ι} {b : Address}
  {x : κ} {i : ι}

@[simp] lemma run_nil : s.run [] = s := rfl

@[simp] lemma run_cons : s.run (turn :: schedule) = (s.move turn).run schedule := rfl

lemma calls_move_of_ne (h : i ≠ turn.1) : (s.move turn).calls i = s.calls i :=
  Function.update_of_ne h _ _

lemma calls_move_self (s : SharedList κ ι) (turn : ι × Except String Unit) :
    (s.move turn).calls turn.1 = ((s.calls turn.1).step turn.2 s.list).1 :=
  Function.update_self _ _ _

/-! ### The cache -/

/-- The last access to a pair decides whether it is there. -/
theorem contains_run (s : SharedList κ ι) (schedule : Schedule ι) (b : Address) (x : κ) :
    (s.run schedule).list.contains b x
      = (s.accesses b x schedule).getLast?.getD (s.list.contains b x) := by
  induction schedule generalizing s with
  | nil => rfl
  | cons turn rest ih =>
    rw [run_cons, ih, move, WatchCall.contains_step_eq, accesses, record]
    cases (s.calls turn.1).access? b x with
    | none => rfl
    | some put =>
      simp only [Option.toList_some, List.singleton_append, List.getLast?_cons]
      rfl

/-- A set left empty is about to be dropped. -/
def DropsEmpty (s : SharedList κ ι) (b : Address) : Prop :=
  s.list.cache.lookup b = some ∅ → ∃ i, s.calls i = .removeIfEmpty b

/-- A move that leaves the row of `b` in the cache alone keeps the calls that drop it, unless it is
itself such a call. -/
lemma DropsEmpty.of_lookup_eq (h : s.DropsEmpty b) (hcall : s.calls turn.1 ≠ .removeIfEmpty b)
    (hlookup : (s.move turn).list.cache.lookup b = s.list.cache.lookup b) :
    (s.move turn).DropsEmpty b := by
  intro hempty
  rw [hlookup] at hempty
  obtain ⟨i, hi⟩ := h hempty
  refine ⟨i, ?_⟩
  rw [calls_move_of_ne]
  · exact hi
  · rintro rfl
    exact hcall hi

/-- Every move keeps it so: a removal that empties a set is about to drop it, and when a set is
dropped it is gone. -/
theorem DropsEmpty.move (h : s.DropsEmpty b) : (s.move turn).DropsEmpty b := by
  by_cases hb : (s.calls turn.1).borrower? ≠ some b
  · apply h.of_lookup_eq
    · intro hcall
      simp [hcall, WatchCall.borrower?] at hb
    · exact WatchCall.lookup_cache_step_of_ne hb
  rw [not_not] at hb
  cases hcall : s.calls turn.1 with
  | insertPair borrower x =>
    obtain rfl : borrower = b := by simpa [hcall, WatchCall.borrower?] using hb
    intro hempty
    simp only [SharedList.move, hcall] at hempty
    exact absurd hempty MultiMap.lookup_insertPair_ne_empty
  | removePair borrower x =>
    obtain rfl : borrower = b := by simpa [hcall, WatchCall.borrower?] using hb
    by_cases hsame : (s.list.cache.removePair borrower x).1 = s.list.cache
    · apply h.of_lookup_eq (by simp [hcall])
      simp only [SharedList.move, hcall]
      exact congrArg _ hsame
    · intro hempty
      simp only [SharedList.move, hcall] at hempty
      rcases MultiMap.removePair_lookup_empty hempty with hflags | hsame'
      · refine ⟨turn.1, ?_⟩
        rw [calls_move_self, hcall]
        simp [WatchCall.step, hflags]
      · exact absurd hsame' hsame
  | removeIfEmpty borrower =>
    obtain rfl : borrower = b := by simpa [hcall, WatchCall.borrower?] using hb
    intro hempty
    simp only [SharedList.move, hcall] at hempty
    exact absurd hempty MultiMap.lookup_removeIfEmpty_ne_empty
  | capture borrower =>
    apply h.of_lookup_eq (by simp [hcall])
    simp [SharedList.move, hcall, WatchCall.step]
  | write borrower row =>
    apply h.of_lookup_eq (by simp [hcall])
    cases hsled : turn.2 <;> simp [SharedList.move, hcall, WatchCall.step, hsled]
  | done result => simp [hcall, WatchCall.borrower?] at hb

theorem DropsEmpty.run (h : s.DropsEmpty b) (schedule : Schedule ι) :
    (s.run schedule).DropsEmpty b := by
  induction schedule generalizing s with
  | nil => exact h
  | cons turn rest ih => exact ih h.move

end SharedList

/-- For any calls that share a list, at any place, and any schedule: a position is there exactly if
the last access to it put it there, or if there was none and it was there before; a set that was not
empty before is empty only while a call is about to drop it, and is not when all calls are done. -/
theorem sharedList_cacheSafe (s : SharedList κ ι) (schedule : Schedule ι) :
    (∀ b x, (s.run schedule).list.contains b x
      = (s.accesses b x schedule).getLast?.getD (s.list.contains b x)) ∧
    ∀ b, s.list.cache.lookup b ≠ some ∅ →
      ((s.run schedule).list.cache.lookup b = some ∅ →
        ∃ i, (s.run schedule).calls i = .removeIfEmpty b) ∧
      ((∀ i, ∃ result, (s.run schedule).calls i = .done result) →
        (s.run schedule).list.cache.lookup b ≠ some ∅) := by
  refine ⟨s.contains_run schedule, fun b hb => ?_⟩
  have hstart : s.DropsEmpty b := fun hempty => absurd hempty hb
  refine ⟨hstart.run schedule, fun hdone hempty => ?_⟩
  obtain ⟨i, hi⟩ := hstart.run schedule hempty
  obtain ⟨result, hresult⟩ := hdone i
  rw [hi] at hresult
  cases hresult

/-- A list with one position of a borrower, a call that removes it and a call that adds another. -/
def racingCalls : SharedList Address Bool where
  list := .new (Finmap.singleton (.zero 20) {wpol})
  calls second := if second then .insertPair (.zero 20) (.zero 20) else .removePair (.zero 20) wpol

/-- The addition comes after the removal has emptied the set and before it drops empty sets. -/
def racingSchedule : Schedule Bool :=
  [(false, .ok ()), (true, .ok ()), (false, .ok ()), (true, .ok ()), (false, .ok ()),
    (true, .ok ()), (false, .ok ())]

lemma racingCalls_done (i : Bool) :
    (racingCalls.run racingSchedule).calls i = .done (.ok ()) := by
  cases i <;> rfl

/-- The position that was added stays although its set was about to be dropped. -/
theorem sharedList_cacheSafe_sample :
    (racingCalls.run racingSchedule).list.contains (.zero 20) (.zero 20) = true ∧
      (racingCalls.run racingSchedule).list.contains (.zero 20) wpol = false ∧
      (racingCalls.run racingSchedule).list.cache.lookup (.zero 20) ≠ some ∅ := by
  obtain ⟨hlast, hempty⟩ := sharedList_cacheSafe racingCalls racingSchedule
  refine ⟨(hlast _ _).trans (by decide), (hlast _ _).trans (by decide), ?_⟩
  exact (hempty (.zero 20) (by decide)).2 fun i => ⟨_, racingCalls_done i⟩

/-! ### The rows -/

namespace SharedList

section
variable {K : ListKind κ} {T : EthersText} {s : SharedList κ ι} {turn : ι × Except String Unit}
  {b : Address} {base : Option (Finset κ)} {i : ι} {row : Option (Finset κ)}

/-- The last row of a record, or `base` if there is none. -/
def lastRow (base : Option (Finset κ)) (rows : List (ι × Option (Finset κ))) :
    Option (Finset κ) :=
  (rows.getLast?.map Prod.snd).getD base

omit [DecidableEq κ] [DecidableEq ι] in
@[simp] lemma lastRow_nil : lastRow base ([] : List (ι × Option (Finset κ))) = base := rfl

omit [DecidableEq κ] [DecidableEq ι] in
@[simp] lemma lastRow_concat (rows : List (ι × Option (Finset κ))) :
    lastRow base (rows ++ [(i, row)]) = row := by
  simp [lastRow]

/-- The call has not captured its row yet. -/
def Uncaptured : WatchCall κ → Prop
  | .write .. | .done _ => False
  | _ => True

/-- What a move means for the row of one borrower. -/
inductive RowMove (b : Address) (s : SharedList κ ι) (turn : ι × Except String Unit) : Prop where
  /-- The set in the cache may change, and the call has yet to capture it. -/
  | touch (hbefore : Uncaptured (s.calls turn.1))
      (hafter : (s.move turn).calls turn.1 = .capture b ∨
        (s.move turn).calls turn.1 = .removeIfEmpty b)
      (hrows : (s.move turn).list.rows.lookup b = s.list.rows.lookup b)
      (hcapture : captureOf b s turn = []) (hwrite : writeOf b s turn = [])
  | capture (hbefore : s.calls turn.1 = .capture b)
      (hafter : (s.move turn).calls turn.1 = .write b (s.list.cache.lookup b))
      (hcache : (s.move turn).list.cache.lookup b = s.list.cache.lookup b)
      (hrows : (s.move turn).list.rows.lookup b = s.list.rows.lookup b)
      (hcapture : captureOf b s turn = [(turn.1, s.list.cache.lookup b)])
      (hwrite : writeOf b s turn = [])
  | write (row : Option (Finset κ)) (hbefore : s.calls turn.1 = .write b row)
      (hafter : (s.move turn).calls turn.1 = .done (.ok ()))
      (hcache : (s.move turn).list.cache.lookup b = s.list.cache.lookup b)
      (hrows : (s.move turn).list.rows.lookup b = row)
      (hcapture : captureOf b s turn = []) (hwrite : writeOf b s turn = [(turn.1, row)])
  | fail (e : String) (row : Option (Finset κ)) (hbefore : s.calls turn.1 = .write b row)
      (hafter : (s.move turn).calls turn.1 = .done (.error e))
      (hcache : (s.move turn).list.cache.lookup b = s.list.cache.lookup b)
      (hrows : (s.move turn).list.rows.lookup b = s.list.rows.lookup b)
      (hcapture : captureOf b s turn = []) (hwrite : writeOf b s turn = [])
  /-- The move is about another borrower, or changes nothing. -/
  | quiet (hbefore : s.calls turn.1 ≠ .capture b ∧ s.calls turn.1 ≠ .removeIfEmpty b ∧
        ∀ row, s.calls turn.1 ≠ .write b row)
      (hafter : ∀ row, (s.move turn).calls turn.1 ≠ .write b row)
      (hlate : ¬ Uncaptured (s.calls turn.1) → ¬ Uncaptured ((s.move turn).calls turn.1))
      (hdone : ∀ result, s.calls turn.1 = .done result →
        (s.move turn).calls turn.1 = .done result)
      (hcache : (s.move turn).list.cache.lookup b = s.list.cache.lookup b)
      (hrows : (s.move turn).list.rows.lookup b = s.list.rows.lookup b)
      (hcapture : captureOf b s turn = []) (hwrite : writeOf b s turn = [])

omit [DecidableEq κ] [DecidableEq ι] in
lemma captureOf_eq_nil (h : s.calls turn.1 ≠ .capture b) : captureOf b s turn = [] := by
  rw [captureOf]
  split
  · next borrower hcall =>
    apply if_neg
    rintro rfl
    exact h hcall
  · rfl

omit [DecidableEq κ] [DecidableEq ι] in
lemma writeOf_eq_nil (h : ∀ row, s.calls turn.1 ≠ .write b row) : writeOf b s turn = [] := by
  rw [writeOf]
  split
  · next borrower row hcall _ =>
    apply if_neg
    rintro rfl
    exact h row hcall
  · rfl

/-- A captured row stays captured. -/
lemma not_uncaptured_move (h : ¬ Uncaptured (s.calls turn.1)) :
    ¬ Uncaptured ((s.move turn).calls turn.1) := by
  rw [calls_move_self]
  cases hcall : s.calls turn.1 with
  | write borrower row => cases hsled : turn.2 <;> simp [WatchCall.step, Uncaptured]
  | done result => simp [WatchCall.step, Uncaptured]
  | _ => simp [hcall, Uncaptured] at h

/-- A move about another borrower is quiet. -/
lemma RowMove.of_ne (h : (s.calls turn.1).borrower? ≠ some b) : RowMove b s turn := by
  have hafter : ((s.move turn).calls turn.1).borrower? ≠ some b := by
    rw [calls_move_self]
    exact WatchCall.borrower?_step h
  have hcapture : s.calls turn.1 ≠ .capture b := by
    intro hcall
    simp [hcall, WatchCall.borrower?] at h
  have hwrite : ∀ row, s.calls turn.1 ≠ .write b row := by
    intro row hcall
    simp [hcall, WatchCall.borrower?] at h
  refine .quiet ⟨hcapture, ?_, hwrite⟩ ?_ not_uncaptured_move ?_
    (WatchCall.lookup_cache_step_of_ne h) (WatchCall.lookup_rows_step_of_ne h)
    (captureOf_eq_nil hcapture) (writeOf_eq_nil hwrite)
  · intro hcall
    simp [hcall, WatchCall.borrower?] at h
  · intro row hcall
    simp [hcall, WatchCall.borrower?] at hafter
  · intro result hcall
    rw [calls_move_self, hcall]
    rfl

/-- And so is an access of the cache that finds nothing to change. -/
lemma RowMove.of_unchanged (hbefore : Uncaptured (s.calls turn.1))
    (hcapture : s.calls turn.1 ≠ .capture b)
    (hstep : (s.calls turn.1).step turn.2 s.list = (.done (.ok ()), s.list)) :
    RowMove b s turn := by
  have hlist : (s.move turn).list = s.list := congrArg Prod.snd hstep
  have hafter : (s.move turn).calls turn.1 = .done (.ok ()) := by
    rw [calls_move_self, hstep]
  have hwrite : ∀ row, s.calls turn.1 ≠ .write b row := by
    intro row hcall
    simp [hcall, Uncaptured] at hbefore
  refine .quiet ⟨hcapture, ?_, hwrite⟩ ?_ not_uncaptured_move ?_ (by rw [hlist]) (by rw [hlist])
    (captureOf_eq_nil hcapture) (writeOf_eq_nil hwrite)
  · intro hcall
    simp [hcall, WatchCall.step] at hstep
  · simp [hafter]
  · intro result hcall
    simp [hcall, Uncaptured] at hbefore

/-- Every move is one of these. -/
theorem rowMove (b : Address) (s : SharedList κ ι) (turn : ι × Except String Unit) :
    RowMove b s turn := by
  by_cases hb : (s.calls turn.1).borrower? ≠ some b
  · exact .of_ne hb
  rw [not_not] at hb
  have hafter := calls_move_self s turn
  cases hcall : s.calls turn.1 with
  | insertPair borrower x =>
    obtain rfl : borrower = b := by simpa [hcall, WatchCall.borrower?] using hb
    by_cases hins : (s.list.cache.insertPair borrower x).2
    · refine .touch (by simp [hcall, Uncaptured]) (Or.inl ?_)
        (by simp [move, hcall, WatchCall.step]) (captureOf_eq_nil (by simp [hcall]))
        (writeOf_eq_nil (by simp [hcall]))
      simp [hafter, hcall, WatchCall.step, hins]
    · have hmem : s.list.cache.contains borrower x = true := by
        rw [MultiMap.insertPair_flag] at hins
        simpa using hins
      apply RowMove.of_unchanged
      · simp [hcall, Uncaptured]
      · simp [hcall]
      · simp [hcall, WatchCall.step, MultiMap.insertPair_of_contains hmem]
  | removePair borrower x =>
    obtain rfl : borrower = b := by simpa [hcall, WatchCall.borrower?] using hb
    by_cases hmem : s.list.cache.contains borrower x
    · have hflag : (s.list.cache.removePair borrower x).2.1 = true := by
        rw [MultiMap.removePair_flag, hmem]
      refine .touch (by simp [hcall, Uncaptured]) ?_
        (by simp [move, hcall, WatchCall.step]) (captureOf_eq_nil (by simp [hcall]))
        (writeOf_eq_nil (by simp [hcall]))
      by_cases hempty : (s.list.cache.removePair borrower x).2.2
      · exact Or.inr (by simp [hafter, hcall, WatchCall.step, hflag, hempty])
      · exact Or.inl (by simp [hafter, hcall, WatchCall.step, hflag, hempty])
    · rw [Bool.not_eq_true] at hmem
      apply RowMove.of_unchanged
      · simp [hcall, Uncaptured]
      · simp [hcall]
      · simp [hcall, WatchCall.step, MultiMap.removePair_of_not_contains hmem]
  | removeIfEmpty borrower =>
    obtain rfl : borrower = b := by simpa [hcall, WatchCall.borrower?] using hb
    refine .touch (by simp [hcall, Uncaptured]) (Or.inl ?_)
      (by simp [move, hcall, WatchCall.step]) (captureOf_eq_nil (by simp [hcall]))
      (writeOf_eq_nil (by simp [hcall]))
    rw [hafter, hcall, WatchCall.step]
  | capture borrower =>
    obtain rfl : borrower = b := by simpa [hcall, WatchCall.borrower?] using hb
    refine .capture hcall ?_ (by simp [move, hcall, WatchCall.step])
      (by simp [move, hcall, WatchCall.step]) (by simp [captureOf, hcall])
      (writeOf_eq_nil (by simp [hcall]))
    rw [hafter, hcall, WatchCall.step]
  | write borrower row =>
    obtain rfl : borrower = b := by simpa [hcall, WatchCall.borrower?] using hb
    cases hsled : turn.2 with
    | ok =>
      refine .write row hcall ?_ (by simp [move, hcall, WatchCall.step, hsled]) ?_
        (captureOf_eq_nil (by simp [hcall])) (by simp [writeOf, hcall, hsled])
      · simp [hafter, hcall, WatchCall.step, hsled]
      · simp [move, hcall, WatchCall.step, hsled, WatchList.lookup_applyWrite_self]
    | error e =>
      refine .fail e row hcall ?_ (by simp [move, hcall, WatchCall.step, hsled])
        (by simp [move, hcall, WatchCall.step, hsled]) (captureOf_eq_nil (by simp [hcall]))
        (by simp [writeOf, hcall, hsled])
      simp [hafter, hcall, WatchCall.step, hsled]
  | done result => simp [hcall, WatchCall.borrower?] at hb

omit [DecidableEq κ] [DecidableEq ι] in
lemma mem_captureOf {p : ι × Option (Finset κ)} (h : p ∈ captureOf b s turn) : p.1 = turn.1 := by
  unfold captureOf at h
  split at h
  · split at h
    · rw [List.mem_singleton.mp h]
    · cases h
  · cases h

/-- Where a call stands with its row: it writes what it captured, and what it captured is still to
be written, has been written, or was refused. -/
def Placed (b : Address) (cs ws : List (ι × Option (Finset κ))) (i : ι) (call : WatchCall κ) :
    Prop :=
  (∀ row, call = .write b row → (i, row) ∈ cs) ∧
  ∀ row, (i, row) ∈ cs → ¬ Uncaptured call ∧
    (call = .write b row ∨ (i, row) ∈ ws ∨ ∃ e, call = .done (.error e))

/-- What holds of the rows while calls move. `cs` and `ws` are the captures and the writes so far,
and `base` is the row before the first move. -/
structure RowInv (base : Option (Finset κ)) (b : Address) (s : SharedList κ ι)
    (cs ws : List (ι × Option (Finset κ))) : Prop where
  cache : (∃ i, s.calls i = .capture b ∨ s.calls i = .removeIfEmpty b) ∨
    s.list.cache.lookup b = lastRow base cs
  rows : s.list.rows.lookup b = lastRow base ws
  placed : ∀ i, Placed b cs ws i (s.calls i)
  written : ∀ p ∈ ws, p ∈ cs
  nodup : (cs.map Prod.fst).Nodup

variable {cs ws cs' ws' : List (ι × Option (Finset κ))} {call : WatchCall κ}

omit [DecidableEq κ] [DecidableEq ι] in
/-- What other calls capture and write does not concern a call. -/
lemma Placed.append (h : Placed b cs ws i call) (hcs : ∀ p ∈ cs', p.1 ≠ i) :
    Placed b (cs ++ cs') (ws ++ ws') i call := by
  refine ⟨fun row hrow => List.mem_append_left _ (h.1 row hrow), fun row hmem => ?_⟩
  rcases List.mem_append.mp hmem with hold | hnew
  · obtain ⟨hlate, hcall⟩ := h.2 row hold
    exact ⟨hlate, hcall.imp id (Or.imp (List.mem_append_left _) id)⟩
  · exact absurd rfl (hcs _ hnew)

omit [DecidableEq κ] [DecidableEq ι] in
/-- A call that has yet to capture its row is not in the record. -/
lemma Placed.not_mem (h : Placed b cs ws i call) (hcall : Uncaptured call) : (i, row) ∉ cs :=
  fun hmem => (h.2 row hmem).1 hcall

omit [DecidableEq κ] [DecidableEq ι] in
/-- A call that goes on before its capture is still not in the record. -/
lemma Placed.of_uncaptured {call' : WatchCall κ} (h : Placed b cs ws i call)
    (hcall : Uncaptured call) (hcall' : Uncaptured call') : Placed b cs ws i call' := by
  refine ⟨fun row hrow => ?_, fun row hmem => absurd hmem (h.not_mem hcall)⟩
  rw [hrow] at hcall'
  exact hcall'.elim

omit [DecidableEq κ] [DecidableEq ι] in
/-- The row that a call captures is the only one it will write. -/
lemma Placed.capture (h : Placed b cs ws i (.capture b)) (row : Option (Finset κ)) :
    Placed b (cs ++ [(i, row)]) ws i (.write b row) := by
  constructor
  · intro row' hrow
    cases hrow
    simp
  · intro row' hmem
    rcases List.mem_append.mp hmem with hold | hnew
    · exact absurd hold (h.not_mem (by simp [Uncaptured]))
    · obtain ⟨-, rfl⟩ := Prod.mk.inj (List.mem_singleton.mp hnew)
      exact ⟨by simp [Uncaptured], Or.inl rfl⟩

omit [DecidableEq κ] [DecidableEq ι] in
/-- A call that has written is done with what it captured. -/
lemma Placed.write (h : Placed b cs ws i (.write b row)) :
    Placed b cs (ws ++ [(i, row)]) i (.done (.ok ())) := by
  constructor
  · intro row' hrow
    cases hrow
  · intro row' hmem
    refine ⟨by simp [Uncaptured], Or.inr (Or.inl ?_)⟩
    rcases (h.2 row' hmem).2 with hcall | hold | ⟨e, he⟩
    · cases hcall
      simp
    · exact List.mem_append_left _ hold
    · cases he

omit [DecidableEq κ] [DecidableEq ι] in
/-- And so is one whose write was refused. -/
lemma placed_refused (e : String) : Placed b cs ws i (.done (.error e)) := by
  constructor
  · intro row hrow
    cases hrow
  · exact fun row _ => ⟨by simp [Uncaptured], Or.inr (Or.inr ⟨e, rfl⟩)⟩

omit [DecidableEq κ] [DecidableEq ι] in
/-- The captures are of different calls, and a call that captures is a new one. -/
lemma nodup_capture (h : Placed b cs ws i (.capture b)) (hnodup : (cs.map Prod.fst).Nodup)
    (row : Option (Finset κ)) : ((cs ++ [(i, row)]).map Prod.fst).Nodup := by
  rw [List.map_append, List.nodup_append]
  refine ⟨hnodup, by simp, ?_⟩
  intro k hk j hj
  simp only [List.map_cons, List.map_nil, List.mem_singleton] at hj
  rintro rfl
  obtain ⟨⟨k, row'⟩, hp, rfl⟩ := List.mem_map.mp hk
  have hnot : (i, row') ∉ cs := h.not_mem (by simp [Uncaptured])
  exact hnot (hj ▸ hp)

/-- The calls that do not move stay placed. -/
lemma RowInv.placed_move (h : RowInv base b s cs ws) (turn : ι × Except String Unit)
    (hself : Placed b (cs ++ captureOf b s turn) (ws ++ writeOf b s turn) turn.1
      ((s.move turn).calls turn.1)) (i : ι) :
    Placed b (cs ++ captureOf b s turn) (ws ++ writeOf b s turn) i ((s.move turn).calls i) := by
  by_cases hi : i = turn.1
  · subst hi
    exact hself
  · rw [calls_move_of_ne hi]
    apply (h.placed i).append
    intro p hp hpi
    exact hi (hpi.symm.trans (mem_captureOf hp))

/-- A move that leaves the cache alone, by a call that is not about to capture it, leaves the last
capture up to date. -/
lemma RowInv.cache_move (h : RowInv base b s cs ws)
    (hbefore : s.calls turn.1 ≠ .capture b ∧ s.calls turn.1 ≠ .removeIfEmpty b)
    (hcache : (s.move turn).list.cache.lookup b = s.list.cache.lookup b) :
    (∃ i, (s.move turn).calls i = .capture b ∨ (s.move turn).calls i = .removeIfEmpty b) ∨
      (s.move turn).list.cache.lookup b = lastRow base cs := by
  rcases h.cache with ⟨i, hi⟩ | hcache'
  · have hself : i ≠ turn.1 := by
      rintro rfl
      exact hi.elim hbefore.1 hbefore.2
    exact Or.inl ⟨i, by rwa [calls_move_of_ne hself]⟩
  · exact Or.inr (hcache.trans hcache')

/-- Every move keeps the invariant. -/
theorem RowInv.move (h : RowInv base b s cs ws) (turn : ι × Except String Unit) :
    RowInv base b (s.move turn) (cs ++ captureOf b s turn) (ws ++ writeOf b s turn) := by
  have hself := h.placed turn.1
  have hplaced := h.placed_move turn
  cases rowMove b s turn with
  | touch hbefore hafter hrows hcapture hwrite =>
    rw [hcapture, hwrite, List.append_nil, List.append_nil] at hplaced ⊢
    have hafter' : Uncaptured ((s.move turn).calls turn.1) := by
      rcases hafter with hafter | hafter <;> simp [hafter, Uncaptured]
    exact ⟨Or.inl ⟨turn.1, hafter⟩, hrows.trans h.rows,
      hplaced (hself.of_uncaptured hbefore hafter'), h.written, h.nodup⟩
  | capture hbefore hafter hcache hrows hcapture hwrite =>
    rw [hcapture, hwrite, List.append_nil] at hplaced ⊢
    rw [hbefore] at hself
    rw [hafter] at hplaced
    refine ⟨Or.inr ?_, hrows.trans h.rows, hplaced (hself.capture _), ?_,
      nodup_capture hself h.nodup _⟩
    · rw [hcache, lastRow_concat]
    · exact fun p hp => List.mem_append_left _ (h.written p hp)
  | write row hbefore hafter hcache hrows hcapture hwrite =>
    rw [hcapture, hwrite, List.append_nil] at hplaced ⊢
    rw [hafter] at hplaced
    have hself' : Placed b cs ws turn.1 (.write b row) := hbefore ▸ hself
    refine ⟨h.cache_move (by simp [hbefore]) hcache, ?_, hplaced hself'.write, ?_, h.nodup⟩
    · rw [hrows, lastRow_concat]
    · intro p hp
      rcases List.mem_append.mp hp with hold | hnew
      · exact h.written p hold
      · rw [List.mem_singleton.mp hnew]
        exact hself'.1 row rfl
  | fail e row hbefore hafter hcache hrows hcapture hwrite =>
    rw [hcapture, hwrite, List.append_nil, List.append_nil] at hplaced ⊢
    rw [hafter] at hplaced
    exact ⟨h.cache_move (by simp [hbefore]) hcache, hrows.trans h.rows, hplaced (placed_refused e),
      h.written, h.nodup⟩
  | quiet hbefore hafter hlate hdone hcache hrows hcapture hwrite =>
    rw [hcapture, hwrite, List.append_nil, List.append_nil] at hplaced ⊢
    refine ⟨h.cache_move ⟨hbefore.1, hbefore.2.1⟩ hcache, hrows.trans h.rows, hplaced ⟨?_, ?_⟩,
      h.written, h.nodup⟩
    · intro row hrow
      exact absurd hrow (hafter row)
    · intro row hmem
      obtain ⟨hcaptured, hcall⟩ := hself.2 row hmem
      refine ⟨hlate hcaptured, ?_⟩
      rcases hcall with hcall | hold | ⟨e, he⟩
      · exact absurd hcall (hbefore.2.2 row)
      · exact Or.inr (Or.inl hold)
      · exact Or.inr (Or.inr ⟨e, hdone _ he⟩)

/-- And so does every schedule. -/
theorem RowInv.run (h : RowInv base b s cs ws) (schedule : Schedule ι) :
    RowInv base b (s.run schedule) (cs ++ s.captures b schedule) (ws ++ s.writes b schedule) := by
  induction schedule generalizing s cs ws with
  | nil => simpa [captures, writes, record] using h
  | cons turn rest ih =>
    have hrest := ih (h.move turn)
    rw [List.append_assoc, List.append_assoc] at hrest
    exact hrest

omit [DecidableEq κ] [DecidableEq ι] in
/-- Calls that are about to begin, on a list whose row is its cache. -/
lemma RowInv.start (hrow : s.list.rows.lookup b = s.list.cache.lookup b)
    (hstart : ∀ i, ∃ identity, s.calls i = .ofAdd K T identity ∨
      s.calls i = .ofRemove K T identity) :
    RowInv (s.list.cache.lookup b) b s [] [] := by
  refine ⟨Or.inr rfl, hrow, fun i => ⟨?_, ?_⟩, by simp, by simp⟩
  · intro row hcall
    obtain ⟨identity, hi | hi⟩ := hstart i
    · rw [hi, WatchCall.ofAdd] at hcall
      split at hcall <;> cases hcall
    · rw [hi, WatchCall.ofRemove] at hcall
      split at hcall <;> cases hcall
  · intro row hmem
    cases hmem

omit [DecidableEq κ] [DecidableEq ι] in
/-- When all calls have returned without an error, every captured row has been written, and the
cache is the row captured last. -/
lemma RowInv.done (h : RowInv base b s cs ws) (hdone : ∀ i, s.calls i = .done (.ok ())) :
    s.list.cache.lookup b = lastRow base cs ∧ ∀ p ∈ cs, p ∈ ws := by
  constructor
  · rcases h.cache with ⟨i, hi⟩ | hcache
    · simp [hdone i] at hi
    · exact hcache
  · rintro ⟨i, row⟩ hp
    rcases ((h.placed i).2 row hp).2 with hcall | hmem | ⟨e, he⟩
    · simp [hdone i] at hcall
    · exact hmem
    · simp [hdone i] at he

omit [DecidableEq κ] [DecidableEq ι] in
/-- Writes in the order of their captures end with the last capture. -/
lemma eq_of_inOrder (hsub : ws.Sublist cs) (hall : ∀ p ∈ cs, p ∈ ws)
    (hnodup : (cs.map Prod.fst).Nodup) : ws = cs :=
  hsub.eq_of_length_le (List.Nodup.of_map _ hnodup |>.subperm hall).length_le

omit [DecidableEq κ] [DecidableEq ι] in
/-- With a write for every capture and a capture for every write, either both records have a last
row or none has. -/
lemma lastRow_eq_iff (hwritten : ∀ p ∈ ws, p ∈ cs) (hall : ∀ p ∈ cs, p ∈ ws) :
    lastRow base ws = lastRow base cs ↔
      ws.getLast?.map Prod.snd = cs.getLast?.map Prod.snd := by
  rcases List.eq_nil_or_concat cs with rfl | ⟨cs', p, rfl⟩
  · have hnil : ws = [] := List.eq_nil_iff_forall_not_mem.mpr fun p hp => nomatch hwritten p hp
    rw [hnil]
    simp
  · rcases List.eq_nil_or_concat ws with rfl | ⟨ws', q, rfl⟩
    · exact nomatch hall p (by simp)
    · simp [lastRow]

end

end SharedList

/-- Calls that share a list whose rows are its cache, and that have all returned without an error
after some schedule. A borrower's row is then its set in the cache if the writes of the borrower
were made in the order of the captures; and it is exactly if the row captured last is the row
written last. -/
theorem sharedList_rowsAgree_iff {K : ListKind κ} {T : EthersText} {s : SharedList κ ι}
    {schedule : Schedule ι} (hsynced : s.list.Synced)
    (hstart : ∀ i, ∃ identity, s.calls i = .ofAdd K T identity ∨
      s.calls i = .ofRemove K T identity)
    (hdone : ∀ i, (s.run schedule).calls i = .done (.ok ())) (b : Address) :
    ((s.writes b schedule).Sublist (s.captures b schedule) →
      (s.run schedule).list.rows.lookup b = (s.run schedule).list.cache.lookup b) ∧
    ((s.run schedule).list.rows.lookup b = (s.run schedule).list.cache.lookup b ↔
      (s.writes b schedule).getLast?.map Prod.snd
        = (s.captures b schedule).getLast?.map Prod.snd) := by
  have hrow : s.list.rows.lookup b = s.list.cache.lookup b := by
    rw [show s.list.cache = s.list.rows from hsynced]
  have hinv := (SharedList.RowInv.start hrow hstart).run schedule
  rw [List.nil_append, List.nil_append] at hinv
  obtain ⟨hcache, hall⟩ := hinv.done hdone
  refine ⟨fun hsub => ?_, ?_⟩
  · rw [hinv.rows, hcache, SharedList.eq_of_inOrder hsub hall hinv.nodup]
  · rw [hinv.rows, hcache, SharedList.lastRow, SharedList.lastRow]
    exact SharedList.lastRow_eq_iff hinv.written hall

/-- Two additions for one borrower. -/
def twoAdditions : SharedList Address Bool where
  list := .new ∅
  calls second := .ofAdd aaveKind .reference
    (aaveKind.text .reference (.zero 20) (if second then wpol else .zero 20))

/-- Both are under way at once, and the rows are written in the order of the captures. -/
def orderedSchedule : Schedule Bool :=
  [(false, .ok ()), (false, .ok ()), (true, .ok ()), (true, .ok ()), (false, .ok ()),
    (true, .ok ())]

/-- The row captured first is written last. -/
def swappedSchedule : Schedule Bool :=
  [(false, .ok ()), (false, .ok ()), (true, .ok ()), (true, .ok ()), (true, .ok ()),
    (false, .ok ())]

lemma twoAdditions_eq : twoAdditions =
    ⟨.new ∅, fun second => .insertPair (.zero 20) (if second then wpol else .zero 20)⟩ := by
  simp only [twoAdditions, WatchCall.ofAdd, ListKind.parse_text]

lemma twoAdditions_start (i : Bool) : ∃ identity,
    twoAdditions.calls i = .ofAdd aaveKind .reference identity ∨
      twoAdditions.calls i = .ofRemove aaveKind .reference identity :=
  ⟨_, Or.inl rfl⟩

/-- The row of the borrower agrees with the cache after the first schedule, not after the second. -/
theorem sharedList_rowsAgree_iff_sample :
    (twoAdditions.run orderedSchedule).list.rows.lookup (.zero 20)
        = (twoAdditions.run orderedSchedule).list.cache.lookup (.zero 20) ∧
      (twoAdditions.run swappedSchedule).list.rows.lookup (.zero 20)
        ≠ (twoAdditions.run swappedSchedule).list.cache.lookup (.zero 20) := by
  constructor
  · refine (sharedList_rowsAgree_iff (WatchList.synced_new ∅) twoAdditions_start ?_ _).1 ?_
    · rw [twoAdditions_eq]
      intro i
      cases i <;> rfl
    · rw [twoAdditions_eq]
      decide
  · rw [Ne, (sharedList_rowsAgree_iff (WatchList.synced_new ∅) twoAdditions_start ?_ _).2]
    · rw [twoAdditions_eq]
      decide
    · rw [twoAdditions_eq]
      intro i
      cases i <;> rfl

/-- Two additions for one borrower. The row of the first is captured before the second addition and
written after it: the second position is lost from the disk. -/
theorem sharedList_loses_row :
    ∃ (s : SharedList Address Bool) (schedule : Schedule Bool), s.list.Synced ∧
      (∀ i, ∃ identity, s.calls i = .ofAdd aaveKind .reference identity) ∧
      (∀ i, (s.run schedule).calls i = .done (.ok ())) ∧
      (s.run schedule).list.cache.contains (.zero 20) wpol = true ∧
      (s.run schedule).list.rows.contains (.zero 20) wpol = false := by
  refine ⟨twoAdditions, swappedSchedule, rfl, fun _ => ⟨_, rfl⟩, ?_⟩
  rw [twoAdditions_eq]
  refine ⟨?_, by decide, by decide⟩
  intro i
  cases i <;> rfl

end LiqRanger
