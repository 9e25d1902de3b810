import LiqRanger.Watchlist.List

/-!
# Watchlist calls step by step

An `add` or a `remove` is a few atomic moves: one access of the cache, for a removal another one
that drops an emptied set, the capture of the row, and the write of what was captured. Other tasks
can run between two moves. A call that runs alone is the operation of the list (`finish_ofAdd`,
`finish_ofRemove`).
-/

namespace LiqRanger

/-- What is left to do of a call. -/
inductive WatchCall (κ : Type) where
  | insertPair (borrower : Address) (x : κ)
  | removePair (borrower : Address) (x : κ)
  | removeIfEmpty (borrower : Address)
  | capture (borrower : Address)
  | write (borrower : Address) (captured : Option (Finset κ))
  | done (result : Except String Unit)

namespace WatchCall

variable {κ : Type} (K : ListKind κ) (T : EthersText)

def ofAdd (identity : Text) : WatchCall κ :=
  match K.parse T identity with
  | some (borrower, x) => .insertPair borrower x
  | none => .done (.ok ())

def ofRemove (identity : Text) : WatchCall κ :=
  match K.parse T identity with
  | some (borrower, x) => .removePair borrower x
  | none => .done (.ok ())

variable [DecidableEq κ]

/-- The next move; `sled` is whether a write applies. -/
def step (sled : Except String Unit) (call : WatchCall κ) (w : WatchList κ) :
    WatchCall κ × WatchList κ :=
  match call with
  | .insertPair borrower x =>
    let (cache, wasInserted) := w.cache.insertPair borrower x
    (if wasInserted then .capture borrower else .done (.ok ()), { w with cache := cache })
  | .removePair borrower x =>
    let (cache, wasRemoved, shouldDeleteKey) := w.cache.removePair borrower x
    (if wasRemoved then
      if shouldDeleteKey then .removeIfEmpty borrower else .capture borrower
    else .done (.ok ()), { w with cache := cache })
  | .removeIfEmpty borrower =>
    (.capture borrower, { w with cache := w.cache.removeIfEmpty borrower })
  | .capture borrower => (.write borrower (w.cache.lookup borrower), w)
  | .write borrower captured =>
    match sled with
    | .ok () => (.done (.ok ()), { w with rows := WatchList.applyWrite borrower captured w.rows })
    | .error e => (.done (.error e), w)
  | .done result => (.done result, w)

/-- A call that runs alone: no call takes more than four moves. -/
def finish (sled : Except String Unit) (call : WatchCall κ) (w : WatchList κ) :
    WatchCall κ × WatchList κ :=
  (fun (call, w) => step sled call w)^[4] (call, w)

variable {K T} {sled : Except String Unit} {call : WatchCall κ} {w : WatchList κ}
  {identity : Text} {b : Address} {y : κ}

/-! ### A call alone -/

/-- An addition that runs alone is the addition of the list. -/
theorem finish_ofAdd :
    (ofAdd K T identity).finish sled w
      = (.done (w.add K T sled identity).1, (w.add K T sled identity).2) := by
  cases hparse : K.parse T identity with
  | none =>
    rw [WatchList.add_of_parse_none hparse, ofAdd, hparse]
    rfl
  | some pair =>
    obtain ⟨borrower, x⟩ := pair
    simp only [ofAdd, WatchList.add, hparse, finish, Function.iterate_succ, Function.comp,
      Function.iterate_zero, id, step]
    by_cases hins : (w.cache.insertPair borrower x).2
    · simp only [hins, if_true, Bool.not_true, Bool.false_eq_true, if_false]
      cases sled <;> rfl
    · simp only [hins, Bool.false_eq_true, if_false, Bool.not_false, if_true]

/-- A removal that runs alone is the removal of the list. -/
theorem finish_ofRemove :
    (ofRemove K T identity).finish sled w
      = (.done (w.remove K T sled identity).1, (w.remove K T sled identity).2) := by
  cases hparse : K.parse T identity with
  | none =>
    rw [WatchList.remove_of_parse_none hparse, ofRemove, hparse]
    rfl
  | some pair =>
    obtain ⟨borrower, x⟩ := pair
    simp only [ofRemove, WatchList.remove, hparse, finish, Function.iterate_succ, Function.comp,
      Function.iterate_zero, id, step]
    by_cases hremoved : (w.cache.removePair borrower x).2.1
    · by_cases hempty : (w.cache.removePair borrower x).2.2
      · simp only [hremoved, hempty, if_true]
        cases sled <;> rfl
      · simp only [hremoved, hempty, if_true, Bool.false_eq_true, if_false]
        cases sled <;> rfl
    · simp only [hremoved, Bool.false_eq_true, if_false]

/-! ### What one move leads to -/

/-- The next move leads from a call to another; the one that ends it is the write, or an access of
the cache that changes nothing. -/
inductive Next (sled : Except String Unit) : WatchCall κ → WatchCall κ → Prop where
  | inserted (borrower : Address) (x : κ) : Next sled (.insertPair borrower x) (.capture borrower)
  | present (borrower : Address) (x : κ) : Next sled (.insertPair borrower x) (.done (.ok ()))
  | removed (borrower : Address) (x : κ) : Next sled (.removePair borrower x) (.capture borrower)
  | emptied (borrower : Address) (x : κ) :
      Next sled (.removePair borrower x) (.removeIfEmpty borrower)
  | absent (borrower : Address) (x : κ) : Next sled (.removePair borrower x) (.done (.ok ()))
  | dropped (borrower : Address) : Next sled (.removeIfEmpty borrower) (.capture borrower)
  | captured (borrower : Address) (row : Option (Finset κ)) :
      Next sled (.capture borrower) (.write borrower row)
  | written (borrower : Address) (row : Option (Finset κ)) :
      Next sled (.write borrower row) (.done sled)
  | done (result : Except String Unit) : Next sled (.done result) (.done result)

lemma step_next : Next sled call (call.step sled w).1 := by
  cases call with
  | insertPair borrower x =>
    simp only [step]
    split
    · exact .inserted borrower x
    · exact .present borrower x
  | removePair borrower x =>
    simp only [step]
    split
    · split
      · exact .emptied borrower x
      · exact .removed borrower x
    · exact .absent borrower x
  | removeIfEmpty borrower => exact .dropped borrower
  | capture borrower => exact .captured borrower _
  | write borrower row => cases sled <;> exact .written borrower row
  | done result => exact .done result

/-! ### What one move does to the cache -/

/-- The pair that the next move puts into the cache. -/
def insertions : WatchCall κ → List (Address × κ)
  | .insertPair borrower x => [(borrower, x)]
  | _ => []

/-- The pair that the next move takes out of the cache. -/
def removals : WatchCall κ → List (Address × κ)
  | .removePair borrower x => [(borrower, x)]
  | _ => []

/-- A move puts its pair in or takes its pair out, and no other. -/
theorem contains_step_iff :
    (call.step sled w).2.contains b y = true ↔
      (b, y) ∈ call.insertions ∨ (w.contains b y = true ∧ (b, y) ∉ call.removals) := by
  cases call with
  | insertPair borrower x =>
    refine MultiMap.contains_insertPair.trans ?_
    simp [insertions, removals, WatchList.contains]
  | removePair borrower x =>
    refine MultiMap.contains_removePair.trans ?_
    simp [insertions, removals, WatchList.contains, and_comm]
  | removeIfEmpty borrower =>
    refine MultiMap.contains_removeIfEmpty.trans ?_
    simp [insertions, removals, WatchList.contains]
  | capture borrower => simp [step, insertions, removals]
  | write borrower captured => cases sled <;> simp [step, insertions, removals, WatchList.contains]
  | done result => simp [step, insertions, removals]

/-- A move loses no pair but the one it takes out. -/
lemma contains_step (hmem : w.contains b y = true) (hkeep : (b, y) ∉ call.removals) :
    (call.step sled w).2.contains b y = true :=
  contains_step_iff.mpr (Or.inr ⟨hmem, hkeep⟩)

/-- The first move of an addition puts the pair in the cache. -/
lemma contains_step_insertPair :
    ((insertPair b y : WatchCall κ).step sled w).2.contains b y = true :=
  contains_step_iff.mpr (Or.inl List.mem_cons_self)

/-- A pair is taken out by the first move of a removal or by none. -/
lemma removals_step : (call.step sled w).1.removals = [] := by
  have hnext : Next sled call (call.step sled w).1 := step_next
  generalize (call.step sled w).1 = call' at hnext ⊢
  cases hnext <;> rfl

/-- No move leads to an insertion. -/
lemma insertions_step : (call.step sled w).1.insertions = [] := by
  have hnext : Next sled call (call.step sled w).1 := step_next
  generalize (call.step sled w).1 = call' at hnext ⊢
  cases hnext <;> rfl

/-! ### What one move leaves alone -/

/-- The borrower that a call is about, until it is done. -/
def borrower? : WatchCall κ → Option Address
  | .insertPair borrower _ => some borrower
  | .removePair borrower _ => some borrower
  | .removeIfEmpty borrower => some borrower
  | .capture borrower => some borrower
  | .write borrower _ => some borrower
  | .done _ => none

/-- A move does not turn to another borrower. -/
lemma borrower?_step (h : call.borrower? ≠ some b) :
    (call.step sled w).1.borrower? ≠ some b := by
  have hnext : Next sled call (call.step sled w).1 := step_next
  generalize (call.step sled w).1 = call' at hnext ⊢
  cases hnext <;> simp_all [borrower?]

/-- A move leaves the sets of other borrowers alone. -/
lemma lookup_cache_step_of_ne (h : call.borrower? ≠ some b) :
    (call.step sled w).2.cache.lookup b = w.cache.lookup b := by
  cases call with
  | insertPair borrower x =>
    exact MultiMap.lookup_insertPair_of_ne fun hb => h (congrArg some hb.symm)
  | removePair borrower x =>
    exact MultiMap.lookup_removePair_of_ne fun hb => h (congrArg some hb.symm)
  | removeIfEmpty borrower =>
    exact MultiMap.lookup_removeIfEmpty_of_ne fun hb => h (congrArg some hb.symm)
  | capture borrower => rfl
  | write borrower captured => cases sled <;> rfl
  | done result => rfl

/-- A move leaves the rows of other borrowers alone. -/
lemma lookup_rows_step_of_ne (h : call.borrower? ≠ some b) :
    (call.step sled w).2.rows.lookup b = w.rows.lookup b := by
  cases call with
  | write borrower captured =>
    cases sled with
    | ok => exact WatchList.lookup_applyWrite_of_ne (fun hb => h (congrArg some hb.symm)) w.rows
    | error e => rfl
  | _ => rfl

end WatchCall

end LiqRanger
