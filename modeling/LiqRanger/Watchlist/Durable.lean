import LiqRanger.Watchlist.List

/-!
# Watchlists as durable sets

Called one operation after another, a watchlist is a set of positions that outlives the process:
every operation does to the set what its text says, the rows always hold the set, and opening the
list again changes nothing (`watchlists_representSet`). This needs every write to apply. A write
that fails leaves the cache ahead of the rows, and trying again does not repair it
(`survivesFailedWrite_iff`).
-/

namespace LiqRanger

variable {κ : Type} [DecidableEq κ] {K : ListKind κ} {T : EthersText}

/-! ### Snapshots and positions -/

namespace Visits

variable {entries : List (Address × List κ)} {cache : MultiMap Address κ}

lemma contains_iff (h : Visits entries cache) {b : Address} {x : κ} :
    cache.contains b x = true ↔ ∃ l, (b, l) ∈ entries ∧ x ∈ l := by
  rw [MultiMap.contains_iff]
  constructor
  · rintro ⟨set, hset, hx⟩
    obtain ⟨l, hl, rfl⟩ := (h.lookup_iff b set).mp hset
    exact ⟨l, hl, List.mem_toFinset.mp hx⟩
  · rintro ⟨l, hl, hx⟩
    exact ⟨l.toFinset, (h.lookup_iff b _).mpr ⟨l, hl, rfl⟩, List.mem_toFinset.mpr hx⟩

/-- Every cache can be visited. -/
lemma exists_of_cache (cache : MultiMap Address κ) : ∃ entries, Visits entries cache := by
  refine ⟨cache.keys.toList.map fun b => (b, ((cache.lookup b).getD ∅).toList), ?_, ?_, ?_⟩
  · simp [Function.comp_def, Finset.nodup_toList]
  · intro entry hentry
    obtain ⟨b, -, rfl⟩ := List.mem_map.mp hentry
    exact Finset.nodup_toList _
  · intro b set
    constructor
    · intro hset
      refine ⟨set.toList, List.mem_map.mpr ⟨b, ?_, ?_⟩, Finset.toList_toFinset set⟩
      · rw [Finset.mem_toList, Finmap.mem_keys, ← Finmap.lookup_isSome, hset]
        rfl
      · rw [hset, Option.getD_some]
    · rintro ⟨l, hl, rfl⟩
      obtain ⟨b', hb', hpair⟩ := List.mem_map.mp hl
      obtain ⟨rfl, rfl⟩ := Prod.mk.inj hpair
      rw [Finset.mem_toList, Finmap.mem_keys, ← Finmap.lookup_isSome] at hb'
      obtain ⟨set, hset⟩ := Option.isSome_iff_exists.mp hb'
      rw [hset, Option.getD_some, Finset.toList_toFinset]

lemma empty : Visits [] (∅ : MultiMap Address κ) where
  nodup := List.nodup_nil
  sets_nodup _ hentry := absurd hentry List.not_mem_nil
  lookup_iff borrower set := by simp [Finmap.lookup_empty]

/-- One more borrower. -/
lemma insert {entries : List (Address × List κ)} {cache : MultiMap Address κ}
    (h : Visits entries cache) {b : Address} {l : List κ} (hb : b ∉ entries.map Prod.fst)
    (hl : l.Nodup) : Visits ((b, l) :: entries) (cache.insert b l.toFinset) where
  nodup := List.nodup_cons.mpr ⟨hb, h.nodup⟩
  sets_nodup := List.forall_mem_cons.mpr ⟨hl, h.sets_nodup⟩
  lookup_iff borrower set := by
    by_cases hborrower : borrower = b
    · subst hborrower
      have hnone : ∀ l', (borrower, l') ∉ entries := fun l' hmem =>
        hb (List.mem_map_of_mem (f := Prod.fst) hmem)
      simp [Finmap.lookup_insert, hnone]
    · simp [Finmap.lookup_insert_of_ne _ hborrower, hborrower, h.lookup_iff]

/-- One borrower. -/
lemma single {b : Address} {l : List κ} (hl : l.Nodup) :
    Visits [(b, l)] ((∅ : MultiMap Address κ).insert b l.toFinset) :=
  empty.insert List.not_mem_nil hl

end Visits

/-- The positions of a list, in the order of a visit. -/
def positions (entries : List (Address × List κ)) : List (Address × κ) :=
  entries.flatMap fun entry => entry.2.map fun x => (entry.1, x)

/-- One position for each borrower that has one. -/
def representatives (entries : List (Address × List κ)) : List (Address × κ) :=
  entries.filterMap fun entry => entry.2.head?.map fun x => (entry.1, x)

section
variable {entries : List (Address × List κ)} {cache : MultiMap Address κ} {b : Address} {x : κ}

lemma AaveWatchList.snapshot_eq (entries : List (Address × List Address)) :
    AaveWatchList.snapshot T entries
      = (representatives entries).map fun p => aaveKind.text T p.1 p.2 := by
  simp [AaveWatchList.snapshot, representatives, List.map_filterMap, Function.comp_def]

lemma MorphoWatchList.snapshot_eq (entries : List (Address × List H256)) :
    MorphoWatchList.snapshot T entries
      = (positions entries).map fun p => morphoKind.text T p.1 p.2 := by
  simp [MorphoWatchList.snapshot, positions, List.map_flatMap, Function.comp_def]

lemma mem_positions (h : Visits entries cache) :
    (b, x) ∈ positions entries ↔ cache.contains b x = true := by
  rw [h.contains_iff]
  simp [positions, and_comm]

lemma positions_nodup (h : Visits entries cache) : (positions entries).Nodup := by
  rw [positions, List.nodup_flatMap]
  constructor
  · intro entry hentry
    apply (h.sets_nodup entry hentry).map
    intro x y hxy
    exact (Prod.mk.inj hxy).2
  · have hkeys := List.pairwise_map.mp h.nodup
    refine hkeys.imp ?_
    intro entry entry' hne
    rw [Function.onFun, List.disjoint_left]
    intro p hp hp'
    obtain ⟨x, -, rfl⟩ := List.mem_map.mp hp
    obtain ⟨x', -, hx'⟩ := List.mem_map.mp hp'
    exact hne (Prod.mk.inj hx').1.symm

omit [DecidableEq κ] in
lemma mem_representatives :
    (b, x) ∈ representatives entries ↔ ∃ l, (b, l) ∈ entries ∧ l.head? = some x := by
  simp [representatives]

/-- A representative is a position. -/
lemma contains_of_mem_representatives (h : Visits entries cache)
    (hmem : (b, x) ∈ representatives entries) : cache.contains b x = true := by
  obtain ⟨l, hl, hhead⟩ := mem_representatives.mp hmem
  exact h.contains_iff.mpr ⟨l, hl, List.mem_of_mem_head? hhead⟩

/-- Every borrower with a position has a representative. -/
lemma exists_representative (h : Visits entries cache) (hmem : cache.contains b x = true) :
    ∃ y, (b, y) ∈ representatives entries := by
  obtain ⟨l, hl, hx⟩ := h.contains_iff.mp hmem
  cases l with
  | nil => cases hx
  | cons y l => exact ⟨y, mem_representatives.mpr ⟨y :: l, hl, rfl⟩⟩

/-- No borrower has two representatives. -/
lemma representatives_nodup (h : Visits entries cache) :
    ((representatives entries).map Prod.fst).Nodup := by
  have hsub : ((representatives entries).map Prod.fst).Sublist (entries.map Prod.fst) := by
    clear h
    induction entries with
    | nil => exact List.Sublist.slnil
    | cons entry rest ih =>
      obtain ⟨b, l⟩ := entry
      cases l with
      | nil => exact List.Sublist.cons b ih
      | cons y l => exact List.Sublist.cons_cons b ih
  exact hsub.nodup h.nodup

end

/-! ### Operations -/

/-- A call to a list, or opening it again on its rows. -/
inductive WatchOp where
  | add (identity : Text)
  | remove (identity : Text)
  | reopen

namespace WatchOp

/-- The outcome of an operation and the list after it; `sled` is whether the disk obeys. -/
def run (K : ListKind κ) (T : EthersText) (sled : Except String Unit) (op : WatchOp)
    (w : WatchList κ) : Except String Unit × WatchList κ :=
  match op with
  | .add identity => w.add K T sled identity
  | .remove identity => w.remove K T sled identity
  | .reopen =>
    match sled with
    | .ok () => (.ok (), .new w.rows)
    | .error e => (.error e, w)

/-- What an operation does to a set of positions. -/
def apply (K : ListKind κ) (T : EthersText) (op : WatchOp) (S : Set (Address × κ)) :
    Set (Address × κ) :=
  match op with
  | .add identity =>
    match K.parse T identity with
    | some pair => insert pair S
    | none => S
  | .remove identity =>
    match K.parse T identity with
    | some pair => S \ {pair}
    | none => S
  | .reopen => S

/-- The list after a sequence of operations, while the disk obeys. -/
def runAll (K : ListKind κ) (T : EthersText) (ops : List WatchOp) (w : WatchList κ) :
    WatchList κ :=
  ops.foldl (fun w op => (op.run K T (.ok ()) w).2) w

def applyAll (K : ListKind κ) (T : EthersText) (ops : List WatchOp) (S : Set (Address × κ)) :
    Set (Address × κ) :=
  ops.foldl (fun S op => op.apply K T S) S

end WatchOp

namespace WatchList

/-- The positions that the rows of a disk hold. -/
def pairs (rows : MultiMap Address κ) : Set (Address × κ) := {p | rows.contains p.1 p.2 = true}

/-- The list stands for a set of positions: it answers from the set, and cache and rows hold it
without a borrower whose set is empty. -/
structure Represents (w : WatchList κ) (S : Set (Address × κ)) : Prop where
  synced : w.Synced
  noEmptySets : w.cache.NoEmptySets
  contains_iff : ∀ borrower x, w.contains borrower x = true ↔ (borrower, x) ∈ S

variable {w : WatchList κ} {S : Set (Address × κ)} {sled : Except String Unit} {identity : Text}

lemma represents_new {rows : MultiMap Address κ} (h : rows.NoEmptySets) :
    (new rows).Represents (pairs rows) :=
  ⟨synced_new rows, h, fun _ _ => Iff.rfl⟩

/-- A write that applies makes the removal succeed. -/
lemma remove_ok : (w.remove K T (.ok ()) identity).1 = .ok () := by
  rcases remove_cases K T (.ok ()) identity w with hremove | ⟨borrower, x, hremove⟩ <;> rw [hremove]
  rfl

theorem Represents.add (h : w.Represents S) :
    (w.add K T (.ok ()) identity).2.Represents ((WatchOp.add identity).apply K T S) := by
  cases hparse : K.parse T identity with
  | none =>
    rw [add_of_parse_none hparse, WatchOp.apply, hparse]
    exact h
  | some pair =>
    obtain ⟨borrower, x⟩ := pair
    refine ⟨h.synced.add add_ok, ?_, ?_⟩
    · rw [cache_add hparse]
      exact h.noEmptySets.insertPair
    · intro b y
      rw [contains_add hparse, h.contains_iff]
      simp [WatchOp.apply, hparse]

theorem Represents.remove (h : w.Represents S) :
    (w.remove K T (.ok ()) identity).2.Represents ((WatchOp.remove identity).apply K T S) := by
  cases hparse : K.parse T identity with
  | none =>
    rw [remove_of_parse_none hparse, WatchOp.apply, hparse]
    exact h
  | some pair =>
    obtain ⟨borrower, x⟩ := pair
    refine ⟨h.synced.remove remove_ok, ?_, ?_⟩
    · rw [cache_remove hparse]
      exact h.noEmptySets.dropPair
    · intro b y
      rw [contains_remove hparse, h.contains_iff]
      simp [WatchOp.apply, hparse, and_comm]

omit [DecidableEq κ] in
/-- Opening a list again on its rows gives the same list. -/
lemma Synced.new_rows (h : w.Synced) : new w.rows = w := by
  obtain ⟨cache, rows⟩ := w
  cases (show cache = rows from h)
  rfl

/-- Every operation does to the list what it does to the set. -/
theorem Represents.run (h : w.Represents S) (op : WatchOp) :
    (op.run K T (.ok ()) w).1 = .ok () ∧
      (op.run K T (.ok ()) w).2.Represents (op.apply K T S) := by
  cases op with
  | add identity => exact ⟨add_ok, h.add⟩
  | remove identity => exact ⟨remove_ok, h.remove⟩
  | reopen =>
    refine ⟨rfl, ?_⟩
    simp only [WatchOp.run, h.synced.new_rows]
    exact h

/-- And so does every sequence of operations. -/
theorem Represents.runAll (h : w.Represents S) (ops : List WatchOp) :
    (WatchOp.runAll K T ops w).Represents (WatchOp.applyAll K T ops S) := by
  induction ops generalizing w S with
  | nil => exact h
  | cons op rest ih => exact ih (h.run op).2

/-! ### What can be observed -/

/-- What the questions, the rows and a list opened on them show of a set. -/
structure Shows (K : ListKind κ) (T : EthersText) (w : WatchList κ) (S : Set (Address × κ)) :
    Prop where
  contains_iff : ∀ borrower x, w.contains borrower x = true ↔ (borrower, x) ∈ S
  containsIdentity_iff : ∀ identity, w.containsIdentity K T identity = true ↔
    ∃ pair ∈ S, K.parse T identity = some pair
  rows_eq : w.rows = w.cache
  cache_noEmptySets : w.cache.NoEmptySets
  rows_noEmptySets : w.rows.NoEmptySets
  reopened : new w.rows = w

lemma Represents.shows (h : w.Represents S) : w.Shows K T S where
  contains_iff := h.contains_iff
  containsIdentity_iff identity := by
    cases hparse : K.parse T identity with
    | none => simp [containsIdentity_of_parse_none hparse]
    | some pair => simp [containsIdentity_of_parse hparse, h.contains_iff]
  rows_eq := (show w.cache = w.rows from h.synced).symm
  cache_noEmptySets := h.noEmptySets
  rows_noEmptySets := (show w.cache = w.rows from h.synced) ▸ h.noEmptySets
  reopened := h.synced.new_rows

end WatchList

/-- Every visit of the Aave list yields each borrower of the set once, with a reserve that is
tracked for it. -/
def AaveWatchList.SnapshotShows (T : EthersText) (w : AaveWatchList) (S : Set (Address × Address)) :
    Prop :=
  ∀ entries, Visits entries w.cache → ∃ pairs : List (Address × Address),
    AaveWatchList.snapshot T entries = pairs.map (fun p => aaveKind.text T p.1 p.2) ∧
      (pairs.map Prod.fst).Nodup ∧ (∀ p ∈ pairs, p ∈ S) ∧ ∀ p ∈ S, p.1 ∈ pairs.map Prod.fst

/-- Every visit of the Morpho list yields each position of the set once. -/
def MorphoWatchList.SnapshotShows (T : EthersText) (w : MorphoWatchList)
    (S : Set (Address × H256)) : Prop :=
  ∀ entries, Visits entries w.cache → ∃ pairs : List (Address × H256),
    MorphoWatchList.snapshot T entries = pairs.map (fun p => morphoKind.text T p.1 p.2) ∧
      pairs.Nodup ∧ ∀ p, p ∈ pairs ↔ p ∈ S

lemma AaveWatchList.snapshotShows {w : AaveWatchList} {S : Set (Address × Address)}
    (h : w.Represents S) : AaveWatchList.SnapshotShows T w S := by
  intro entries hvisits
  refine ⟨representatives entries, AaveWatchList.snapshot_eq entries,
    representatives_nodup hvisits, ?_, ?_⟩
  · rintro ⟨b, r⟩ hmem
    exact (h.contains_iff b r).mp (contains_of_mem_representatives hvisits hmem)
  · rintro ⟨b, r⟩ hmem
    obtain ⟨y, hy⟩ := exists_representative hvisits ((h.contains_iff b r).mpr hmem)
    exact List.mem_map.mpr ⟨(b, y), hy, rfl⟩

lemma MorphoWatchList.snapshotShows {w : MorphoWatchList} {S : Set (Address × H256)}
    (h : w.Represents S) : MorphoWatchList.SnapshotShows T w S := by
  intro entries hvisits
  refine ⟨positions entries, MorphoWatchList.snapshot_eq entries, positions_nodup hvisits, ?_⟩
  rintro ⟨b, m⟩
  rw [mem_positions hvisits]
  exact h.contains_iff b m

/-- Started on a disk without empty sets, both lists are the set of positions that the operations
make of the set on the disk: questions, snapshots, rows and a list opened on the rows all show that
set. -/
theorem watchlists_representSet (T : EthersText) (ops : List WatchOp) :
    (∀ rows : MultiMap Address Address, rows.NoEmptySets →
      (WatchOp.runAll aaveKind T ops (.new rows)).Shows aaveKind T
          (WatchOp.applyAll aaveKind T ops (WatchList.pairs rows)) ∧
        AaveWatchList.SnapshotShows T (WatchOp.runAll aaveKind T ops (.new rows))
          (WatchOp.applyAll aaveKind T ops (WatchList.pairs rows))) ∧
    ∀ rows : MultiMap Address H256, rows.NoEmptySets →
      (WatchOp.runAll morphoKind T ops (.new rows)).Shows morphoKind T
          (WatchOp.applyAll morphoKind T ops (WatchList.pairs rows)) ∧
        MorphoWatchList.SnapshotShows T (WatchOp.runAll morphoKind T ops (.new rows))
          (WatchOp.applyAll morphoKind T ops (WatchList.pairs rows)) := by
  constructor
  · intro rows hrows
    have h := (WatchList.represents_new hrows).runAll (K := aaveKind) (T := T) ops
    exact ⟨h.shows, AaveWatchList.snapshotShows h⟩
  · intro rows hrows
    have h := (WatchList.represents_new hrows).runAll (K := morphoKind) (T := T) ops
    exact ⟨h.shows, MorphoWatchList.snapshotShows h⟩

/-- On an empty disk: an addition, a text that stands for nothing, and a restart. -/
theorem watchlists_representSet_sample :
    (WatchOp.runAll aaveKind .reference [.add (aaveKind.text .reference (.zero 20) (.zero 20)),
        .remove "comet".toList, .reopen] (.new ∅)).Shows aaveKind .reference
      (WatchOp.applyAll aaveKind .reference
        [.add (aaveKind.text .reference (.zero 20) (.zero 20)), .remove "comet".toList, .reopen]
        (WatchList.pairs ∅)) ∧
    (WatchOp.runAll morphoKind .reference [.add (morphoKind.text .reference (.zero 20) (.zero 32)),
        .reopen] (.new ∅)).Shows morphoKind .reference
      (WatchOp.applyAll morphoKind .reference
        [.add (morphoKind.text .reference (.zero 20) (.zero 32)), .reopen]
        (WatchList.pairs ∅)) :=
  ⟨((watchlists_representSet .reference _).1 ∅ MultiMap.noEmptySets_empty).1,
    ((watchlists_representSet .reference _).2 ∅ MultiMap.noEmptySets_empty).1⟩

/-! ### Writes that fail -/

namespace WatchOp

variable {w : WatchList κ} {sled : Except String Unit} {op : WatchOp} {e : String}

/-- A list opened on the rows shows what the operation asks for. -/
def OnDisk (K : ListKind κ) (T : EthersText) (op : WatchOp) (w : WatchList κ) : Prop :=
  match op with
  | .add identity => (WatchList.new w.rows).containsIdentity K T identity = true
  | .remove identity => (WatchList.new w.rows).containsIdentity K T identity = false
  | .reopen => True

/-- If the operation fails, cache and rows still agree, and trying again until it succeeds brings
the change to the disk. -/
def SurvivesFailedWrite (K : ListKind κ) (T : EthersText) (sled : Except String Unit)
    (op : WatchOp) (w : WatchList κ) : Prop :=
  ∀ e, (op.run K T sled w).1 = .error e → (op.run K T sled w).2.Synced ∧
    ∀ sled', (op.run K T sled' (op.run K T sled w).2).1 = .ok () →
      op.OnDisk K T (op.run K T sled' (op.run K T sled w).2).2

/-- The operation has something to write: an addition of a position that is not there, or a
removal of one that is. -/
def HasWrite (K : ListKind κ) (T : EthersText) (op : WatchOp) (w : WatchList κ) : Prop :=
  match op with
  | .add identity => ∃ b x, K.parse T identity = some (b, x) ∧ w.contains b x = false
  | .remove identity => ∃ b x, K.parse T identity = some (b, x) ∧ w.contains b x = true
  | .reopen => False

/-- An operation with nothing to write does not fail, unless it is opening the list. -/
lemma run_eq_ok_of_not_hasWrite (h : ¬ op.HasWrite K T w) (hop : op ≠ .reopen) :
    (op.run K T sled w).1 = .ok () := by
  cases op with
  | reopen => exact absurd rfl hop
  | add identity =>
    cases hparse : K.parse T identity with
    | none => simp [run, WatchList.add_of_parse_none hparse]
    | some pair =>
      have hmem : w.cache.contains pair.1 pair.2 = true := by
        by_contra hnot
        exact h ⟨pair.1, pair.2, hparse, Bool.eq_false_iff.mpr hnot⟩
      simp [run, WatchList.add, hparse, MultiMap.insertPair_of_contains hmem]
  | remove identity =>
    cases hparse : K.parse T identity with
    | none => simp [run, WatchList.remove_of_parse_none hparse]
    | some pair =>
      have hmem : w.cache.contains pair.1 pair.2 = false := by
        by_contra hnot
        exact h ⟨pair.1, pair.2, hparse, Bool.eq_true_of_not_eq_false hnot⟩
      simp [run, WatchList.remove, hparse, MultiMap.removePair_of_not_contains hmem]

/-- A change of the cache that the rows do not follow. -/
lemma not_synced_of_contains_ne {cache : MultiMap Address κ} {b : Address} {x : κ}
    (hsynced : w.Synced) (hne : cache.contains b x ≠ w.cache.contains b x) :
    ¬ (WatchList.mk cache w.rows).Synced := by
  intro hbad
  have hsame : cache = w.cache :=
    (show cache = w.rows from hbad).trans (show w.cache = w.rows from hsynced).symm
  exact hne (by rw [hsame])

/-- A write that fails leaves the change in the cache only, and trying again succeeds without
writing. -/
theorem failedWrite (hsynced : w.Synced) (hwrite : op.HasWrite K T w) :
    (op.run K T (.error e) w).1 = .error e ∧ ¬ (op.run K T (.error e) w).2.Synced ∧
      ∀ sled', (op.run K T sled' (op.run K T (.error e) w).2).1 = .ok () ∧
        ¬ op.OnDisk K T (op.run K T sled' (op.run K T (.error e) w).2).2 := by
  cases op with
  | reopen => exact absurd hwrite id
  | add identity =>
    obtain ⟨b, x, hparse, hmem⟩ := hwrite
    have hmem' : w.cache.contains b x = false := hmem
    have hflag : (w.cache.insertPair b x).2 = true := by
      rw [MultiMap.insertPair_flag, hmem']
      rfl
    have hrun : w.add K T (.error e) identity
        = (.error e, ⟨(w.cache.insertPair b x).1, w.rows⟩) := by
      simp [WatchList.add, hparse, hflag, WatchList.persist]
    have hnew : (w.cache.insertPair b x).1.contains b x = true :=
      MultiMap.contains_insertPair.mpr (Or.inl ⟨rfl, rfl⟩)
    simp only [run, hrun, true_and]
    refine ⟨not_synced_of_contains_ne (b := b) (x := x) hsynced (by simp [hnew, hmem']), ?_⟩
    intro sled'
    simp only [WatchList.add, hparse, MultiMap.insertPair_of_contains hnew, Bool.not_false,
      if_true, true_and]
    simp [OnDisk, WatchList.containsIdentity_of_parse hparse, WatchList.contains,
      WatchList.new, ← show w.cache = w.rows from hsynced, hmem']
  | remove identity =>
    obtain ⟨b, x, hparse, hmem⟩ := hwrite
    have hmem' : w.cache.contains b x = true := hmem
    have hflag : (w.cache.removePair b x).2.1 = true := by
      rw [MultiMap.removePair_flag, hmem']
    have hrun : w.remove K T (.error e) identity
        = (.error e, ⟨w.cache.dropPair b x, w.rows⟩) := by
      simp [WatchList.remove, hparse, hflag, WatchList.persist, MultiMap.dropPair]
    have hnew : (w.cache.dropPair b x).contains b x = false := by
      rw [Bool.eq_false_iff]
      intro hbad
      exact (MultiMap.contains_dropPair.mp hbad).1 ⟨rfl, rfl⟩
    simp only [run, hrun, true_and]
    refine ⟨not_synced_of_contains_ne (b := b) (x := x) hsynced (by simp [hnew, hmem']), ?_⟩
    intro sled'
    simp only [WatchList.remove, hparse, MultiMap.removePair_of_not_contains hnew,
      Bool.false_eq_true, if_false, true_and]
    simp [OnDisk, WatchList.containsIdentity_of_parse hparse, WatchList.contains,
      WatchList.new, ← show w.cache = w.rows from hsynced, hmem']

end WatchOp

/-- From a state in which cache and rows agree, an operation survives a failed write exactly when
there is none: the write applies, or there is nothing to write. -/
theorem survivesFailedWrite_iff {w : WatchList κ} (hsynced : w.Synced)
    (sled : Except String Unit) (op : WatchOp) :
    op.SurvivesFailedWrite K T sled w ↔ sled = .ok () ∨ ¬ op.HasWrite K T w := by
  constructor
  · intro h
    cases sled with
    | ok => exact Or.inl rfl
    | error e =>
      right
      intro hwrite
      obtain ⟨herror, hbad, -⟩ := WatchOp.failedWrite (e := e) hsynced hwrite
      exact hbad (h e herror).1
  · rintro (rfl | hnone) e herror
    · cases op with
      | add identity => exact nomatch WatchList.add_ok.symm.trans herror
      | remove identity => exact nomatch WatchList.remove_ok.symm.trans herror
      | reopen => exact nomatch (herror : Except.ok () = Except.error e)
    · by_cases hop : op = .reopen
      · subst hop
        cases sled with
        | ok => exact nomatch (herror : Except.ok () = Except.error e)
        | error e => exact ⟨hsynced, fun _ _ => trivial⟩
      · rw [WatchOp.run_eq_ok_of_not_hasWrite hnone hop] at herror
        cases herror

/-- With writes that fail, an addition of a position that is there survives, and the first one of a
position does not. -/
theorem survivesFailedWrite_iff_sample :
    (WatchOp.add (aaveKind.text .reference (.zero 20) (.zero 20))).SurvivesFailedWrite aaveKind
        .reference (.error "io error") (.new ((∅ : MultiMap Address Address).insert (.zero 20)
          {.zero 20})) ∧
      ¬ (WatchOp.add (aaveKind.text .reference (.zero 20) (.zero 20))).SurvivesFailedWrite aaveKind
        .reference (.error "io error") (.new ∅) := by
  constructor
  · refine (survivesFailedWrite_iff (WatchList.synced_new _) _ _).mpr (Or.inr ?_)
    rintro ⟨b, reserve, hparse, hmem⟩
    rw [ListKind.parse_text] at hparse
    cases hparse
    cases hmem
  · rw [survivesFailedWrite_iff (WatchList.synced_new ∅)]
    rintro (h | h)
    · cases h
    · exact h ⟨.zero 20, .zero 20, ListKind.parse_text _ _, MultiMap.not_contains_empty⟩

/-- The first addition to an empty list meets a failing write: the cache has the position, the rows
do not, and the second attempt returns without an error and without writing. -/
theorem failedWrite_poisons :
    ∃ identity : Text, ((WatchOp.add identity).run aaveKind .reference (.error "io error")
        (.new ∅)).1 = .error "io error" ∧
      ¬ ((WatchOp.add identity).run aaveKind .reference (.error "io error") (.new ∅)).2.Synced ∧
      ∀ sled', ((WatchOp.add identity).run aaveKind .reference sled' ((WatchOp.add identity).run
          aaveKind .reference (.error "io error") (.new ∅)).2).1 = .ok () ∧
        ¬ (WatchOp.add identity).OnDisk aaveKind .reference ((WatchOp.add identity).run
          aaveKind .reference sled' ((WatchOp.add identity).run aaveKind .reference
            (.error "io error") (.new ∅)).2).2 :=
  ⟨aaveKind.text .reference (.zero 20) (.zero 20),
    WatchOp.failedWrite (WatchList.synced_new ∅)
      ⟨.zero 20, .zero 20, ListKind.parse_text _ _, MultiMap.not_contains_empty⟩⟩

end LiqRanger
