import LiqRanger.Core.Identity
import LiqRanger.Watchlist.MultiMap

/-!
# Watchlists

A watchlist keeps its positions twice: in a cache that answers every question, and in rows on
disk that the cache is loaded from. The Aave list and the Morpho list are one program over two
kinds of identity. A row is taken as the set it decodes to.
-/

namespace LiqRanger

/-- Which identities a list tracks, as pairs of a borrower and a reserve or market. -/
structure ListKind (κ : Type) where
  identity : Address → κ → TrackerIdentity
  pairOf : TrackerIdentity → Option (Address × κ)
  pairOf_eq_some_iff : ∀ id borrower x, pairOf id = some (borrower, x) ↔ id = identity borrower x

def aaveKind : ListKind Address where
  identity borrower reserve := .aaveV3 borrower reserve
  pairOf
    | .aaveV3 borrower reserve => some (borrower, reserve)
    | _ => none
  pairOf_eq_some_iff id borrower reserve := by cases id <;> simp

def morphoKind : ListKind H256 where
  identity borrower marketId := .morphoBlue marketId borrower
  pairOf
    | .morphoBlue marketId borrower => some (borrower, marketId)
    | _ => none
  pairOf_eq_some_iff id borrower marketId := by cases id <;> simp [and_comm]

variable {κ : Type} (K : ListKind κ) (T : EthersText)

/-- The pair a text stands for, if it is an identity of this kind. -/
def ListKind.parse (s : Text) : Option (Address × κ) :=
  match TrackerIdentity.fromStr T s with
  | .ok id => K.pairOf id
  | .error _ => none

/-- The text of a pair. -/
def ListKind.text (borrower : Address) (x : κ) : Text := (K.identity borrower x).toStringId T

structure WatchList (κ : Type) where
  cache : MultiMap Address κ
  rows : MultiMap Address κ

abbrev AaveWatchList := WatchList Address

abbrev MorphoWatchList := WatchList H256

namespace WatchList

/-- A list opened on its rows. -/
def new (rows : MultiMap Address κ) : WatchList κ := ⟨rows, rows⟩

variable [DecidableEq κ]

def contains (w : WatchList κ) (borrower : Address) (x : κ) : Bool := w.cache.contains borrower x

def containsIdentity (w : WatchList κ) (identity : Text) : Bool :=
  match K.parse T identity with
  | some (borrower, x) => w.contains borrower x
  | none => false

/-- The write of a captured row: the set, or its removal when the cache had none. -/
def applyWrite (borrower : Address) (captured : Option (Finset κ)) (rows : MultiMap Address κ) :
    MultiMap Address κ :=
  match captured with
  | some set => rows.insert borrower set
  | none => rows.erase borrower

/-- Write the row of a borrower as the cache has it; `sled` is whether the write applies. -/
def persist (sled : Except String Unit) (borrower : Address) (w : WatchList κ) :
    Except String Unit × WatchList κ :=
  match sled with
  | .ok () => (.ok (), { w with rows := applyWrite borrower (w.cache.lookup borrower) w.rows })
  | .error e => (.error e, w)

/-- Track an identity. A text of another kind, or of none, is ignored. -/
def add (sled : Except String Unit) (identity : Text) (w : WatchList κ) :
    Except String Unit × WatchList κ :=
  match K.parse T identity with
  | some (borrower, x) =>
    let (cache, wasInserted) := w.cache.insertPair borrower x
    if !wasInserted then (.ok (), { w with cache := cache })
    else persist sled borrower { w with cache := cache }
  | none => (.ok (), w)

/-- Stop tracking an identity. A text of another kind, or of none, is ignored. -/
def remove (sled : Except String Unit) (identity : Text) (w : WatchList κ) :
    Except String Unit × WatchList κ :=
  match K.parse T identity with
  | some (borrower, x) =>
    let (cache, wasRemoved, shouldDeleteKey) := w.cache.removePair borrower x
    if wasRemoved then
      persist sled borrower
        { w with cache := if shouldDeleteKey then cache.removeIfEmpty borrower else cache }
    else (.ok (), { w with cache := cache })
  | none => (.ok (), w)

end WatchList

/-! ### Snapshots -/

/-- The cache in the order an iteration visits it: each borrower once, with its set. -/
structure Visits (entries : List (Address × List κ)) (cache : MultiMap Address κ) [DecidableEq κ] :
    Prop where
  nodup : (entries.map Prod.fst).Nodup
  sets_nodup : ∀ entry ∈ entries, entry.2.Nodup
  lookup_iff : ∀ borrower set,
    cache.lookup borrower = some set ↔ ∃ l, (borrower, l) ∈ entries ∧ l.toFinset = set

/-- One representative for each borrower. -/
def AaveWatchList.snapshot (entries : List (Address × List Address)) : List Text :=
  entries.filterMap fun entry => entry.2.head?.map fun reserve => aaveKind.text T entry.1 reserve

/-- Every position. -/
def MorphoWatchList.snapshot (entries : List (Address × List H256)) : List Text :=
  entries.flatMap fun entry => entry.2.map fun marketId => morphoKind.text T entry.1 marketId

/-! ### Texts and pairs -/

section
variable {K T}

/-- The text of a pair stands for that pair. -/
@[simp] lemma ListKind.parse_text (borrower : Address) (x : κ) :
    K.parse T (K.text T borrower x) = some (borrower, x) := by
  rw [ListKind.parse, ListKind.text, TrackerIdentity.fromStr_toStringId]
  exact (K.pairOf_eq_some_iff _ _ _).mpr rfl

/-- The debug text of an address pair is the text of the Aave identity. -/
lemma aaveKind_text_debug (borrower reserve : Address) :
    joinColon ["aave".toList, T.address.debug borrower, T.address.debug reserve]
      = aaveKind.text T borrower reserve := by
  rw [T.address.debug_eq, T.address.debug_eq, ListKind.text, aaveKind,
    TrackerIdentity.toStringId, T.address.lowerHex_eq, T.address.lowerHex_eq]

/-- The Morpho text with the borrower in front stands for nothing. -/
lemma morphoKind_parse_swapped (borrower : Address) (marketId : H256) :
    morphoKind.parse T (joinColon ["morpho".toList, T.address.debug borrower,
      T.h256.debug marketId]) = none := by
  rw [ListKind.parse, TrackerIdentity.fromStr_morpho_swapped]

end

/-! ### What the operations do -/

namespace WatchList

section
variable {K T} [DecidableEq κ] {w : WatchList κ} {sled : Except String Unit} {identity : Text}
  {borrower b : Address} {x y : κ}

lemma containsIdentity_of_parse (h : K.parse T identity = some (borrower, x)) :
    w.containsIdentity K T identity = w.contains borrower x := by
  rw [containsIdentity, h]

/-- Adding a text that stands for nothing changes nothing. -/
lemma add_of_parse_none (h : K.parse T identity = none) :
    w.add K T sled identity = (.ok (), w) := by
  rw [add, h]

lemma containsIdentity_of_parse_none (h : K.parse T identity = none) :
    w.containsIdentity K T identity = false := by
  rw [containsIdentity, h]

omit [DecidableEq κ] in
lemma cache_persist : (w.persist sled borrower).2.cache = w.cache := by
  cases sled <;> rfl

omit [DecidableEq κ] in
lemma lookup_applyWrite_self {row : Option (Finset κ)} (rows : MultiMap Address κ) :
    (applyWrite b row rows).lookup b = row := by
  cases row with
  | none => exact Finmap.lookup_erase b rows
  | some set => exact Finmap.lookup_insert rows

omit [DecidableEq κ] in
lemma lookup_applyWrite_of_ne {row : Option (Finset κ)} (h : b ≠ borrower)
    (rows : MultiMap Address κ) : (applyWrite borrower row rows).lookup b = rows.lookup b := by
  cases row with
  | none => exact Finmap.lookup_erase_ne h
  | some set => exact Finmap.lookup_insert_of_ne rows h

/-- Whether or not the write applies, adding puts the pair in the cache. -/
theorem cache_add (h : K.parse T identity = some (borrower, x)) :
    (w.add K T sled identity).2.cache = (w.cache.insertPair borrower x).1 := by
  simp only [add, h]
  by_cases hins : (w.cache.insertPair borrower x).2
  · simp only [hins, Bool.not_true, Bool.false_eq_true, if_false, cache_persist]
  · simp only [hins, Bool.not_false, if_true]

theorem contains_add (h : K.parse T identity = some (borrower, x)) :
    (w.add K T sled identity).2.contains b y = true ↔
      (b = borrower ∧ y = x) ∨ w.contains b y = true := by
  rw [contains, cache_add h, MultiMap.contains_insertPair, contains]

/-- Whether or not the write applies, removing takes the pair out of the cache. -/
theorem cache_remove (h : K.parse T identity = some (borrower, x)) :
    (w.remove K T sled identity).2.cache = w.cache.dropPair borrower x := by
  by_cases hmem : w.cache.contains borrower x
  · have hflag : (w.cache.removePair borrower x).2.1 = true := by
      rw [MultiMap.removePair_flag, hmem]
    simp only [remove, h, hflag, if_true, cache_persist, MultiMap.dropPair]
  · rw [Bool.not_eq_true] at hmem
    simp only [remove, h, MultiMap.removePair_of_not_contains hmem,
      MultiMap.dropPair_of_not_contains hmem, Bool.false_eq_true, if_false]

theorem contains_remove (h : K.parse T identity = some (borrower, x)) :
    (w.remove K T sled identity).2.contains b y = true ↔
      ¬ (b = borrower ∧ y = x) ∧ w.contains b y = true := by
  rw [contains, cache_remove h, MultiMap.contains_dropPair, contains]

/-- Removing a text that stands for nothing changes nothing. -/
lemma remove_of_parse_none (h : K.parse T identity = none) :
    w.remove K T sled identity = (.ok (), w) := by
  rw [remove, h]

/-- An addition changes nothing, or inserts a pair and writes its row. -/
lemma add_cases (K : ListKind κ) (T : EthersText) (sled : Except String Unit) (identity : Text)
    (w : WatchList κ) :
    w.add K T sled identity = (.ok (), w) ∨ ∃ borrower x, w.add K T sled identity
      = persist sled borrower { w with cache := (w.cache.insertPair borrower x).1 } := by
  cases hparse : K.parse T identity with
  | none => exact Or.inl (add_of_parse_none hparse)
  | some pair =>
    obtain ⟨borrower, x⟩ := pair
    by_cases hmem : w.cache.contains borrower x
    · simp [add, hparse, MultiMap.insertPair_of_contains hmem]
    · have hflag : (w.cache.insertPair borrower x).2 = true := by
        rw [MultiMap.insertPair_flag, Bool.eq_false_iff.mpr hmem]
        rfl
      exact Or.inr ⟨borrower, x, by simp [add, hparse, hflag]⟩

/-- A removal changes nothing, or drops a pair and writes its row. -/
lemma remove_cases (K : ListKind κ) (T : EthersText) (sled : Except String Unit) (identity : Text)
    (w : WatchList κ) :
    w.remove K T sled identity = (.ok (), w) ∨ ∃ borrower x, w.remove K T sled identity
      = persist sled borrower { w with cache := w.cache.dropPair borrower x } := by
  cases hparse : K.parse T identity with
  | none => exact Or.inl (remove_of_parse_none hparse)
  | some pair =>
    obtain ⟨borrower, x⟩ := pair
    by_cases hmem : w.cache.contains borrower x
    · have hflag : (w.cache.removePair borrower x).2.1 = true := by
        rw [MultiMap.removePair_flag, hmem]
      exact Or.inr ⟨borrower, x, by simp [remove, hparse, hflag, MultiMap.dropPair]⟩
    · rw [Bool.not_eq_true] at hmem
      simp [remove, hparse, MultiMap.removePair_of_not_contains hmem]

/-! ### Cache and rows -/

/-- The cache holds what the rows hold. -/
def Synced (w : WatchList κ) : Prop := w.cache = w.rows

omit [DecidableEq κ] in
lemma synced_new (rows : MultiMap Address κ) : (new rows).Synced := rfl

omit [DecidableEq κ] in
/-- Writing the row of a borrower makes the rows the cache if they agree on all other borrowers. -/
lemma synced_persist (h : ∀ b, b ≠ borrower → w.rows.lookup b = w.cache.lookup b) :
    (w.persist (.ok ()) borrower).2.Synced := by
  rw [Synced, cache_persist]
  apply Finmap.ext_lookup
  intro b
  by_cases hb : b = borrower
  · rw [hb]
    exact (lookup_applyWrite_self w.rows).symm
  · rw [← h b hb]
    exact (lookup_applyWrite_of_ne hb w.rows).symm

/-- A successful addition keeps the cache and the rows the same. -/
theorem Synced.add (h : w.Synced) (hok : (w.add K T sled identity).1 = .ok ()) :
    (w.add K T sled identity).2.Synced := by
  rcases add_cases K T sled identity w with hadd | ⟨borrower, x, hadd⟩
  · rw [hadd]
    exact h
  · rw [hadd] at hok ⊢
    cases sled with
    | error e => cases hok
    | ok =>
      refine synced_persist fun b hb => ?_
      rw [MultiMap.lookup_insertPair_of_ne hb, show w.cache = w.rows from h]

/-- A successful removal keeps the cache and the rows the same. -/
theorem Synced.remove (h : w.Synced) (hok : (w.remove K T sled identity).1 = .ok ()) :
    (w.remove K T sled identity).2.Synced := by
  rcases remove_cases K T sled identity w with hremove | ⟨borrower, x, hremove⟩
  · rw [hremove]
    exact h
  · rw [hremove] at hok ⊢
    cases sled with
    | error e => cases hok
    | ok =>
      refine synced_persist fun b hb => ?_
      rw [← show w.cache = w.rows from h]
      exact (MultiMap.lookup_dropPair_of_ne hb).symm

/-- A write that applies makes the addition succeed. -/
lemma add_ok : (w.add K T (.ok ()) identity).1 = .ok () := by
  rcases add_cases K T (.ok ()) identity w with hadd | ⟨borrower, x, hadd⟩ <;> rw [hadd]
  rfl

/-- A write that fails leaves the rows. -/
lemma rows_add_error {e : String} : (w.add K T (.error e) identity).2.rows = w.rows := by
  rcases add_cases K T (.error e) identity w with hadd | ⟨borrower, x, hadd⟩ <;> rw [hadd]
  rfl

/-- Adding loses no row, whether or not the write applies. -/
theorem rows_add (h : w.Synced) (hmem : w.rows.contains b y = true) :
    (w.add K T sled identity).2.rows.contains b y = true := by
  cases sled with
  | error e => rwa [rows_add_error]
  | ok =>
    rw [← show (w.add K T (.ok ()) identity).2.cache = _ from h.add add_ok]
    cases hparse : K.parse T identity with
    | none =>
      rw [add_of_parse_none hparse, show w.cache = w.rows from h]
      exact hmem
    | some pair =>
      refine (contains_add hparse).mpr (Or.inr ?_)
      rw [contains, show w.cache = w.rows from h]
      exact hmem

/-- After a successful addition the row of the pair is there. -/
theorem rows_add_self (h : w.Synced) (hparse : K.parse T identity = some (borrower, x))
    (hok : (w.add K T sled identity).1 = .ok ()) :
    (w.add K T sled identity).2.rows.contains borrower x = true := by
  rw [← show (w.add K T sled identity).2.cache = _ from h.add hok]
  exact (contains_add hparse).mpr (Or.inl ⟨rfl, rfl⟩)

end

end WatchList

end LiqRanger
