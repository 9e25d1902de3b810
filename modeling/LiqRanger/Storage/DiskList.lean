import LiqRanger.Core.Word
import LiqRanger.Storage.Format
import LiqRanger.Watchlist.Shared

/-!
# Watchlists on bytes

A watchlist as it lies on disk: a tree of rows whose keys are the bytes of a borrower and whose
values are the bytes of a set. The calls that share such a list do on bytes what the calls of
`SharedList` do on sets (`DiskShared.Step.matched`), and a tree that they wrote loads, into the
sets that its rows stand for (`newWatchList_decodes`).
-/

namespace LiqRanger

/-! ### Trees -/

/-- A tree of `sled`: keys and values are bytes. -/
abbrev SledTree := Finmap fun _ : Bytes => Bytes

/-- An iteration over a tree: each row once. -/
structure SledTree.Iterates (rows : List (Bytes × Bytes)) (tree : SledTree) : Prop where
  nodup : (rows.map Prod.fst).Nodup
  lookup_iff : ∀ k v, tree.lookup k = some v ↔ (k, v) ∈ rows

/-- What `sled` answers when a tree is opened and iterated over. -/
structure TreeRead where
  opened : Except String Unit
  items : List (Except String (Bytes × Bytes))

namespace TreeRead

/-- The answers come from a tree: instead of a row there may be an error. -/
def Of (read : TreeRead) (tree : SledTree) : Prop :=
  ∃ rows, SledTree.Iterates rows tree ∧
    List.Forall₂ (fun item row => item = .ok row ∨ ∃ e, item = .error e) read.items rows

/-- The error is one of the answers. -/
def Says (read : TreeRead) (e : String) : Prop :=
  read.opened = .error e ∨ .error e ∈ read.items

/-- No answer is an error. -/
def Clean (read : TreeRead) : Prop := ∀ e, ¬ read.Says e

end TreeRead

lemma SledTree.exists_iterates (tree : SledTree) : ∃ rows, SledTree.Iterates rows tree := by
  induction tree using Finmap.induction_on with
  | H tree =>
    refine ⟨tree.entries.map fun row => (row.1, row.2), ?_, fun k v => ?_⟩
    · rw [List.map_map]
      exact tree.nodupKeys
    · rw [Finmap.lookup_toFinmap, ← Option.mem_def, AList.mem_lookup_iff, List.mem_map]
      constructor
      · exact fun hmem => ⟨_, hmem, rfl⟩
      · rintro ⟨row, hmem, ⟨⟩⟩
        exact hmem

/-- A tree can be read without an error. -/
lemma TreeRead.exists_clean (tree : SledTree) : ∃ read : TreeRead, read.Of tree ∧ read.Clean := by
  obtain ⟨rows, hrows⟩ := tree.exists_iterates
  refine ⟨⟨.ok (), rows.map .ok⟩, ⟨rows, hrows, ?_⟩, ?_⟩
  · rw [List.forall₂_map_left_iff]
    exact List.forall₂_same.mpr fun row _ => Or.inl rfl
  · rintro e (he | he)
    · cases he
    · obtain ⟨row, -, hrow⟩ := List.mem_map.mp he
      cases hrow

/-- The hash with the given bytes; another number of bytes is a panic. -/
def FixedHash.fromSlice (n : ℕ) (bs : Bytes) : Except Panic (FixedHash n) :=
  if h : bs.length = n then .ok ⟨bs, h⟩ else .error ⟨"assertion `left == right` failed"⟩

section
variable {κ : Type} [DecidableEq κ] (F : RowFormat κ)

/-- Load rows into the cache. -/
def loadRows : List (Except String (Bytes × Bytes)) → MultiMap Address κ →
    Except Panic (Except String (MultiMap Address κ))
  | [], cache => .ok (.ok cache)
  | .error e :: _, _ => .ok (.error e)
  | .ok (k, v) :: items, cache => do
    let borrower ← FixedHash.fromSlice 20 k
    match F.deserialize v with
    | .error e => .ok (.error e)
    | .ok set => loadRows items (cache.insert borrower set)

/-- The cache of a list opened on what `sled` answers. -/
def newWatchList (read : TreeRead) : Except Panic (Except String (MultiMap Address κ)) :=
  match read.opened with
  | .error e => .ok (.error e)
  | .ok () => loadRows F read.items ∅

/-! ### Calls -/

/-- What is left to do of a call; what was captured is bytes. -/
inductive DiskCall (κ : Type) where
  | insertPair (borrower : Address) (x : κ)
  | removePair (borrower : Address) (x : κ)
  | removeIfEmpty (borrower : Address)
  | capture (borrower : Address)
  | write (borrower : Address) (encoded : Option Bytes)
  | done (result : Except String Unit)

structure DiskList (κ : Type) where
  cache : MultiMap Address κ
  tree : SledTree

namespace DiskCall

def ofAdd (K : ListKind κ) (T : EthersText) (identity : Text) : DiskCall κ :=
  match K.parse T identity with
  | some (borrower, x) => .insertPair borrower x
  | none => .done (.ok ())

def ofRemove (K : ListKind κ) (T : EthersText) (identity : Text) : DiskCall κ :=
  match K.parse T identity with
  | some (borrower, x) => .removePair borrower x
  | none => .done (.ok ())

/-- The write of a captured row: its bytes, or its removal when the cache had none. -/
def applyEncoded (borrower : Address) (encoded : Option Bytes) (tree : SledTree) : SledTree :=
  match encoded with
  | some bytes => tree.insert borrower.bytes bytes
  | none => tree.erase borrower.bytes

/-- The next move; `sled` is whether a write applies, and `visited` is the set that is captured, as
an iteration visits it. -/
def step (sled : Except String Unit) (visited : List κ) (call : DiskCall κ) (d : DiskList κ) :
    DiskCall κ × DiskList κ :=
  match call with
  | .insertPair borrower x =>
    let (cache, wasInserted) := d.cache.insertPair borrower x
    (if wasInserted then .capture borrower else .done (.ok ()), { d with cache := cache })
  | .removePair borrower x =>
    let (cache, wasRemoved, shouldDeleteKey) := d.cache.removePair borrower x
    (if wasRemoved then
      if shouldDeleteKey then .removeIfEmpty borrower else .capture borrower
    else .done (.ok ()), { d with cache := cache })
  | .removeIfEmpty borrower =>
    (.capture borrower, { d with cache := d.cache.removeIfEmpty borrower })
  | .capture borrower =>
    (.write borrower ((d.cache.lookup borrower).map fun _ => F.serialize visited), d)
  | .write borrower encoded =>
    match sled with
    | .ok () => (.done (.ok ()), { d with tree := applyEncoded borrower encoded d.tree })
    | .error e => (.done (.error e), d)
  | .done result => (.done result, d)

/-- The list is an iteration over the set that the next move captures. Its length is a machine
word. -/
def Visits (visited : List κ) (call : DiskCall κ) (d : DiskList κ) : Prop :=
  ∀ borrower set, call = .capture borrower → d.cache.lookup borrower = some set →
    visited.Nodup ∧ visited.toFinset = set ∧ visited.length < 2 ^ 64

end DiskCall

/-- A list on disk and the calls that share it. -/
structure DiskShared (κ ι : Type) where
  list : DiskList κ
  calls : ι → DiskCall κ

variable {ι : Type} [DecidableEq ι]

/-- A call moves, or a place that is free gets a new call. -/
inductive DiskShared.Step (K : ListKind κ) (T : EthersText) :
    DiskShared κ ι → DiskShared κ ι → Prop where
  | move (s : DiskShared κ ι) (i : ι) (sled : Except String Unit) (visited : List κ)
      (hvisits : DiskCall.Visits visited (s.calls i) s.list) :
      Step K T s
        { list := ((s.calls i).step F sled visited s.list).2
          calls := Function.update s.calls i ((s.calls i).step F sled visited s.list).1 }
  | add (s : DiskShared κ ι) (i : ι) (identity : Text) (result : Except String Unit)
      (hdone : s.calls i = .done result) :
      Step K T s { s with calls := Function.update s.calls i (.ofAdd K T identity) }
  | remove (s : DiskShared κ ι) (i : ι) (identity : Text) (result : Except String Unit)
      (hdone : s.calls i = .done result) :
      Step K T s { s with calls := Function.update s.calls i (.ofRemove K T identity) }

/-- The same for the calls that work on sets. -/
inductive SharedList.Step (K : ListKind κ) (T : EthersText) :
    SharedList κ ι → SharedList κ ι → Prop where
  | move (s : SharedList κ ι) (turn : ι × Except String Unit) : Step K T s (s.move turn)
  | add (s : SharedList κ ι) (i : ι) (identity : Text) (result : Except String Unit)
      (hdone : s.calls i = .done result) :
      Step K T s { s with calls := Function.update s.calls i (.ofAdd K T identity) }
  | remove (s : SharedList κ ι) (i : ι) (identity : Text) (result : Except String Unit)
      (hdone : s.calls i = .done result) :
      Step K T s { s with calls := Function.update s.calls i (.ofRemove K T identity) }

end

/-! ### Rows -/

section
variable {κ : Type} [DecidableEq κ] (F : RowFormat κ)

/-- The bytes of a row read as its set, and where there is no row there is no set. -/
abbrev RowFormat.Reads : Option Bytes → Option (Finset κ) → Prop :=
  Option.Rel fun bytes set => F.deserialize bytes = .ok set

/-- Every key is that of a borrower, and every row reads as its set. -/
structure Decodes (tree : SledTree) (rows : MultiMap Address κ) : Prop where
  length_key : ∀ k ∈ tree, k.length = 20
  reads : ∀ b : Address, F.Reads (tree.lookup b.bytes) (rows.lookup b)

variable {F} {tree : SledTree} {rows : MultiMap Address κ} {b borrower : Address}
  {encoded : Option Bytes} {row : Option (Finset κ)} {visited : List κ}

lemma decodes_empty : Decodes F ∅ (∅ : MultiMap Address κ) where
  length_key k hk := absurd hk Finmap.notMem_empty
  reads b := by
    rw [Finmap.lookup_empty, Finmap.lookup_empty]
    exact .none

/-- What is captured of a set reads as that set. -/
lemma reads_serialize {set : Finset κ}
    (h : visited.Nodup ∧ visited.toFinset = set ∧ visited.length < 2 ^ 64) :
    F.deserialize (F.serialize visited) = .ok set := by
  rw [F.deserialize_serialize visited h.1 h.2.2, h.2.1]

lemma lookup_applyEncoded_self (tree : SledTree) :
    (DiskCall.applyEncoded b encoded tree).lookup b.bytes = encoded := by
  cases encoded with
  | none => exact Finmap.lookup_erase _ _
  | some bytes => exact Finmap.lookup_insert _

lemma lookup_applyEncoded_of_ne (h : b ≠ borrower) (tree : SledTree) :
    (DiskCall.applyEncoded borrower encoded tree).lookup b.bytes = tree.lookup b.bytes := by
  have hne : b.bytes ≠ borrower.bytes := fun hbytes => h (FixedHash.ext hbytes)
  cases encoded with
  | none => exact Finmap.lookup_erase_ne hne
  | some bytes => exact Finmap.lookup_insert_of_ne _ hne

/-- Writing the bytes of a row does to the tree what writing its set does to the rows. -/
theorem Decodes.applyEncoded (h : Decodes F tree rows) (hrow : F.Reads encoded row) :
    Decodes F (DiskCall.applyEncoded borrower encoded tree)
      (WatchList.applyWrite borrower row rows) where
  length_key k hk := by
    cases encoded with
    | none => exact h.length_key k (Finmap.mem_erase.mp hk).2
    | some bytes =>
      rcases Finmap.mem_insert.mp hk with rfl | hk
      · exact borrower.length_bytes
      · exact h.length_key k hk
  reads b := by
    by_cases hb : b = borrower
    · subst hb
      rw [lookup_applyEncoded_self, WatchList.lookup_applyWrite_self]
      exact hrow
    · rw [lookup_applyEncoded_of_ne hb, WatchList.lookup_applyWrite_of_ne hb]
      exact h.reads b

/-! ### Loading -/

lemma fromSlice_bytes {n : ℕ} (h : FixedHash n) : FixedHash.fromSlice n h.bytes = .ok h := by
  rw [FixedHash.fromSlice, dif_pos h.length_bytes]

/-- Rows that read, loaded into a cache, where an error of `sled` may take the place of a row: the
first error ends it; without one every row gives the set of its borrower. -/
lemma loadRows_cases {read : List (Bytes × Bytes)} {items : List (Except String (Bytes × Bytes))}
    (hitems : List.Forall₂ (fun item row => item = .ok row ∨ ∃ e, item = .error e) items read)
    (hnodup : (read.map Prod.fst).Nodup)
    (hreads : ∀ row ∈ read, ∃ (b : Address) (set : Finset κ),
      row.1 = b.bytes ∧ F.deserialize row.2 = .ok set) (cache : MultiMap Address κ) :
    (∃ e, .error e ∈ items ∧ loadRows F items cache = .ok (.error e)) ∨
    ∃ loaded : MultiMap Address κ, loadRows F items cache = .ok (.ok loaded) ∧
      (∀ (b : Address) v set, (b.bytes, v) ∈ read → F.deserialize v = .ok set →
        loaded.lookup b = some set) ∧
      ∀ b : Address, b.bytes ∉ read.map Prod.fst → loaded.lookup b = cache.lookup b := by
  induction hitems generalizing cache with
  | nil =>
    refine Or.inr ⟨cache, rfl, ?_, fun _ _ => rfl⟩
    intro b v set hmem
    cases hmem
  | @cons item row items read hitem _ ih =>
    rcases hitem with rfl | ⟨e, rfl⟩
    · obtain ⟨k, v⟩ := row
      obtain ⟨hk, hnodup'⟩ := List.nodup_cons.mp hnodup
      obtain ⟨b, set, hb, hset⟩ := hreads (k, v) List.mem_cons_self
      obtain rfl : k = b.bytes := hb
      have hload : loadRows F (.ok (b.bytes, v) :: items) cache
          = loadRows F items (cache.insert b set) := by
        rw [loadRows, fromSlice_bytes]
        simp only [hset, bind, Except.bind]
      rw [hload]
      rcases ih hnodup' (fun row hrow => hreads row (List.mem_cons_of_mem _ hrow))
        (cache.insert b set) with ⟨e, he, hfail⟩ | ⟨loaded, hloaded, hrows, hrest⟩
      · exact Or.inl ⟨e, List.mem_cons_of_mem _ he, hfail⟩
      · refine Or.inr ⟨loaded, hloaded, ?_, ?_⟩
        · intro b' v' set' hmem hset'
          rcases List.mem_cons.mp hmem with heq | hmem
          · obtain ⟨hbytes, rfl⟩ := Prod.mk.inj heq
            obtain rfl : b' = b := FixedHash.ext hbytes
            rw [hrest b' hk, Finmap.lookup_insert]
            rw [hset] at hset'
            cases hset'
            rfl
          · exact hrows b' v' set' hmem hset'
        · intro b' hb'
          simp only [List.map_cons, List.mem_cons, not_or] at hb'
          rw [hrest b' hb'.2, Finmap.lookup_insert_of_ne]
          rintro rfl
          exact hb'.1 rfl
    · exact Or.inl ⟨e, List.mem_cons_self, rfl⟩

/-- A list opened on a tree loads the sets that the rows stand for, or fails with an error of
`sled`. It does not panic. -/
theorem newWatchList_decodes {read : TreeRead} (h : Decodes F tree rows) (hread : read.Of tree) :
    (∃ e, read.Says e ∧ newWatchList F read = .ok (.error e)) ∨
      newWatchList F read = .ok (.ok rows) := by
  obtain ⟨read, hiterates, hitems⟩ := hread
  rw [newWatchList]
  split
  · next e hopened => exact Or.inl ⟨e, Or.inl hopened, rfl⟩
  · have hreads : ∀ row ∈ read, ∃ (b : Address) (set : Finset κ),
        row.1 = b.bytes ∧ F.deserialize row.2 = .ok set := by
      rintro ⟨k, v⟩ hrow
      have hlookup := (hiterates.lookup_iff k v).mpr hrow
      have hlength := h.length_key k (Finmap.mem_of_lookup_eq_some hlookup)
      have hrel := h.reads ⟨k, hlength⟩
      rw [hlookup] at hrel
      generalize rows.lookup ⟨k, hlength⟩ = row at hrel
      cases hrel with
      | some hset => exact ⟨⟨k, hlength⟩, _, rfl, hset⟩
    rcases loadRows_cases hitems hiterates.nodup hreads ∅ with
      ⟨e, he, hfail⟩ | ⟨loaded, hloaded, hrows, hrest⟩
    · exact Or.inl ⟨e, Or.inr he, hfail⟩
    · refine Or.inr ?_
      rw [hloaded]
      congr 2
      apply Finmap.ext_lookup
      intro b
      have hrel := h.reads b
      cases hv : tree.lookup b.bytes with
      | none =>
        rw [hv] at hrel
        generalize rows.lookup b = row at hrel
        cases hrel with
        | none =>
          rw [hrest b, Finmap.lookup_empty]
          intro hmem
          obtain ⟨⟨k, v⟩, hrow, rfl⟩ := List.mem_map.mp hmem
          rw [(hiterates.lookup_iff _ v).mpr hrow] at hv
          cases hv
      | some v =>
        rw [hv] at hrel
        generalize rows.lookup b = row at hrel
        cases hrel with
        | some hset => exact hrows b v _ ((hiterates.lookup_iff _ v).mp hv) hset

/-! ### Bytes and sets -/

variable (F) in
/-- A call on bytes is at the same place as a call on sets. -/
inductive DiskCall.Matches : DiskCall κ → WatchCall κ → Prop where
  | insertPair (borrower : Address) (x : κ) :
      Matches (.insertPair borrower x) (.insertPair borrower x)
  | removePair (borrower : Address) (x : κ) :
      Matches (.removePair borrower x) (.removePair borrower x)
  | removeIfEmpty (borrower : Address) : Matches (.removeIfEmpty borrower) (.removeIfEmpty borrower)
  | capture (borrower : Address) : Matches (.capture borrower) (.capture borrower)
  | write (borrower : Address) {encoded : Option Bytes} {row : Option (Finset κ)}
      (hrow : F.Reads encoded row) : Matches (.write borrower encoded) (.write borrower row)
  | done (result : Except String Unit) : Matches (.done result) (.done result)

variable (F) in
/-- The cache is the same, and the tree stands for the rows. -/
structure DiskList.Represents (d : DiskList κ) (w : WatchList κ) : Prop where
  cache_eq : d.cache = w.cache
  decodes : Decodes F d.tree w.rows

lemma DiskCall.matches_ofAdd (K : ListKind κ) (T : EthersText) (identity : Text) :
    Matches F (.ofAdd K T identity) (.ofAdd K T identity) := by
  rw [DiskCall.ofAdd, WatchCall.ofAdd]
  cases K.parse T identity with
  | none => exact .done _
  | some pair => exact .insertPair _ _

lemma DiskCall.matches_ofRemove (K : ListKind κ) (T : EthersText) (identity : Text) :
    Matches F (.ofRemove K T identity) (.ofRemove K T identity) := by
  rw [DiskCall.ofRemove, WatchCall.ofRemove]
  cases K.parse T identity with
  | none => exact .done _
  | some pair => exact .removePair _ _

/-- A move on bytes does what the move on sets does. -/
theorem DiskCall.Matches.step {call : DiskCall κ} {call' : WatchCall κ} {d : DiskList κ}
    {w : WatchList κ} (sled : Except String Unit) (hcall : Matches F call call')
    (hlist : d.Represents F w) (hvisits : DiskCall.Visits visited call d) :
    Matches F (call.step F sled visited d).1 (call'.step sled w).1 ∧
      (call.step F sled visited d).2.Represents F (call'.step sled w).2 := by
  obtain ⟨cache, tree⟩ := d
  obtain ⟨_, rows⟩ := w
  obtain ⟨rfl, hdecodes⟩ := hlist
  cases hcall with
  | insertPair borrower x =>
    refine ⟨?_, rfl, hdecodes⟩
    simp only [DiskCall.step, WatchCall.step]
    split
    · exact .capture borrower
    · exact .done _
  | removePair borrower x =>
    refine ⟨?_, rfl, hdecodes⟩
    simp only [DiskCall.step, WatchCall.step]
    split
    · split
      · exact .removeIfEmpty borrower
      · exact .capture borrower
    · exact .done _
  | removeIfEmpty borrower => exact ⟨.capture borrower, rfl, hdecodes⟩
  | capture borrower =>
    refine ⟨.write borrower ?_, rfl, hdecodes⟩
    cases hset : cache.lookup borrower with
    | none => exact .none
    | some set => exact .some (reads_serialize (hvisits borrower set rfl hset))
  | write borrower hrow =>
    cases sled with
    | ok => exact ⟨.done _, rfl, hdecodes.applyEncoded hrow⟩
    | error e => exact ⟨.done _, rfl, hdecodes⟩
  | done result => exact ⟨.done result, rfl, hdecodes⟩

variable {ι : Type} [DecidableEq ι] {K : ListKind κ} {T : EthersText}

variable (F) in
/-- The lists agree, and so do the calls at every place. -/
structure DiskShared.Represents (s : DiskShared κ ι) (m : SharedList κ ι) : Prop where
  list : s.list.Represents F m.list
  calls : ∀ i, DiskCall.Matches F (s.calls i) (m.calls i)

omit [DecidableEq κ] in
/-- Calls that agree everywhere still do when they are replaced at one place by calls that agree. -/
lemma matches_update {P : DiskCall κ → WatchCall κ → Prop} {calls : ι → DiskCall κ}
    {calls' : ι → WatchCall κ} (h : ∀ i, P (calls i) (calls' i)) (i : ι) {call : DiskCall κ}
    {call' : WatchCall κ} (hcall : P call call') (j : ι) :
    P (Function.update calls i call j) (Function.update calls' i call' j) := by
  by_cases hj : j = i
  · subst hj
    simpa using hcall
  · simpa [hj] using h j

/-- Every step on bytes is met by the step on sets. -/
theorem DiskShared.Step.matched {s s' : DiskShared κ ι} {m : SharedList κ ι}
    (hstep : DiskShared.Step F K T s s') (h : s.Represents F m) :
    ∃ m', SharedList.Step K T m m' ∧ s'.Represents F m' := by
  cases hstep with
  | move i sled visited hvisits =>
    obtain ⟨hcall, hlist⟩ := (h.calls i).step sled h.list hvisits
    exact ⟨_, .move m (i, sled), hlist, matches_update h.calls i hcall⟩
  | add i identity result hdone =>
    have hmatch := h.calls i
    rw [hdone] at hmatch
    generalize hcall : m.calls i = call at hmatch
    cases hmatch with
    | done =>
      exact ⟨_, .add m i identity result hcall, h.list,
        matches_update h.calls i (DiskCall.matches_ofAdd K T identity)⟩
  | remove i identity result hdone =>
    have hmatch := h.calls i
    rw [hdone] at hmatch
    generalize hcall : m.calls i = call at hmatch
    cases hmatch with
    | done =>
      exact ⟨_, .remove m i identity result hcall, h.list,
        matches_update h.calls i (DiskCall.matches_ofRemove K T identity)⟩

end

end LiqRanger
