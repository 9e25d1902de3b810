import LiqRanger.Storage.DiskList
import LiqRanger.Transition.System

/-!
# The stores of the engine

One database on disk keeps both watchlists and the blocks the bootstraps came to. Whatever calls
run on the lists, in whatever order their moves come, however writes fail and wherever the process
is started again, the bytes stand for what the calls wrote, and the next start loads it
(`stores_refine`).
-/

namespace LiqRanger

open Transition

/-- A database of `sled`: trees by name. A tree that was never opened is empty. -/
abbrev SledDb := String → SledTree

def aaveTree : String := "aave:watchlist"

def morphoTree : String := "morpho:watchlist"

def stateTree : String := "bootstrap:state"

namespace BootstrapState

variable (B : Bincode)

def key (protocol : Protocol) : Bytes := B.serializeProtocol protocol

/-- `sled` is whether the tree can be read. -/
def loadFrom (sled : Except String Unit) (tree : SledTree) (protocol : Protocol) :
    Except String (Option U64) :=
  match sled with
  | .error e => .error e
  | .ok () =>
    match tree.lookup (key B protocol) with
    | some bytes => (B.deserializeBlock bytes).map some
    | none => .ok none

/-- `sled` is whether the write applies. -/
def saveTo (sled : Except String Unit) (tree : SledTree) (protocol : Protocol) (block : U64) :
    Except String Unit × SledTree :=
  match sled with
  | .error e => (.error e, tree)
  | .ok () => (.ok (), tree.insert (key B protocol) (B.serializeBlock block))

variable {B}

lemma loadFrom_saveTo (tree : SledTree) (protocol : Protocol) (block : U64) :
    loadFrom B (.ok ()) (saveTo B (.ok ()) tree protocol block).2 protocol = .ok (some block) := by
  simp only [loadFrom, saveTo, Finmap.lookup_insert, B.deserializeBlock_serializeBlock]
  rfl

end BootstrapState

/-- Open the stores: the caches of both lists. -/
def fetchWatchlists (B : Bincode) (aave morpho : TreeRead) (state : Except String Unit) :
    Except Panic (Except String (MultiMap Address Address × MultiMap Address H256)) := do
  match ← newWatchList B.aaveRow aave with
  | .error e => return .error e
  | .ok aaveCache =>
    match ← newWatchList B.morphoRow morpho with
    | .error e => return .error e
    | .ok morphoCache => return state.map fun _ => (aaveCache, morphoCache)

/-! ### The stores on bytes -/

/-- The database, and what the process has in memory. -/
structure Stores (ι : Type) where
  db : SledDb
  aaveCache : MultiMap Address Address
  aaveCalls : ι → DiskCall Address
  morphoCache : MultiMap Address H256
  morphoCalls : ι → DiskCall H256

namespace Stores

variable {ι : Type}

def aave (s : Stores ι) : DiskShared Address ι := ⟨⟨s.aaveCache, s.db aaveTree⟩, s.aaveCalls⟩

def morpho (s : Stores ι) : DiskShared H256 ι := ⟨⟨s.morphoCache, s.db morphoTree⟩, s.morphoCalls⟩

def putAave (s : Stores ι) (d : DiskShared Address ι) : Stores ι :=
  { s with
    aaveCache := d.list.cache
    aaveCalls := d.calls
    db := Function.update s.db aaveTree d.list.tree }

def putMorpho (s : Stores ι) (d : DiskShared H256 ι) : Stores ι :=
  { s with
    morphoCache := d.list.cache
    morphoCalls := d.calls
    db := Function.update s.db morphoTree d.list.tree }

def putState (s : Stores ι) (tree : SledTree) : Stores ι :=
  { s with db := Function.update s.db stateTree tree }

/-- A process that has opened its stores and called nothing yet. -/
def opened (db : SledDb) (aaveCache : MultiMap Address Address)
    (morphoCache : MultiMap Address H256) : Stores ι where
  db := db
  aaveCache := aaveCache
  aaveCalls _ := .done (.ok ())
  morphoCache := morphoCache
  morphoCalls _ := .done (.ok ())

/-- The first start. -/
def initial : Stores ι := opened (fun _ => ∅) ∅ ∅

variable [DecidableEq ι]

/-- A step of a call, a block that is saved, or a new process on the database that the writes
left. -/
inductive Step (B : Bincode) (T : EthersText) : Stores ι → Stores ι → Prop where
  | aave (s : Stores ι) (d : DiskShared Address ι)
      (hstep : DiskShared.Step B.aaveRow aaveKind T s.aave d) : Step B T s (s.putAave d)
  | morpho (s : Stores ι) (d : DiskShared H256 ι)
      (hstep : DiskShared.Step B.morphoRow morphoKind T s.morpho d) : Step B T s (s.putMorpho d)
  | save (s : Stores ι) (sled : Except String Unit) (protocol : Protocol) (block : U64) :
      Step B T s (s.putState (BootstrapState.saveTo B sled (s.db stateTree) protocol block).2)
  | restart (s : Stores ι) (aave morpho : TreeRead) (state : Except String Unit)
      (aaveCache : MultiMap Address Address) (morphoCache : MultiMap Address H256)
      (haave : aave.Of (s.db aaveTree)) (hmorpho : morpho.Of (s.db morphoTree))
      (hfetch : fetchWatchlists B aave morpho state = .ok (.ok (aaveCache, morphoCache))) :
      Step B T s (opened s.db aaveCache morphoCache)

end Stores

/-! ### What they stand for -/

/-- The lists with their rows as sets, and the block saved for each protocol. -/
structure Tracked (ι : Type) where
  aave : SharedList Address ι
  morpho : SharedList H256 ι
  saved : Protocol → Option U64

namespace Tracked

variable {ι : Type}

/-- Lists opened on their rows, without calls. -/
def opened (aaveRows : MultiMap Address Address) (morphoRows : MultiMap Address H256)
    (saved : Protocol → Option U64) : Tracked ι where
  aave := ⟨.new aaveRows, fun _ => .done (.ok ())⟩
  morpho := ⟨.new morphoRows, fun _ => .done (.ok ())⟩
  saved := saved

def initial : Tracked ι := opened ∅ ∅ fun _ => none

variable [DecidableEq ι]

inductive Step (T : EthersText) : Tracked ι → Tracked ι → Prop where
  | aave (m : Tracked ι) (list : SharedList Address ι)
      (hstep : SharedList.Step aaveKind T m.aave list) : Step T m { m with aave := list }
  | morpho (m : Tracked ι) (list : SharedList H256 ι)
      (hstep : SharedList.Step morphoKind T m.morpho list) : Step T m { m with morpho := list }
  | save (m : Tracked ι) (protocol : Protocol) (block : U64) :
      Step T m { m with saved := Function.update m.saved protocol (some block) }
  | restart (m : Tracked ι) :
      Step T m (opened m.aave.list.rows m.morpho.list.rows m.saved)

end Tracked

/-! ### Bytes and what they stand for -/

namespace Stores

variable {ι : Type} {B : Bincode} {T : EthersText} {s s' : Stores ι} {m : Tracked ι}

/-- The bytes of each tree stand for what the model keeps. -/
structure Represents (B : Bincode) (s : Stores ι) (m : Tracked ι) : Prop where
  aave : s.aave.Represents B.aaveRow m.aave
  morpho : s.morpho.Represents B.morphoRow m.morpho
  saved : ∀ protocol, Option.Rel (fun bytes block => B.deserializeBlock bytes = .ok block)
    ((s.db stateTree).lookup (BootstrapState.key B protocol)) (m.saved protocol)

/-- What a process finds that opens the stores now: the rows and the saved blocks, unless `sled`
answers with an error, and then that error. -/
structure Reloads (B : Bincode) (s : Stores ι) (m : Tracked ι) : Prop where
  lists : ∀ aave morpho state, aave.Of (s.db aaveTree) → morpho.Of (s.db morphoTree) →
    (∃ e, (aave.Says e ∨ morpho.Says e ∨ state = .error e) ∧
      fetchWatchlists B aave morpho state = .ok (.error e)) ∨
    fetchWatchlists B aave morpho state = .ok (.ok (m.aave.list.rows, m.morpho.list.rows))
  block : ∀ protocol, BootstrapState.loadFrom B (.ok ()) (s.db stateTree) protocol
    = .ok (m.saved protocol)

lemma represents_opened {db : SledDb} {aaveRows : MultiMap Address Address}
    {morphoRows : MultiMap Address H256} {saved : Protocol → Option U64}
    (haave : Decodes B.aaveRow (db aaveTree) aaveRows)
    (hmorpho : Decodes B.morphoRow (db morphoTree) morphoRows)
    (hsaved : ∀ protocol, Option.Rel (fun bytes block => B.deserializeBlock bytes = .ok block)
      ((db stateTree).lookup (BootstrapState.key B protocol)) (saved protocol)) :
    (opened db aaveRows morphoRows : Stores ι).Represents B
      (.opened aaveRows morphoRows saved) where
  aave := ⟨⟨rfl, haave⟩, fun _ => .done _⟩
  morpho := ⟨⟨rfl, hmorpho⟩, fun _ => .done _⟩
  saved := hsaved

lemma represents_initial : (initial : Stores ι).Represents B .initial := by
  refine represents_opened decodes_empty decodes_empty fun protocol => ?_
  rw [Finmap.lookup_empty]
  exact .none

theorem Represents.reloads (h : s.Represents B m) : s.Reloads B m where
  lists aave morpho state haave hmorpho := by
    rw [fetchWatchlists]
    rcases newWatchList_decodes h.aave.list.decodes haave with ⟨e, he, hnew⟩ | hnew
    · exact Or.inl ⟨e, Or.inl he, by rw [hnew]; rfl⟩
    · rw [hnew]
      rcases newWatchList_decodes h.morpho.list.decodes hmorpho with ⟨e, he, hnew'⟩ | hnew'
      · exact Or.inl ⟨e, Or.inr (Or.inl he), by rw [hnew']; rfl⟩
      · rw [hnew']
        cases state with
        | ok => exact Or.inr rfl
        | error e => exact Or.inl ⟨e, Or.inr (Or.inr rfl), rfl⟩
  block protocol := by
    have hrel := h.saved protocol
    rw [BootstrapState.loadFrom]
    cases hbytes : (s.db stateTree).lookup (BootstrapState.key B protocol) with
    | none =>
      rw [hbytes] at hrel
      generalize m.saved protocol = saved at hrel
      cases hrel
      rfl
    | some bytes =>
      rw [hbytes] at hrel
      generalize m.saved protocol = saved at hrel
      cases hrel with
      | some hblock =>
        simp only [hblock]
        rfl

/-! ### One tree at a time -/

@[simp] lemma aave_putAave (d : DiskShared Address ι) : (s.putAave d).aave = d := by
  simp [putAave, aave]

@[simp] lemma morpho_putMorpho (d : DiskShared H256 ι) : (s.putMorpho d).morpho = d := by
  simp [putMorpho, morpho]

@[simp] lemma putAave_aave : s.putAave s.aave = s := by
  simp [putAave, aave]

@[simp] lemma putAave_putAave (d d' : DiskShared Address ι) :
    (s.putAave d).putAave d' = s.putAave d' := by
  simp [putAave]

@[simp] lemma aave_putMorpho (d : DiskShared H256 ι) : (s.putMorpho d).aave = s.aave := by
  simp [putMorpho, aave, aaveTree, morphoTree]

@[simp] lemma morpho_putAave (d : DiskShared Address ι) : (s.putAave d).morpho = s.morpho := by
  simp [putAave, morpho, aaveTree, morphoTree]

@[simp] lemma aave_putState (tree : SledTree) : (s.putState tree).aave = s.aave := by
  simp [putState, aave, aaveTree, stateTree]

@[simp] lemma morpho_putState (tree : SledTree) : (s.putState tree).morpho = s.morpho := by
  simp [putState, morpho, morphoTree, stateTree]

@[simp] lemma db_putAave_stateTree (d : DiskShared Address ι) :
    (s.putAave d).db stateTree = s.db stateTree := by
  simp [putAave, aaveTree, stateTree]

@[simp] lemma db_putMorpho_stateTree (d : DiskShared H256 ι) :
    (s.putMorpho d).db stateTree = s.db stateTree := by
  simp [putMorpho, morphoTree, stateTree]

/-- A block that is saved is the one that is read back, and the other protocol keeps its own. -/
lemma Represents.save (h : s.Represents B m) (protocol : Protocol) (block : U64) :
    (s.putState (BootstrapState.saveTo B (.ok ()) (s.db stateTree) protocol block).2).Represents B
      { m with saved := Function.update m.saved protocol (some block) } where
  aave := by simpa using h.aave
  morpho := by simpa using h.morpho
  saved p := by
    simp only [putState, Function.update_self, BootstrapState.saveTo]
    by_cases hp : p = protocol
    · subst hp
      rw [Finmap.lookup_insert, Function.update_self]
      exact .some (B.deserializeBlock_serializeBlock block)
    · rw [Finmap.lookup_insert_of_ne, Function.update_of_ne hp]
      · exact h.saved p
      · exact fun hkey => hp (B.serializeProtocol_injective hkey)

variable [DecidableEq ι]

/-- Every step on bytes is met by steps of the model. -/
theorem simulates : Simulates (Step (ι := ι) B T) (Tracked.Step T) (Represents B) := by
  intro s s' m hstep h
  cases hstep with
  | aave d hstep =>
    obtain ⟨list, hlist, hrep⟩ := hstep.matched h.aave
    exact ⟨_, .single (.aave m list hlist), by simpa using hrep, by simpa using h.morpho,
      by simpa using h.saved⟩
  | morpho d hstep =>
    obtain ⟨list, hlist, hrep⟩ := hstep.matched h.morpho
    exact ⟨_, .single (.morpho m list hlist), by simpa using h.aave, by simpa using hrep,
      by simpa using h.saved⟩
  | save sled protocol block =>
    cases sled with
    | ok => exact ⟨_, .single (.save m protocol block), h.save protocol block⟩
    | error e =>
      refine ⟨m, .refl, ?_⟩
      have hsame : s.putState (s.db stateTree) = s := by simp [putState]
      rw [BootstrapState.saveTo, hsame]
      exact h
  | restart aave morpho state aaveCache morphoCache haave hmorpho hfetch =>
    refine ⟨_, .single (.restart m), ?_⟩
    rcases h.reloads.lists aave morpho state haave hmorpho with ⟨e, -, hfail⟩ | hload
    · rw [hfail] at hfetch
      cases hfetch
    · rw [hload] at hfetch
      cases hfetch
      exact represents_opened h.aave.list.decodes h.morpho.list.decodes h.saved

end Stores

namespace Stores

variable {ι : Type} [DecidableEq ι] {B : Bincode} {T : EthersText} {s : Stores ι} {m : Tracked ι}

/-- The calls on the Aave list run by themselves. -/
lemma run_aave {d : DiskShared Address ι}
    (hrun : Run (DiskShared.Step B.aaveRow aaveKind T) s.aave d) :
    Run (Step B T) s (s.putAave d) := by
  induction hrun with
  | refl => rw [putAave_aave]
  | @tail d₁ d₂ _ hstep ih =>
    have hstep' : DiskShared.Step B.aaveRow aaveKind T (s.putAave d₁).aave d₂ := by
      rwa [aave_putAave]
    have hput := Step.aave (s.putAave d₁) d₂ hstep'
    rw [putAave_putAave] at hput
    exact ih.tail hput

/-- A process can always end, and a new one open the stores. -/
lemma Represents.exists_restart (h : s.Represents B m) :
    Step B T s (opened s.db m.aave.list.rows m.morpho.list.rows) := by
  obtain ⟨aave, haave, hclean⟩ := TreeRead.exists_clean (s.db aaveTree)
  obtain ⟨morpho, hmorpho, hclean'⟩ := TreeRead.exists_clean (s.db morphoTree)
  refine .restart s aave morpho (.ok ()) _ _ haave hmorpho ?_
  rcases h.reloads.lists aave morpho (.ok ()) haave hmorpho with ⟨e, he | he | he, -⟩ | hload
  · exact absurd he (hclean e)
  · exact absurd he (hclean' e)
  · cases he
  · exact hload

/-- The first addition to a list comes to its row. -/
lemma exists_sampleAdded (B : Bincode) (T : EthersText) : ∃ d : DiskShared Address Unit,
    Run (DiskShared.Step B.aaveRow aaveKind T) ⟨⟨∅, ∅⟩, fun _ => .done (.ok ())⟩ d ∧
      d.list.tree.lookup (FixedHash.zero 20).bytes = some (B.aaveRow.serialize [.zero 20]) := by
  have hmove (call : DiskCall Address) (visited : List Address) (d : DiskList Address)
      (hvisits : DiskCall.Visits visited call d) :
      DiskShared.Step B.aaveRow aaveKind T ⟨d, fun _ : Unit => call⟩
        ⟨(call.step B.aaveRow (.ok ()) visited d).2,
          fun _ => (call.step B.aaveRow (.ok ()) visited d).1⟩ := by
    have hstep := DiskShared.Step.move (F := B.aaveRow) (K := aaveKind) (T := T)
      ⟨d, fun _ : Unit => call⟩ () (.ok ()) visited hvisits
    rwa [Function.update_eq_const_of_subsingleton] at hstep
  have hadd : DiskShared.Step B.aaveRow aaveKind T ⟨⟨∅, ∅⟩, fun _ : Unit => .done (.ok ())⟩
      ⟨⟨∅, ∅⟩, fun _ => .insertPair (.zero 20) (.zero 20)⟩ := by
    have hstep := DiskShared.Step.add (F := B.aaveRow) (K := aaveKind) (T := T)
      ⟨⟨∅, ∅⟩, fun _ : Unit => .done (.ok ())⟩ () (aaveKind.text T (.zero 20) (.zero 20))
      (.ok ()) rfl
    rwa [Function.update_eq_const_of_subsingleton, DiskCall.ofAdd, ListKind.parse_text] at hstep
  have hinsert := hmove (.insertPair (.zero 20) (.zero 20)) [] ⟨∅, ∅⟩
    (by rintro _ _ ⟨⟩)
  let cache : MultiMap Address Address := (MultiMap.insertPair ∅ (.zero 20) (.zero 20)).1
  have hvisits : DiskCall.Visits [.zero 20] (.capture (.zero 20)) ⟨cache, ∅⟩ := by
    rintro borrower set ⟨⟩ hset
    have hinserted := (Finmap.lookup_insert (∅ : MultiMap Address Address)).symm.trans hset
    cases hinserted
    exact ⟨List.nodup_singleton _, rfl, by decide⟩
  have hcapture := hmove (.capture (.zero 20)) [.zero 20] ⟨cache, ∅⟩ hvisits
  have hwrite := hmove (.write (.zero 20) (some (B.aaveRow.serialize [.zero 20]))) [] ⟨cache, ∅⟩
    (by rintro _ _ ⟨⟩)
  have hrun := (((Relation.ReflTransGen.single hadd).tail hinsert).tail hcapture).tail hwrite
  exact ⟨_, hrun, lookup_applyEncoded_self _⟩

end Stores

end LiqRanger
