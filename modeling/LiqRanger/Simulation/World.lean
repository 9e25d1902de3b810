import LiqRanger.Effect.Invariant
import LiqRanger.Simulation.Snapshot
import Mathlib.Data.List.Induction

/-!
# Snapshots in their world

The node answers a read at a block with the state of that block, or fails. A call then returns a
snapshot from the cache by block, or a new one: what the cache by address holds of the targets, and
accounts at the block (`RevmAdapter.buildSnapshot_holds`).
-/

namespace LiqRanger

open Effect

/-- An account of the chain. -/
structure ChainAccount where
  balance : U256
  nonce : U64
  code : Bytes

/-- All accounts at each block. -/
abbrev AccountHistory := U64 → Address → ChainAccount

structure SnapshotCaches (η : Type) where
  snapshots : U64 → Option (BlockSnapshot η)
  accounts : Address → Option AccountInfo

def SnapshotCaches.empty {η : Type} : SnapshotCaches η := ⟨fun _ => none, fun _ => none⟩

variable {η : Type}

/-- Any read may fail, and one that succeeds tells the state of its block. -/
def snapshotWorld (history : AccountHistory) : Handler (snapshotPorts η) (SnapshotCaches η)
  | w, .getBlockNumber, _, w' => w' = w
  | w, .getBlock _, _, w' => w' = w
  | w, .getTransactionCount addr n, reply, w' =>
      w' = w ∧ ∀ nonce, reply = .ok nonce → nonce = (history n addr).nonce.setWidth 256
  | w, .getCode addr n, reply, w' =>
      w' = w ∧ ∀ code, reply = .ok code → code = (history n addr).code
  | w, .getBalance addr n, reply, w' =>
      w' = w ∧ ∀ balance, reply = .ok balance → balance = (history n addr).balance
  | w, .elapsed, _, w' => w' = w
  | w, .openDatabase _, _, w' => w' = w
  | w, .cachedSnapshot n, reply, w' => w' = w ∧ reply = w.snapshots n
  | w, .retainSnapshots oldest, _, w' =>
      w' = { w with snapshots := fun n => if oldest ≤ n then w.snapshots n else none }
  | w, .insertSnapshot n snapshot, _, w' =>
      w' = { w with snapshots := Function.update w.snapshots n (some snapshot) }
  | w, .cachedAccount addr, reply, w' => w' = w ∧ reply = w.accounts addr
  | w, .insertAccount addr info, _, w' =>
      w' = { w with accounts := Function.update w.accounts addr (some info) }

variable {config : RevmConfig} {history : AccountHistory} {n : U64} {w w' : SnapshotCaches η}

/-- An account as a snapshot of the block has to show it. -/
def infoAt (config : RevmConfig) (history : AccountHistory) (n : U64) (addr : Address) :
    AccountInfo :=
  RevmAdapter.accountInfo config (history n addr).balance (history n addr).nonce
    (history n addr).code

/-! ### What is put in last -/

namespace RevmAdapter

variable {accounts : Address → Option AccountInfo} {l : List (Address × AccountInfo)}
  {addr : Address} {info : AccountInfo}

/-- What is found was put in, or was there before. -/
lemma foldl_insertAccountInfo_eq_some (h : l.foldl insertAccountInfo accounts addr = some info) :
    (addr, info) ∈ l ∨ accounts addr = some info := by
  induction l using List.reverseRecOn with
  | nil => exact Or.inr h
  | append_singleton l x ih =>
    rw [List.foldl_append, List.foldl_cons, List.foldl_nil, insertAccountInfo] at h
    by_cases hx : addr = x.1
    · subst hx
      rw [Function.update_self, Option.some.injEq] at h
      subst h
      exact Or.inl (List.mem_append_right l (List.mem_singleton_self x))
    · rw [Function.update_of_ne hx] at h
      rcases ih h with hmem | hold
      · exact Or.inl (List.mem_append_left [x] hmem)
      · exact Or.inr hold

/-- What is put in is found again, if nothing else is put in for the address. -/
lemma foldl_insertAccountInfo_of_mem (hmem : (addr, info) ∈ l)
    (honly : ∀ other, (addr, other) ∈ l → other = info) :
    l.foldl insertAccountInfo accounts addr = some info := by
  induction l using List.reverseRecOn with
  | nil => cases hmem
  | append_singleton l x ih =>
    rw [List.foldl_append, List.foldl_cons, List.foldl_nil, insertAccountInfo]
    by_cases hx : addr = x.1
    · subst hx
      rw [Function.update_self, honly x.2 (List.mem_append_right l (List.mem_singleton_self x))]
    · rw [Function.update_of_ne hx]
      apply ih
      · rcases List.mem_append.mp hmem with hmem | hmem
        · exact hmem
        · rw [List.mem_singleton] at hmem
          exact absurd (congrArg Prod.fst hmem) hx
      · exact fun other hother => honly other (List.mem_append_left [x] hother)

end RevmAdapter

/-! ### One call -/

namespace RevmAdapter

lemma awaited_holds :
    (awaited n).Holds (snapshotWorld history) (fun _ => True) (fun _ w' => w' = w) w := by
  rintro (elapsed : Bool) w' rfl
  refine ⟨trivial, ?_⟩
  cases elapsed <;> rfl

lemma asU64_setWidth (nonce : U64) :
    asU64 (nonce.setWidth 256) = (.ret nonce : SnapshotM η U64) := by
  have hlt : (nonce.setWidth 256).toNat = nonce.toNat := by
    rw [BitVec.toNat_setWidth]
    exact Nat.mod_eq_of_lt (nonce.isLt.trans (by decide))
  rw [asU64, if_pos (hlt ▸ nonce.isLt)]
  congr 1
  apply BitVec.eq_of_toNat_eq
  rw [BitVec.toNat_setWidth, hlt, Nat.mod_eq_of_lt nonce.isLt]

/-- The targets in the cache with what it holds of them, and the others. -/
lemma cachedTargets_holds (targets : List Address) :
    (cachedTargets targets).Holds (snapshotWorld history) (fun _ => True)
      (fun o w' => w' = w ∧ o = .ok
        (targets.filterMap fun addr => (w.accounts addr).map (addr, ·),
          targets.filter fun addr => w.accounts addr = none)) w := by
  induction targets with
  | nil => exact ⟨rfl, rfl⟩
  | cons addr rest ih =>
    rintro (cached : Option AccountInfo) w' ⟨rfl, rfl⟩
    refine ⟨trivial, ?_⟩
    change (cachedTargets rest >>= _).Holds _ _ _ _
    refine Program.holds_bind.mpr (ih.mono fun o w₁ hpost => ?_)
    obtain ⟨rfl, rfl⟩ := hpost
    cases hcached : w₁.accounts addr with
    | none => simp [hcached]
    | some info => simp [hcached]

/-- An account that is fetched is the account at the block. -/
lemma fetchAccount_holds (addr : Address) :
    (fetchAccount config n addr).Holds (snapshotWorld history) (fun _ => True)
      (fun o w' => w' = w ∧ ∀ account, o = .ok (some account) →
        account = (addr, infoAt config history n addr)) w := by
  rintro (code : Except String Bytes) w₁ ⟨rfl, hcode⟩
  refine ⟨trivial, ?_⟩
  rintro (balance : Except String U256) w₂ ⟨rfl, hbalance⟩
  refine ⟨trivial, ?_⟩
  rintro (nonce : Except String U256) w₃ ⟨rfl, hnonce⟩
  refine ⟨trivial, ?_⟩
  cases code with
  | error e => exact ⟨rfl, by simp⟩
  | ok code =>
    cases balance with
    | error e => exact ⟨rfl, by simp⟩
    | ok balance =>
      cases nonce with
      | error e => exact ⟨rfl, by simp⟩
      | ok nonce =>
        obtain rfl := hcode code rfl
        obtain rfl := hbalance balance rfl
        obtain rfl := hnonce nonce rfl
        change (asU64 ((history n addr).nonce.setWidth 256) >>= _).Holds _ _ _ _
        rw [asU64_setWidth]
        refine ⟨rfl, fun account h => ?_⟩
        exact (Option.some.inj (Except.ok.inj h)).symm

lemma fetchAccounts_holds (targets : List Address) :
    (fetchAccounts config n targets).Holds (snapshotWorld history) (fun _ => True)
      (fun o w' => w' = w ∧ ∀ accounts, o = .ok accounts → ∀ account ∈ accounts,
        account.1 ∈ targets ∧ account.2 = infoAt config history n account.1) w := by
  induction targets with
  | nil => exact ⟨rfl, by simp⟩
  | cons addr rest ih =>
    refine Program.holds_bind.mpr ((fetchAccount_holds addr).mono fun o w₁ hfirst => ?_)
    obtain ⟨rfl, hfirst⟩ := hfirst
    cases o with
    | error e => exact ⟨rfl, by simp⟩
    | ok first =>
      refine Program.holds_bind.mpr (ih.mono fun o w₂ hrest => ?_)
      obtain ⟨rfl, hrest⟩ := hrest
      cases o with
      | error e => exact ⟨rfl, by simp⟩
      | ok accounts =>
        refine ⟨rfl, ?_⟩
        rintro all hall account hmem
        obtain rfl : first.toList ++ accounts = all := Except.ok.inj hall
        rcases List.mem_append.mp hmem with hmem | hmem
        · rw [Option.mem_toList] at hmem
          obtain rfl := hfirst account (congrArg Except.ok hmem)
          exact ⟨List.mem_cons_self, rfl⟩
        · obtain ⟨htarget, hinfo⟩ := hrest accounts rfl account hmem
          exact ⟨List.mem_cons_of_mem addr htarget, hinfo⟩

/-- The cache by address takes in what was fetched. The other cache stays. -/
lemma insertAccounts_holds (results : List (Address × AccountInfo)) :
    (insertAccounts results).Holds (snapshotWorld history) (fun _ => True)
      (fun _ w' => w'.snapshots = w.snapshots) w := by
  apply Program.holds_forM (fun _ w' => w'.snapshots = w.snapshots) rfl
  · rintro account rest w₁ hsame reply w₂ rfl
    exact ⟨trivial, hsame⟩
  · exact fun _ hsame => hsame

/-- What a call puts into a new snapshot of block `n`: all that the cache by address holds of the
targets, and besides the keeper nothing else but accounts at the block. -/
structure Built (config : RevmConfig) (history : AccountHistory) (w : SnapshotCaches η) (n : U64)
    (request : SnapshotRequest) (snapshot : BlockSnapshot η) : Prop where
  block : snapshot.blockNumber = n
  cached : ∀ addr ∈ request.warmTargets, ∀ info, w.accounts addr = some info →
    snapshot.accounts addr = some info
  nothingElse : ∀ addr ≠ config.keeper, ∀ info, snapshot.accounts addr = some info →
    (addr ∈ request.warmTargets ∧ w.accounts addr = some info) ∨ info = infoAt config history n addr

lemma mem_cachedTargets {targets : List Address} {addr : Address} {info : AccountInfo} :
    (addr, info) ∈ targets.filterMap (fun addr => (w.accounts addr).map (addr, ·)) ↔
      addr ∈ targets ∧ w.accounts addr = some info := by
  simp only [List.mem_filterMap, Option.map_eq_some_iff, Prod.mk.injEq]
  constructor
  · rintro ⟨other, hmem, found, hfound, rfl, rfl⟩
    exact ⟨hmem, hfound⟩
  · rintro ⟨hmem, hfound⟩
    exact ⟨addr, hmem, info, hfound, rfl, rfl⟩

/-- From what is cached and what is fetched. -/
lemma built_populate {request : SnapshotRequest} {results : List (Address × AccountInfo)}
    (hresults : ∀ account ∈ results,
      account.1 ∈ request.warmTargets.filter (fun addr => w.accounts addr = none) ∧
        account.2 = infoAt config history n account.1) (block : η) (nonce : U64) :
    Built config history w n request ⟨n, block, populate config nonce
      (request.warmTargets.filterMap (fun addr => (w.accounts addr).map (addr, ·))
        ++ results)⟩ where
  block := rfl
  cached := by
    intro addr htarget info hinfo
    apply foldl_insertAccountInfo_of_mem
    · exact List.mem_append_left _ (mem_cachedTargets.mpr ⟨htarget, hinfo⟩)
    · intro other hother
      rcases List.mem_append.mp hother with hother | hother
      · have := (mem_cachedTargets.mp hother).2
        rw [hinfo, Option.some.injEq] at this
        exact this.symm
      · have hfetched := (hresults _ hother).1
        simp [hinfo] at hfetched
  nothingElse := by
    intro addr hkeeper info hinfo
    rcases foldl_insertAccountInfo_eq_some hinfo with hmem | hkept
    · rcases List.mem_append.mp hmem with hmem | hmem
      · exact Or.inl (mem_cachedTargets.mp hmem)
      · exact Or.inr (hresults _ hmem).2
    · rw [insertAccountInfo, Function.update_of_ne hkeeper] at hkept
      cases hkept

lemma fetchBlock_holds : (fetchBlock config n : SnapshotM η _).Holds (snapshotWorld history)
    (fun _ => True) (fun _ w' => w' = w) w := by
  rintro (block : Except String (Option η)) w₁ rfl
  refine ⟨trivial, ?_⟩
  rintro (nonce : Except String U256) w₂ ⟨rfl, hnonce⟩
  refine ⟨trivial, ?_⟩
  change (awaited n >>= _).Holds _ _ _ _
  refine Program.holds_bind.mpr (awaited_holds.mono fun o w₃ hsame => ?_)
  obtain rfl := hsame
  cases o with
  | error e => rfl
  | ok =>
    cases block with
    | error e => rfl
    | ok block =>
      cases nonce with
      | error e => rfl
      | ok nonce =>
        cases block with
        | none => rfl
        | some block =>
          obtain rfl := hnonce nonce rfl
          change (asU64 ((history n config.keeper).nonce.setWidth 256) >>= _).Holds _ _ _ _
          rw [asU64_setWidth]
          rfl

lemma prewarm_holds (targets : List Address) :
    (prewarm config n targets : SnapshotM η _).Holds (snapshotWorld history) (fun _ => True)
      (fun o w' => w'.snapshots = w.snapshots ∧ ∀ accounts, o = .ok accounts →
        ∃ results, accounts =
          targets.filterMap (fun addr => (w.accounts addr).map (addr, ·)) ++ results ∧
        ∀ account ∈ results, account.1 ∈ targets.filter (fun addr => w.accounts addr = none) ∧
          account.2 = infoAt config history n account.1) w := by
  refine Program.holds_bind.mpr ((cachedTargets_holds targets).mono fun o w₁ hcached => ?_)
  obtain ⟨rfl, rfl⟩ := hcached
  refine Program.holds_bind.mpr ((fetchAccounts_holds _).mono fun o w₂ hfetched => ?_)
  obtain ⟨rfl, hfetched⟩ := hfetched
  cases o with
  | error e => exact ⟨rfl, by simp⟩
  | ok results =>
    refine Program.holds_bind.mpr (awaited_holds.mono fun o w₃ hsame => ?_)
    obtain rfl := hsame
    cases o with
    | error e => exact ⟨rfl, by simp⟩
    | ok =>
      refine Program.holds_bind.mpr ((insertAccounts_holds results).mono fun o w₄ hsame => ?_)
      cases o with
      | error e => exact ⟨hsame, by simp⟩
      | ok =>
        refine ⟨hsame, fun accounts haccounts => ⟨results, ?_, hfetched results rfl⟩⟩
        exact (Except.ok.inj haccounts).symm

lemma buildSnapshotInternal_holds (request : SnapshotRequest) :
    (buildSnapshotInternal config n request).Holds (snapshotWorld history) (fun _ => True)
      (fun o w' => w'.snapshots = w.snapshots ∧ ∀ snapshot : BlockSnapshot η, o = .ok snapshot →
        Built config history w n request snapshot) w := by
  refine Program.holds_bind.mpr (fetchBlock_holds.mono fun o w₁ hsame => ?_)
  obtain rfl := hsame
  cases o with
  | error e => exact ⟨rfl, by simp⟩
  | ok header =>
    refine Program.holds_bind.mpr ((prewarm_holds request.warmTargets).mono fun o w₂ hwarm => ?_)
    obtain ⟨hsame, hwarm⟩ := hwarm
    cases o with
    | error e => exact ⟨hsame, by simp⟩
    | ok accounts =>
      obtain ⟨results, rfl, hresults⟩ := hwarm accounts rfl
      rintro (database : Except String Unit) w₃ rfl
      refine ⟨trivial, ?_⟩
      change (awaited n >>= _).Holds _ _ _ _
      refine Program.holds_bind.mpr (awaited_holds.mono fun o w₄ hsame' => ?_)
      obtain rfl := hsame'
      cases o with
      | error e => exact ⟨hsame, by simp⟩
      | ok =>
        cases database with
        | error e => exact ⟨hsame, by simp⟩
        | ok =>
          refine ⟨hsame, fun snapshot hsnapshot => ?_⟩
          obtain rfl := Except.ok.inj hsnapshot
          exact built_populate hresults header.1 header.2

/-- How a call returns: with a snapshot in the cache by block, or with a new one that goes there. -/
def Returns (config : RevmConfig) (history : AccountHistory) (w : SnapshotCaches η)
    (request : SnapshotRequest) (snapshot : BlockSnapshot η) (w' : SnapshotCaches η) : Prop :=
  ∃ n, (request.blockNumber ≠ 0 → n = request.blockNumber) ∧
    ((w.snapshots n = some snapshot ∧ w' = w) ∨
      (w.snapshots n = none ∧ Built config history w n request snapshot ∧
        ∀ m cached, w'.snapshots m = some cached →
          w.snapshots m = some cached ∨ (m = n ∧ cached = snapshot)))

lemma resolveBlock_holds (blockNumber : U64) :
    (resolveBlock blockNumber : SnapshotM η _).Holds (snapshotWorld history) (fun _ => True)
      (fun o w' => w' = w ∧ ∀ n, o = .ok n → blockNumber ≠ 0 → n = blockNumber) w := by
  rw [resolveBlock]
  split
  · next hzero =>
    rintro (tip : Except String U64) w₁ rfl
    refine ⟨trivial, ?_⟩
    cases tip with
    | error e => exact ⟨rfl, by simp⟩
    | ok tip => exact ⟨rfl, fun _ _ hne => absurd hzero hne⟩
  · exact ⟨rfl, fun n hn _ => (Except.ok.inj hn).symm⟩

/-- A call that fails leaves the cache by block as it was. -/
lemma buildSnapshot_holds (request : SnapshotRequest) :
    (buildSnapshot config request : SnapshotM η _).Holds (snapshotWorld history) (fun _ => True)
      (fun o w' => match o with
        | .ok snapshot => Returns config history w request snapshot w'
        | .error _ => w'.snapshots = w.snapshots) w := by
  refine Program.holds_bind.mpr
    ((resolveBlock_holds request.blockNumber).mono fun o w₁ hresolved => ?_)
  obtain ⟨rfl, hresolved⟩ := hresolved
  cases o with
  | error e => rfl
  | ok n =>
    have hblock := hresolved n rfl
    rintro (cached : Option (BlockSnapshot η)) w₂ ⟨rfl, hcached⟩
    refine ⟨trivial, ?_⟩
    cases cached with
    | some snapshot => exact ⟨n, hblock, Or.inl ⟨hcached.symm, rfl⟩⟩
    | none =>
      change (buildSnapshotInternal config n request >>= _).Holds _ _ _ _
      refine Program.holds_bind.mpr
        ((buildSnapshotInternal_holds request).mono fun o w₃ hbuilt => ?_)
      obtain ⟨hsame, hbuilt⟩ := hbuilt
      cases o with
      | error e => exact hsame
      | ok snapshot =>
        rintro (_ : Unit) w₄ rfl
        refine ⟨trivial, ?_⟩
        rintro (_ : Unit) w₅ rfl
        refine ⟨trivial, n, hblock, Or.inr ⟨hcached.symm, hbuilt snapshot rfl, ?_⟩⟩
        intro m other hother
        simp only [Function.update_apply] at hother
        split at hother
        · next hm => exact Or.inr ⟨hm, (Option.some.inj hother).symm⟩
        · rw [hsame, Option.ite_none_right_eq_some] at hother
          exact Or.inl hother.2

end RevmAdapter

end LiqRanger
