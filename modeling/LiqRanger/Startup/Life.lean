import LiqRanger.Bootstrap.Progress
import LiqRanger.Bootstrap.Ranges
import LiqRanger.Updater.Keeps

/-!
# A protocol through the starts of the engine

A watchlist from the first start on: the bootstrap, the time until the updater has subscribed, the
updater, and a new start at any moment, with whatever the rows hold by then: a write that was
accepted outlives the process. The chain goes on mining, and any call and any write may fail. At the
block of deployment, where the first bootstrap begins, nobody has a debt. Heights are natural
numbers, as in the bootstrap: of the heights of 64 bits, all but the last batch.
-/

namespace LiqRanger

open Effect Transition

variable {κ ι : Type}

/-- What the process does with the list. -/
inductive LifePhase (κ ι : Type) where
  /-- What is left of the bootstrap, and the tip once it has read it. -/
  | bootstrapping (tip : Option ℕ) (rest : BootstrapProgram κ Unit)
  | starting (tip : ℕ)
  /-- The height at which the updater subscribed, and what it has to do. -/
  | updating (tip opened : ℕ) (streams : ι → List (PositionLog κ))
      (activity : UpdaterActivity κ)

structure Life (κ ι : Type) where
  /-- The height of the chain. -/
  head : ℕ
  /-- The debts on the chain. -/
  debt : Address → κ → ℕ
  list : WatchList κ
  saved : Option ℕ
  phase : LifePhase κ ι

namespace Life

/-- The first start, at the block of deployment, before any debt. -/
def initial [DecidableEq κ] (config : BootstrapConfig κ) : Life κ ι where
  head := config.deployBlock
  debt _ _ := 0
  list := .new ∅
  saved := none
  phase := .bootstrapping none (Bootstrap.run config)

/-- The tip after a call: the one that was read. -/
def tipAfter (tip : Option ℕ) (e : Event (bootstrapPorts κ)) : Option ℕ :=
  match tip, e with
  | some tip, _ => some tip
  | none, ⟨.getBlockNumber, .ok tip⟩ => some tip
  | none, _ => none

/-- A block is mined: its logs enter the streams, if there are any yet. -/
def minedPhase [DecidableEq ι] (updater : UpdaterConfig κ ι) (logs : List (PositionLog κ)) :
    LifePhase κ ι → LifePhase κ ι
  | .updating tip opened streams activity =>
    .updating tip opened
      (fun i => streams i ++ logs.filter fun log => updater.streamOf log.kind = i) activity
  | phase => phase

/-- The updater, with the debts of the chain and the list. -/
def updaterState (s : Life κ ι) (streams : ι → List (PositionLog κ))
    (activity : UpdaterActivity κ) : UpdaterState κ ι :=
  ⟨s.debt, streams, s.list, activity⟩

variable [DecidableEq κ] [DecidableEq ι]

/-- One step of the chain, of the bootstrap or of the updater, or a new start. -/
inductive Step (K : ListKind κ) (T : EthersText) (chain : Chain κ) (config : BootstrapConfig κ)
    (updater : UpdaterConfig κ ι) : Life κ ι → Life κ ι → Prop where
  /-- A new debt comes with a Borrow. -/
  | mine (s : Life κ ι) (debt : Address → κ → ℕ)
      (hborrow : ∀ b x, s.debt b x = 0 → debt b x ≠ 0 → ⟨.borrow, x, b⟩ ∈ chain (s.head + 1)) :
      Step K T chain config updater s
        { s with
          head := s.head + 1
          debt := debt
          phase := minedPhase updater (chain (s.head + 1)) s.phase }
  | call (s : Life κ ι) (tip : Option ℕ) (op : BootstrapOp κ)
      (next : op.Reply → BootstrapProgram κ Unit) (reply : op.Reply) (w : BootstrapWorld κ)
      (hphase : s.phase = .bootstrapping tip (.call op next))
      (hreply : bootstrapWorld K T chain ⟨s.list, s.saved⟩ op reply w)
      (htip : ∀ height, (⟨op, reply⟩ : Event (bootstrapPorts κ)) = tipEvent (.ok height) →
        height = s.head) :
      Step K T chain config updater s
        { s with
          list := w.list
          saved := w.saved
          phase := .bootstrapping (tipAfter tip ⟨op, reply⟩) (next reply) }
  | bootstrapped (s : Life κ ι) (tip : ℕ)
      (hphase : s.phase = .bootstrapping (some tip) (.ret ())) :
      Step K T chain config updater s { s with phase := .starting tip }
  | subscribe (s : Life κ ι) (tip : ℕ) (hphase : s.phase = .starting tip) :
      Step K T chain config updater s
        { s with phase := .updating tip s.head (fun _ => []) .idle }
  | work (s : Life κ ι) (tip opened : ℕ) (streams : ι → List (PositionLog κ))
      (activity : UpdaterActivity κ) (u : UpdaterState κ ι)
      (hphase : s.phase = .updating tip opened streams activity)
      (hwork : UpdaterStep.Work updater T (s.updaterState streams activity) u) :
      Step K T chain config updater s
        { s with list := u.list, phase := .updating tip opened u.streams u.activity }
  | restart (s : Life κ ι) :
      Step K T chain config updater s
        { s with
          list := .new s.list.rows
          phase := .bootstrapping none (Bootstrap.run config) }

end Life

/-! ### Where a Borrow is -/

/-- The position borrowed in one of these blocks. -/
def BorrowIn (chain : Chain κ) (fromBlock toBlock : ℕ) (borrower : Address) (x : κ) : Prop :=
  ∃ block, fromBlock ≤ block ∧ block ≤ toBlock ∧ ⟨.borrow, x, borrower⟩ ∈ chain block

/-- The first block after the saved one. -/
def unsavedFrom (config : BootstrapConfig κ) (saved : Option ℕ) : ℕ :=
  match saved with
  | some last => last + 1
  | none => config.deployBlock - 20

section
variable {chain : Chain κ} {config : BootstrapConfig κ} {a b a' b' : ℕ} {borrower : Address}
  {x : κ} {saved : Option ℕ}

lemma BorrowIn.mono (h : BorrowIn chain a b borrower x) (ha : a' ≤ a) (hb : b ≤ b') :
    BorrowIn chain a' b' borrower x := by
  obtain ⟨block, hfrom, hto, hmem⟩ := h
  exact ⟨block, ha.trans hfrom, hto.trans hb, hmem⟩

lemma borrowIn_self (hab : a ≤ b) (h : ⟨.borrow, x, borrower⟩ ∈ chain b) :
    BorrowIn chain a b borrower x :=
  ⟨b, hab, le_rfl, h⟩

/-- The next bootstrap scans every block after the saved one. -/
lemma sub_le_unsavedFrom : saved.getD config.deployBlock - 20 ≤ unsavedFrom config saved := by
  cases saved with
  | none => exact le_rfl
  | some last =>
    rw [Option.getD_some, unsavedFrom]
    omega

/-- No block above a height is saved that is above all saved blocks. -/
lemma unsavedFrom_le {height : ℕ} (hsaved : ∀ last, saved = some last → last ≤ height)
    (hdeployed : config.deployBlock ≤ height) : unsavedFrom config saved ≤ height + 1 := by
  cases saved with
  | none => exact (Nat.sub_le _ _).trans (hdeployed.trans (Nat.le_succ _))
  | some last => exact Nat.succ_le_succ (hsaved last rfl)

end

end LiqRanger
