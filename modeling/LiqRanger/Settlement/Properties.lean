import LiqRanger.Settlement.Engine

/-!
# Weekly settlement

Whatever the replies, a run pays each asset at most once and refuels only what is missing, and one
that returns without an error has settled every profit that it read (`holds_execute`). At most one
run waits for a reply, and the running flag says whether one does (`settlement_exclusive`).
-/

namespace LiqRanger

open Effect Transition

namespace ProfitDistributor

/-! ### Events -/

abbrev SettlementEvent := Event distributorPorts

def balanceRead (account : Address) (balance : U256) : SettlementEvent :=
  ⟨.getBalance account, (.ok balance : Except String U256)⟩

def profitRead (asset : Address) (profit : U256) : SettlementEvent :=
  ⟨.accumulatedProfits asset, (.ok profit : Except String U256)⟩

/-- A distribution is submitted, whatever comes of it. -/
def Sends (e : SettlementEvent) (asset : Address) : Prop :=
  ∃ breetAddr, e.op = .distributeProfits asset breetAddr

def distributed (asset : Address) (tx : H256) : SettlementEvent :=
  ⟨.distributeProfits asset (breetAddressFor asset), (.ok tx : Except String H256)⟩

def confirmed (tx receipt : H256) : SettlementEvent :=
  ⟨.confirmations tx requiredConfirmations, (.ok (some receipt) : Except String (Option H256))⟩

/-- The profits of the asset were sent, and the next reply confirmed the transaction. -/
def Settled (t : List SettlementEvent) (asset : Address) : Prop :=
  ∃ tx receipt, [distributed asset tx, confirmed tx receipt] <:+: t

/-- What the calls so far allow to call. -/
def Allowed (keeper : Address) (t : List SettlementEvent) : DistributorOp → Prop
  | .distributeProfits asset breetAddr =>
    (∀ e ∈ t, ¬ Sends e asset) ∧ asset ≠ wpol ∧
      (∃ profit, profit ≠ 0 ∧ profitRead asset profit ∈ t) ∧
      (breetAddr = breet ↔ asset = usdc ∨ asset = usdt)
  | .refuelGas amount => ∃ balance accumulated, balanceRead keeper balance ∈ t ∧
      profitRead wpol accumulated ∈ t ∧ balance < gasThreshold ∧
      amount = refuelAmt - balance ∧ balance ≤ refuelAmt ∧ amount ≤ accumulated
  | _ => True

/-- Every asset that was discovered has been asked for its profit, and what was read of any asset
but the native token is settled unless it is zero. -/
structure Complete (T : EthersText) (t : List SettlementEvent) : Prop where
  visited : ∃ rows order, (⟨.fetchAssets, .ok rows⟩ : SettlementEvent) ∈ t ∧
    (⟨.visitAssets (collectAssets T rows), order⟩ : SettlementEvent) ∈ t ∧
    ∀ asset ∈ collectAssets T rows, ∃ profit, profitRead asset profit ∈ t
  settled : ∀ asset profit, profitRead asset profit ∈ t → profit ≠ 0 → asset ≠ wpol →
    Settled t asset

variable {T : EthersText} {keeper : Address} {t : List SettlementEvent} {asset : Address}

lemma breetAddressFor_eq_breet_iff :
    breetAddressFor asset = breet ↔ asset = usdc ∨ asset = usdt := by
  have hbreet : FixedHash.zero 20 ≠ breet := by decide
  by_cases h : asset = usdc ∨ asset = usdt
  · simp [breetAddressFor, h]
  · simp [breetAddressFor, h, hbreet]

lemma Settled.append (h : Settled t asset) (t' : List SettlementEvent) :
    Settled (t ++ t') asset := by
  obtain ⟨tx, receipt, hinfix⟩ := h
  exact ⟨tx, receipt, hinfix.trans (List.prefix_append t t').isInfix⟩

/-! ### The gas -/

/-- Before the loop nothing is sent, and profits are read of the native token only. -/
structure BeforeLoop (keeper : Address) (t : List SettlementEvent) : Prop where
  allowed : EachCall (Allowed keeper) t
  unsent : ∀ e ∈ t, ∀ asset, ¬ Sends e asset
  read : ∀ asset profit, profitRead asset profit ∈ t → asset = wpol

/-- The postcondition of a part of a run that an error may end. -/
def Returns (Q : List SettlementEvent → Prop) (o : Except String PUnit)
    (t : List SettlementEvent) : Prop := o = .ok ⟨⟩ → Q t

lemma context_eq_ok {α : Type} {message : String} {reply : Except String α} {a : α}
    (h : context message reply = .ok a) : reply = .ok a := by
  cases reply with
  | error e => cases h
  | ok b => exact h

/-- A rule for a part of a run that goes on with the value of a reply. -/
lemma holds_ofExcept_bind {α : Type} {r : Except String α} {f : α → DistributorM PUnit}
    {Q : List SettlementEvent → Prop}
    (h : ∀ a, r = .ok a →
      (f a).Holds (.log _) (EachCall (Allowed keeper)) (Returns Q) t) :
    (Program.ofExcept r >>= f).Holds (.log _) (EachCall (Allowed keeper)) (Returns Q) t := by
  cases r with
  | error e => exact nofun
  | ok a => exact h a rfl

/-- The end of a run's part that waits for a transaction. -/
lemma holds_confirmations {tx : H256} {message dropped : String}
    {Q : List SettlementEvent → Prop} (ht : EachCall (Allowed keeper) t)
    (h : ∀ receipt : H256, EachCall (Allowed keeper) (t ++ [confirmed tx receipt]) →
      Q (t ++ [confirmed tx receipt])) :
    (do
      let receipt ← Program.ofExcept
        (context message (← confirmations tx requiredConfirmations))
      match receipt with
      | some _ => return
      | none => .fail dropped : DistributorM PUnit).Holds (.log _) (EachCall (Allowed keeper))
        (Returns Q) t := by
  rw [confirmations]
  refine Program.holds_call_log ht trivial fun r hlog =>
    holds_ofExcept_bind fun receipt hreceipt => ?_
  obtain rfl : r = .ok receipt := context_eq_ok hreceipt
  cases receipt with
  | none => exact nofun
  | some receipt => exact fun _ => h receipt hlog

lemma BeforeLoop.append {e : SettlementEvent} (h : BeforeLoop keeper t)
    (hallowed : EachCall (Allowed keeper) (t ++ [e])) (hsend : ∀ asset, ¬ Sends e asset)
    (hread : ∀ asset, e.op = .accumulatedProfits asset → asset = wpol) :
    BeforeLoop keeper (t ++ [e]) := by
  refine ⟨hallowed, ?_, ?_⟩
  · intro e' he'
    rcases List.mem_append.mp he' with he' | he'
    · exact h.unsent e' he'
    · rw [List.mem_singleton.mp he']
      exact hsend
  · intro asset profit hmem
    rcases List.mem_append.mp hmem with hmem | hmem
    · exact h.read asset profit hmem
    · exact hread asset (congrArg Event.op (List.mem_singleton.mp hmem).symm)

lemma holds_ensureGasBalance :
    (ensureGasBalance keeper).Holds (.log _) (EachCall (Allowed keeper))
      (Returns (BeforeLoop keeper)) [] := by
  simp only [ensureGasBalance, getBalance, accumulatedProfits, refuelGas]
  refine Program.holds_call_log eachCall_nil trivial fun r hlog =>
    holds_ofExcept_bind fun balance hbalance => ?_
  obtain rfl : r = .ok balance := hbalance
  have hstart : BeforeLoop keeper [] := ⟨eachCall_nil, by simp, by simp⟩
  have hbalance : BeforeLoop keeper ([] ++ [balanceRead keeper balance]) :=
    hstart.append hlog nofun nofun
  by_cases henough : gasThreshold ≤ balance
  · rw [if_pos henough]
    exact fun _ => hbalance
  rw [if_neg henough]
  refine Program.holds_call_log hlog trivial fun r hlog =>
    holds_ofExcept_bind fun accumulated haccumulated => ?_
  obtain rfl : r = .ok accumulated := haccumulated
  have hread : BeforeLoop keeper
      ([] ++ [balanceRead keeper balance] ++ [profitRead wpol accumulated]) :=
    hbalance.append hlog nofun fun asset h => (DistributorOp.accumulatedProfits.inj h).symm
  have hbelow : balance < gasThreshold := BitVec.not_le.mp henough
  have hle : balance ≤ refuelAmt := BitVec.le_trans (BitVec.le_of_lt hbelow) (by decide)
  rw [if_pos hle]
  generalize hrefuel : refuelAmt - balance = refuel
  by_cases hshort : accumulated < refuel
  · rw [if_pos hshort]
    exact fun _ => hread
  rw [if_neg hshort]
  by_cases hzero : refuel = 0
  · rw [if_pos hzero]
    exact fun _ => hread
  rw [if_neg hzero]
  have hallowed : Allowed keeper
      ([] ++ [balanceRead keeper balance] ++ [profitRead wpol accumulated]) (.refuelGas refuel) :=
    ⟨balance, accumulated, by simp, by simp, hbelow, hrefuel.symm, hle, BitVec.not_lt.mp hshort⟩
  refine Program.holds_call_log hlog hallowed fun r hlog => holds_ofExcept_bind fun tx _ => ?_
  have hsent : BeforeLoop keeper ([] ++ [balanceRead keeper balance]
      ++ [profitRead wpol accumulated] ++ [⟨.refuelGas refuel, r⟩]) :=
    hread.append hlog nofun nofun
  exact holds_confirmations hlog fun receipt hlog => hsent.append hlog nofun nofun

/-! ### The loop -/

/-- `rest` is left to visit of `order`, in a loop that began after the events `start`. -/
structure Visiting (keeper : Address) (start : List SettlementEvent) (order rest : List Address)
    (t : List SettlementEvent) : Prop where
  nodup : rest.Nodup
  allowed : EachCall (Allowed keeper) t
  started : start ⊆ t
  unsent : ∀ asset ∈ rest, ∀ e ∈ t, ¬ Sends e asset
  read : ∀ asset ∈ order, asset ∈ rest ∨ ∃ profit, profitRead asset profit ∈ t
  settled : ∀ asset profit, profitRead asset profit ∈ t → profit ≠ 0 → asset ≠ wpol →
    Settled t asset

variable {start t' : List SettlementEvent} {order rest : List Address} {x : Address}

/-- The events of one visit are about the asset visited, and settle what they read of it. -/
lemma Visiting.next (h : Visiting keeper start order (x :: rest) t)
    (hallowed : EachCall (Allowed keeper) (t ++ t'))
    (hsends : ∀ e ∈ t', ∀ asset, Sends e asset → asset = x)
    (hreads : ∀ e ∈ t', ∀ asset, e.op = .accumulatedProfits asset → asset = x)
    (hread : ∃ profit, profitRead x profit ∈ t')
    (hsettled : ∀ profit, profitRead x profit ∈ t' → profit ≠ 0 → x ≠ wpol →
      Settled (t ++ t') x) :
    Visiting keeper start order rest (t ++ t') := by
  obtain ⟨hx, hrest⟩ := List.nodup_cons.mp h.nodup
  refine ⟨hrest, hallowed, fun e he => List.mem_append_left _ (h.started he), ?_, ?_, ?_⟩
  · intro asset hasset e he
    rcases List.mem_append.mp he with he | he
    · exact h.unsent asset (List.mem_cons_of_mem x hasset) e he
    · rintro hsend
      exact hx (hsends e he asset hsend ▸ hasset)
  · intro asset hasset
    rcases h.read asset hasset with hmem | ⟨profit, hprofit⟩
    · rcases List.mem_cons.mp hmem with rfl | hmem
      · obtain ⟨profit, hprofit⟩ := hread
        exact Or.inr ⟨profit, List.mem_append_right t hprofit⟩
      · exact Or.inl hmem
    · exact Or.inr ⟨profit, List.mem_append_left t' hprofit⟩
  · intro asset profit hprofit hne hwpol
    rcases List.mem_append.mp hprofit with hprofit | hprofit
    · exact (h.settled asset profit hprofit hne hwpol).append t'
    · obtain rfl := hreads _ hprofit asset rfl
      exact hsettled profit hprofit hne hwpol

lemma profitRead_inj {asset : Address} {p q : U256} (h : profitRead asset p = profitRead asset q) :
    p = q := by
  cases h
  rfl

/-- An asset without profit, or the native token, is skipped. -/
lemma Visiting.skip {profit : U256} (h : Visiting keeper start order (x :: rest) t)
    (hallowed : EachCall (Allowed keeper) (t ++ [profitRead x profit]))
    (hskip : profit = 0 ∨ x = wpol) :
    Visiting keeper start order rest (t ++ [profitRead x profit]) := by
  refine h.next hallowed ?_ ?_ ⟨profit, List.mem_singleton_self _⟩ ?_
  · rintro e he asset ⟨breetAddr, hop⟩
    rw [List.mem_singleton.mp he] at hop
    cases hop
  · intro e he asset hop
    rw [List.mem_singleton.mp he] at hop
    exact (DistributorOp.accumulatedProfits.inj hop).symm
  · intro profit' hmem hne hwpol
    rw [profitRead_inj (List.mem_singleton.mp hmem)] at hne
    exact absurd hskip (not_or.mpr ⟨hne, hwpol⟩)

/-- The profit of any other asset is sent, and the transaction is waited for. -/
lemma Visiting.settle {profit : U256} {e : SettlementEvent} {tx receipt : H256}
    (h : Visiting keeper start order (x :: rest) t) (he : e.op = .getTokenSymbol x)
    (hallowed : EachCall (Allowed keeper)
      (t ++ [profitRead x profit] ++ [e] ++ [distributed x tx] ++ [confirmed tx receipt])) :
    Visiting keeper start order rest
      (t ++ [profitRead x profit] ++ [e] ++ [distributed x tx] ++ [confirmed tx receipt]) := by
  simp only [List.append_assoc, List.cons_append, List.nil_append] at hallowed ⊢
  refine h.next hallowed ?_ ?_ ⟨profit, List.mem_cons_self⟩ ?_
  · rintro e' he' asset ⟨breetAddr, hop⟩
    simp only [List.mem_cons, List.not_mem_nil, or_false] at he'
    rcases he' with rfl | rfl | rfl | rfl
    · cases hop
    · rw [he] at hop
      cases hop
    · exact (DistributorOp.distributeProfits.inj hop).1.symm
    · cases hop
  · rintro e' he' asset hop
    simp only [List.mem_cons, List.not_mem_nil, or_false] at he'
    rcases he' with rfl | rfl | rfl | rfl
    · exact (DistributorOp.accumulatedProfits.inj hop).symm
    · rw [he] at hop
      cases hop
    · cases hop
    · cases hop
  · exact fun _ _ _ _ => ⟨tx, receipt, t ++ [profitRead x profit, e], [], by simp⟩

lemma holds_distributeAsset (h : Visiting keeper start order (x :: rest) t) :
    (distributeAsset x).Holds (.log _) (EachCall (Allowed keeper))
      (Returns (Visiting keeper start order rest)) t := by
  simp only [distributeAsset, accumulatedProfits, getTokenSymbol, distributeProfits]
  refine Program.holds_call_log h.allowed trivial fun r hlog =>
    holds_ofExcept_bind fun profit hprofit => ?_
  obtain rfl : r = .ok profit := hprofit
  by_cases hzero : profit = 0
  · rw [if_pos hzero]
    exact fun _ => h.skip hlog (Or.inl hzero)
  rw [if_neg hzero]
  by_cases hwpol : x = wpol
  · rw [if_pos hwpol]
    exact fun _ => h.skip hlog (Or.inr hwpol)
  rw [if_neg hwpol]
  refine Program.holds_call_log hlog trivial fun symbol hlog => holds_ofExcept_bind fun _ _ => ?_
  have hallowed : Allowed keeper (t ++ [profitRead x profit] ++ [⟨.getTokenSymbol x, symbol⟩])
      (.distributeProfits x (breetAddressFor x)) := by
    refine ⟨?_, hwpol, ⟨profit, hzero, by simp⟩, breetAddressFor_eq_breet_iff⟩
    rintro e he ⟨breetAddr, hop⟩
    simp only [List.mem_append, List.mem_singleton, or_assoc] at he
    rcases he with he | rfl | rfl
    · exact h.unsent x List.mem_cons_self e he ⟨breetAddr, hop⟩
    · cases hop
    · cases hop
  refine Program.holds_call_log hlog hallowed fun r hlog => holds_ofExcept_bind fun tx htx => ?_
  obtain rfl : r = .ok tx := context_eq_ok htx
  exact holds_confirmations hlog fun receipt hlog => h.settle rfl hlog

/-- The loop over the assets, each visited once. -/
lemma holds_forM_distributeAsset (h : Visiting keeper start order order t) :
    (order.forM distributeAsset).Holds (.log _) (EachCall (Allowed keeper))
      (Returns (Visiting keeper start order [])) t := by
  refine Program.holds_forM (Visiting keeper start order) h (fun x rest t hvisit => ?_)
    fun t hend _ => hend
  refine (holds_distributeAsset hvisit).mono fun o t hreturns => ?_
  cases o with
  | error e => exact nofun
  | ok u => exact hreturns rfl

/-! ### A run -/

lemma holds_distributeAllAssets (h : BeforeLoop keeper t) :
    (distributeAllAssets T).Holds (.log _) (EachCall (Allowed keeper))
      (Returns (Complete T)) t := by
  simp only [distributeAllAssets, fetchAssets]
  refine Program.holds_call_log h.allowed trivial fun r hlog =>
    holds_ofExcept_bind fun rows hrows => ?_
  obtain rfl : r = .ok rows := hrows
  have hfetched : BeforeLoop keeper (t ++ [⟨.fetchAssets, .ok rows⟩]) := h.append hlog nofun nofun
  refine Program.holds_call_log hlog trivial fun order hlog => ?_
  have hbefore : BeforeLoop keeper (t ++ [⟨.fetchAssets, .ok rows⟩]
      ++ [⟨.visitAssets (collectAssets T rows), order⟩]) := hfetched.append hlog nofun nofun
  have hvisiting : Visiting keeper
      [⟨.fetchAssets, .ok rows⟩, ⟨.visitAssets (collectAssets T rows), order⟩] order.val order.val
      (t ++ [⟨.fetchAssets, .ok rows⟩] ++ [⟨.visitAssets (collectAssets T rows), order⟩]) := by
    refine ⟨order.property.1, hlog, by simp, fun asset _ e he => hbefore.unsent e he asset,
      fun asset hasset => Or.inl hasset, ?_⟩
    intro asset profit hprofit _ hwpol
    exact absurd (hbefore.read asset profit hprofit) hwpol
  refine (holds_forM_distributeAsset hvisiting).mono fun o t hreturns ho => ?_
  have hend := hreturns ho
  refine ⟨⟨rows, order, hend.started (by simp), hend.started (by simp), ?_⟩, hend.settled⟩
  intro asset hasset
  exact (hend.read asset ((order.property.2 asset).mpr hasset)).resolve_left List.not_mem_nil

/-- Whatever the replies, each call of a run is allowed by the calls before it, and a run that
returns has settled everything. -/
theorem holds_execute (T : EthersText) (keeper : Address) :
    (execute T keeper).Holds (.log _) (EachCall (Allowed keeper)) (Returns (Complete T)) [] := by
  rw [execute, Program.holds_bind]
  refine holds_ensureGasBalance.mono fun o t hreturns => ?_
  cases o with
  | error e => exact nofun
  | ok u => exact holds_distributeAllAssets (hreturns rfl)

/-! ### The schedule -/

/-- The flag counts the runs that wait, and each run does what a run may do. -/
structure Sound (T : EthersText) (keeper : Address) (s : ProfitDistributor) : Prop where
  exclusive : s.runs.countP SettlementRun.active = s.running.toNat
  each : ∀ run ∈ s.runs, EachCall (Allowed keeper) run.calls ∧
    run.rest.Holds (.log _) (EachCall (Allowed keeper)) (Returns (Complete T)) run.calls

/-- A run that waits holds the flag, and no other run waits. -/
lemma countP_of_active {running : Bool} {before after : List SettlementRun}
    {run run' : SettlementRun} (hactive : run.active = true)
    (h : (before ++ run :: after).countP SettlementRun.active = running.toNat) :
    (before ++ run' :: after).countP SettlementRun.active = (running && run'.active).toNat := by
  rw [List.countP_append, List.countP_cons_of_pos hactive] at h
  rw [List.countP_append, List.countP_cons]
  cases running with
  | false => simp at h
  | true =>
    have hothers : before.countP SettlementRun.active + after.countP SettlementRun.active = 0 :=
      Nat.succ.inj h
    cases run'.active with
    | false => exact hothers
    | true => exact congrArg Nat.succ hothers

lemma sound_step : Preserves (Step T keeper) (Sound T keeper) := by
  intro s s' hstep h
  cases hstep with
  | skip runs => exact h
  | tick runs =>
    refine ⟨?_, fun run hmem => ?_⟩
    · rw [List.countP_append, h.exclusive]
      rfl
    · rcases List.mem_append.mp hmem with hmem | hmem
      · exact h.each run hmem
      · rw [List.mem_singleton.mp hmem]
        exact ⟨eachCall_nil, holds_execute T keeper⟩
  | reply running before after calls op next reply =>
    refine ⟨countP_of_active rfl h.exclusive, forall_mem_of_part h.each ?_⟩
    rintro ⟨-, hholds⟩
    exact hholds reply _ rfl

end ProfitDistributor

open ProfitDistributor

/-- For every sequence of ticks and all replies: at most one run waits for a reply, the flag is
taken exactly while one does, each call of a run is allowed by the calls before it, and a run that
returned without an error has settled everything. -/
theorem settlement_exclusive (T : EthersText) (keeper : Address) (s : ProfitDistributor)
    (hrun : Run (ProfitDistributor.Step T keeper) .new s) :
    s.runs.countP SettlementRun.active ≤ 1 ∧
    (s.running = true ↔ ∃ run ∈ s.runs, run.active = true) ∧
    ∀ run ∈ s.runs, EachCall (Allowed keeper) run.calls ∧
      (run.rest = .ret ⟨⟩ → Complete T run.calls) := by
  have hsound : Sound T keeper s := sound_step.run hrun ⟨rfl, by simp [ProfitDistributor.new]⟩
  refine ⟨?_, ?_, fun run hmem => ⟨(hsound.each run hmem).1, fun hend => ?_⟩⟩
  · rw [hsound.exclusive]
    exact Bool.toNat_le s.running
  · rw [← List.countP_pos_iff, hsound.exclusive]
    cases s.running <;> simp
  · have hholds := (hsound.each run hmem).2
    rw [hend] at hholds
    exact hholds rfl

/-! ### A sample run -/

namespace ProfitDistributor

/-- A run goes through the calls of any of its traces, and gives the flag back. -/
lemma run_of_trace {T : EthersText} {keeper : Address} {p : DistributorM PUnit}
    {calls t : List (Event distributorPorts)} (ht : p.Trace t (.ok ⟨⟩)) :
    Run (Step T keeper) ⟨SettlementRun.active ⟨calls, p⟩, [⟨calls, p⟩]⟩
      ⟨false, [⟨calls ++ t, .ret ⟨⟩⟩]⟩ := by
  induction p generalizing calls t with
  | ret a =>
    obtain ⟨rfl, -⟩ := ht
    rw [List.append_nil]
    exact .refl
  | fail e => cases ht.2
  | call op next ih =>
    obtain ⟨reply, t', rfl, ht'⟩ := ht
    have hrest : Run (Step T keeper) ⟨_, [⟨calls ++ [⟨op, reply⟩], next reply⟩]⟩ _ := ih reply ht'
    rw [List.append_assoc] at hrest
    exact .head (.reply true [] [] calls op next reply) hrest

/-- The contract has 5 of USDC. -/
def samplePayment (asset : Address) : List SettlementEvent :=
  if asset = usdc then
    [profitRead usdc 5, ⟨.getTokenSymbol usdc, (.ok [] : Except String Text)⟩,
      distributed usdc (.zero 32), confirmed (.zero 32) (.zero 32)]
  else [profitRead asset 0]

lemma samplePayment_trace (order : List Address) :
    (order.forM distributeAsset : DistributorM PUnit).Trace (order.flatMap samplePayment)
      (.ok ⟨⟩) := by
  induction order with
  | nil => exact ⟨rfl, rfl⟩
  | cons asset order ih =>
    change (distributeAsset asset >>= fun _ => order.forM distributeAsset).Trace _ _
    rw [List.flatMap_cons, Program.trace_bind]
    refine Or.inr ⟨_, _, ⟨⟩, rfl, ?_, ih⟩
    rw [samplePayment]
    split
    · next husdc =>
      subst husdc
      exact ⟨_, _, rfl, _, _, rfl, _, _, rfl, _, _, rfl, rfl, rfl⟩
    · exact ⟨_, _, rfl, rfl, rfl⟩

/-- The wallet has 1 ether, and the contract 200 of the native token. -/
def sampleRefuel : List SettlementEvent :=
  [balanceRead (.ofNat 20 7) 1000000000000000000, profitRead wpol 200000000000000000000,
    ⟨.refuelGas 99000000000000000000, (.ok (.zero 32) : Except String H256)⟩,
    confirmed (.zero 32) (.zero 32)]

lemma sampleRefuel_trace : (ensureGasBalance (.ofNat 20 7)).Trace sampleRefuel (.ok ⟨⟩) :=
  ⟨_, _, rfl, _, _, rfl, _, _, rfl, _, _, rfl, rfl, rfl⟩

end ProfitDistributor

/-- Of two ticks the second is skipped. The first run refuels, finds no recorded liquidation, pays
out the profits in USDC and gives the flag back. -/
theorem settlement_exclusive_sample : ∃ s,
    Run (ProfitDistributor.Step .reference (.ofNat 20 7)) .new s ∧ s.running = false ∧
      s.runs.countP SettlementRun.active ≤ 1 ∧
      ∃ run ∈ s.runs, sampleRefuel <+: run.calls ∧ Settled run.calls usdc := by
  let order : (DistributorOp.visitAssets (collectAssets .reference [])).Reply :=
    ⟨profitDistAssets, by decide, fun a => List.mem_toFinset.symm⟩
  have hloop : (distributeAllAssets .reference).Trace (⟨.fetchAssets, .ok []⟩ ::
      ⟨.visitAssets (collectAssets .reference []), order⟩ ::
        profitDistAssets.flatMap samplePayment) (.ok ⟨⟩) :=
    ⟨_, _, rfl, _, _, rfl, samplePayment_trace _⟩
  have htrace : (execute .reference (.ofNat 20 7)).Trace (sampleRefuel ++ _) (.ok ⟨⟩) :=
    (Program.trace_bind _ _ _ _).mpr (Or.inr ⟨_, _, ⟨⟩, rfl, sampleRefuel_trace, hloop⟩)
  have hticks : Run (ProfitDistributor.Step .reference (.ofNat 20 7)) .new
      ⟨true, [⟨[], execute .reference (.ofNat 20 7)⟩]⟩ :=
    (Relation.ReflTransGen.single (.tick [])).tail (.skip _)
  have hrun := hticks.trans (ProfitDistributor.run_of_trace htrace)
  obtain ⟨hone, -, hruns⟩ := settlement_exclusive _ _ _ hrun
  have hcomplete := (hruns _ List.mem_cons_self).2 rfl
  refine ⟨_, hrun, rfl, hone, _, List.mem_cons_self, List.prefix_append _ _, ?_⟩
  have hread : profitRead usdc 5 ∈ profitDistAssets.flatMap samplePayment :=
    List.mem_flatMap.mpr ⟨usdc, by decide, by simp [samplePayment]⟩
  exact hcomplete.settled usdc 5 (List.mem_append_right sampleRefuel
    (List.mem_cons_of_mem _ (List.mem_cons_of_mem _ hread))) (by decide) (by decide)

end LiqRanger
