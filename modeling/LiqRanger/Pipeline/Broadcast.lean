import LiqRanger.Pipeline.Engine

/-!
# What a broadcast rests on

Every execution of `processPayload` either makes no broadcast or runs through one of two
sequences of calls, `BroadcastRun`: the position is unchanged at the refresh, or it is quoted
and simulated again. What a broadcast guarantees is read off these two sequences.
-/

namespace LiqRanger

open Effect

variable {ρ : Type}

/-! ### The calls and their replies -/

def quoteEvent (profile : BorrowerProfile) (reply : Except String MarketQuote) :
    Event (ports ρ) :=
  ⟨PipelineOp.getSwapQuote profile.collateralAsset profile.debtAsset profile.srcDecimals
    profile.destDecimals profile.seizeAmount, reply⟩

def simulateEvent (blockNumber : U64) (job : LiquidationJob) (reply : Except String U64) :
    Event (ports ρ) :=
  ⟨PipelineOp.simulateLiquidation blockNumber job, reply⟩

def refreshEvent (reader : ρ) (identity : Text) (reply : Except String BorrowerProfile) :
    Event (ports ρ) :=
  ⟨PipelineOp.refreshBorrower reader identity, reply⟩

def executeEvent (job : LiquidationJob) (gasLimit : U256) (reply : Except String H256) :
    Event (ports ρ) :=
  ⟨PipelineOp.executeLiquidation job gasLimit, reply⟩

/-- The event is a call of `execute_liquidation`. -/
def isBroadcast (e : Event (ports ρ)) : Bool :=
  match e.op with
  | .executeLiquidation .. => true
  | _ => false

/-- The event is a call of `refresh_borrower`. -/
def isRefresh (e : Event (ports ρ)) : Bool :=
  match e.op with
  | .refreshBorrower .. => true
  | _ => false

/-- The profile a refresh answered. -/
def refreshedProfile? (e : Event (ports ρ)) : Option BorrowerProfile :=
  match e with
  | ⟨.refreshBorrower .., reply⟩ => (reply : Except String BorrowerProfile).toOption
  | _ => none

/-- The quote answered to a request from `src` to `dest`. -/
def quoteFor? (src dest : Address) (amount : U256) (e : Event (ports ρ)) : Option MarketQuote :=
  match e with
  | ⟨.getSwapQuote src' dest' _ _ amount', reply⟩ =>
    if src' = src ∧ dest' = dest ∧ amount' = amount then
      (reply : Except String MarketQuote).toOption
    else none
  | _ => none

/-- The quote answered to any request. -/
def anyQuote? (e : Event (ports ρ)) : Option MarketQuote :=
  match e with
  | ⟨.getSwapQuote .., reply⟩ => (reply : Except String MarketQuote).toOption
  | _ => none

section
variable (profile : BorrowerProfile) (job : LiquidationJob) (blockNumber : U64) (reader : ρ)
  (identity : Text) (gasLimit : U256)

@[simp] lemma isBroadcast_quoteEvent (reply : Except String MarketQuote) :
    isBroadcast (quoteEvent profile reply : Event (ports ρ)) = false := rfl

@[simp] lemma isBroadcast_simulateEvent (reply : Except String U64) :
    isBroadcast (simulateEvent blockNumber job reply : Event (ports ρ)) = false := rfl

@[simp] lemma isBroadcast_refreshEvent (reply : Except String BorrowerProfile) :
    isBroadcast (refreshEvent reader identity reply) = false := rfl

@[simp] lemma isBroadcast_executeEvent (reply : Except String H256) :
    isBroadcast (executeEvent job gasLimit reply : Event (ports ρ)) = true := rfl

@[simp] lemma isRefresh_refreshEvent (reply : Except String BorrowerProfile) :
    isRefresh (refreshEvent reader identity reply) = true := rfl

@[simp] lemma quoteFor?_quoteEvent (src dest : Address) (amount : U256)
    (reply : Except String MarketQuote) :
    quoteFor? src dest amount (quoteEvent profile reply : Event (ports ρ)) =
      if profile.collateralAsset = src ∧ profile.debtAsset = dest ∧ profile.seizeAmount = amount
      then reply.toOption else none := rfl

@[simp] lemma quoteFor?_simulateEvent (src dest : Address) (amount : U256)
    (reply : Except String U64) :
    quoteFor? src dest amount (simulateEvent blockNumber job reply : Event (ports ρ)) = none := rfl

@[simp] lemma quoteFor?_refreshEvent (src dest : Address) (amount : U256)
    (reply : Except String BorrowerProfile) :
    quoteFor? src dest amount (refreshEvent reader identity reply) = none := rfl

@[simp] lemma quoteFor?_executeEvent (src dest : Address) (amount : U256)
    (reply : Except String H256) :
    quoteFor? src dest amount (executeEvent job gasLimit reply : Event (ports ρ)) = none := rfl

@[simp] lemma anyQuote?_quoteEvent (reply : Except String MarketQuote) :
    anyQuote? (quoteEvent profile reply : Event (ports ρ)) = reply.toOption := rfl

@[simp] lemma anyQuote?_simulateEvent (reply : Except String U64) :
    anyQuote? (simulateEvent blockNumber job reply : Event (ports ρ)) = none := rfl

@[simp] lemma anyQuote?_refreshEvent (reply : Except String BorrowerProfile) :
    anyQuote? (refreshEvent reader identity reply) = none := rfl

@[simp] lemma anyQuote?_executeEvent (reply : Except String H256) :
    anyQuote? (executeEvent job gasLimit reply : Event (ports ρ)) = none := rfl

end

lemma executeEvent_inj {job job' : LiquidationJob} {gasLimit gasLimit' : U256}
    {reply reply' : Except String H256}
    (h : (executeEvent job gasLimit reply : Event (ports ρ)) = executeEvent job' gasLimit' reply') :
    job = job' ∧ gasLimit = gasLimit' := by
  have hop := congrArg Event.op h
  simpa only [executeEvent, PipelineOp.executeLiquidation.injEq] using hop

/-! ### Two ways to a broadcast -/

/-- The executions that broadcast `job` with gas `gas`, after the refresh answered
`refreshed`. -/
inductive BroadcastRun (payload : LiqPayload ρ) (refreshed : BorrowerProfile) :
    LiquidationJob → U64 → List (Event (ports ρ)) → Prop where
  | unchanged (quote : MarketQuote) (gas : U64) (reply : Except String H256)
      (hvalid : validateProfile payload.profile = true)
      (hprofit : payload.profile.debtToCover ≤ quote.minAmtOut)
      (hdebt : refreshed.debtToCover = payload.profile.debtToCover)
      (hseize : refreshed.seizeAmount = payload.profile.seizeAmount) :
      BroadcastRun payload refreshed (buildLiquidationJob payload.profile quote) gas
        [quoteEvent payload.profile (.ok quote),
          simulateEvent payload.blockNumber (buildLiquidationJob payload.profile quote) (.ok gas),
          refreshEvent payload.reader payload.profile.identity (.ok refreshed),
          executeEvent (buildLiquidationJob payload.profile quote) (gasLimitOf gas) reply]
  | requoted (quote newQuote : MarketQuote) (gas newGas : U64) (reply : Except String H256)
      (hvalid : validateProfile payload.profile = true)
      (hprofit : payload.profile.debtToCover ≤ quote.minAmtOut)
      (hchanged : refreshed.debtToCover ≠ payload.profile.debtToCover ∨
        refreshed.seizeAmount ≠ payload.profile.seizeAmount)
      (hnewProfit : refreshed.debtToCover ≤ newQuote.minAmtOut) :
      BroadcastRun payload refreshed
        ((buildLiquidationJob payload.profile quote).revalidated refreshed newQuote) newGas
        [quoteEvent payload.profile (.ok quote),
          simulateEvent payload.blockNumber (buildLiquidationJob payload.profile quote) (.ok gas),
          refreshEvent payload.reader payload.profile.identity (.ok refreshed),
          quoteEvent refreshed (.ok newQuote),
          simulateEvent 0
            ((buildLiquidationJob payload.profile quote).revalidated refreshed newQuote)
            (.ok newGas),
          executeEvent
            ((buildLiquidationJob payload.profile quote).revalidated refreshed newQuote)
            (gasLimitOf newGas) reply]

/-- What a broadcast job takes from where: the debt to cover from the profile that was read again,
the shares or the collateral from that one or from the scan, and the rest from the scan. -/
structure SizedBy (scanned refreshed : BorrowerProfile) (job : LiquidationJob) : Prop where
  borrower_eq : job.borrower = scanned.address
  collateralAsset_eq : job.collateralAsset = scanned.collateralAsset
  debtAsset_eq : job.debtAsset = scanned.debtAsset
  protocol_eq : job.protocol = scanned.protocol
  marketId_eq : job.marketId = scanned.marketId
  identity_eq : job.identity = scanned.identity
  debtToCover_eq : job.debtToCover = refreshed.debtToCover
  amounts : (job.repaidShares = scanned.repaidShares ∧ job.seizedAssets = scanned.seizedAssets) ∨
    (job.repaidShares = refreshed.repaidShares ∧ job.seizedAssets = refreshed.seizedAssets)

lemma BroadcastRun.sizedBy {payload : LiqPayload ρ} {refreshed : BorrowerProfile}
    {job : LiquidationJob} {gas : U64} {t : List (Event (ports ρ))}
    (h : BroadcastRun payload refreshed job gas t) : SizedBy payload.profile refreshed job := by
  cases h with
  | unchanged quote gas reply hvalid hprofit hdebt hseize =>
    exact ⟨rfl, rfl, rfl, rfl, rfl, rfl, hdebt.symm, Or.inl ⟨rfl, rfl⟩⟩
  | requoted => exact ⟨rfl, rfl, rfl, rfl, rfl, rfl, rfl, Or.inr ⟨rfl, rfl⟩⟩

/-- One quote is asked for; it goes through only if it covers the debt. -/
lemma fetchAndValidateQuote_trace {profile : BorrowerProfile} {t : List (Event (ports ρ))}
    {o : Except Empty (Option MarketQuote)} (h : (fetchAndValidateQuote profile).Trace t o) :
    ∃ reply, t = [quoteEvent profile reply] ∧
      (o = .ok none ∨ ∃ quote, reply = .ok quote ∧
        profile.debtToCover ≤ quote.minAmtOut ∧ o = .ok (some quote)) := by
  obtain ⟨reply, t', rfl, h⟩ := h
  refine ⟨reply, ?_⟩
  match reply with
  | .error e =>
    obtain ⟨rfl, rfl⟩ := h
    exact ⟨rfl, Or.inl rfl⟩
  | .ok quote =>
    by_cases hlt : quote.minAmtOut < profile.debtToCover
    · simp only [Program.bind, if_pos hlt, Program.pure_eq_ret, Program.trace_ret] at h
      obtain ⟨rfl, rfl⟩ := h
      exact ⟨rfl, Or.inl rfl⟩
    · simp only [Program.bind, if_neg hlt, Program.pure_eq_ret, Program.trace_ret] at h
      obtain ⟨rfl, rfl⟩ := h
      exact ⟨rfl, Or.inr ⟨quote, rfl, BitVec.not_lt.mp hlt, rfl⟩⟩

/-- One simulation is asked for, and its gas is the answer. -/
lemma simulateJob_trace {blockNumber : U64} {job : LiquidationJob}
    {t : List (Event (ports ρ))} {o : Except Empty (Option U64)}
    (h : (simulateJob blockNumber job).Trace t o) :
    ∃ reply, t = [simulateEvent blockNumber job reply] ∧
      (o = .ok none ∨ ∃ gas, reply = .ok gas ∧ o = .ok (some gas)) := by
  obtain ⟨reply, t', rfl, h⟩ := h
  refine ⟨reply, ?_⟩
  match reply with
  | .error e =>
    obtain ⟨rfl, rfl⟩ := h
    exact ⟨rfl, Or.inl rfl⟩
  | .ok gas =>
    obtain ⟨rfl, rfl⟩ := h
    exact ⟨rfl, Or.inr ⟨gas, rfl, rfl⟩⟩

/-- Re-validation quotes, and if the quote covers the refreshed debt it simulates the job with
the refreshed amounts and the new swap. -/
lemma tryRevalidateAndSimulate_trace {refreshed : BorrowerProfile} {job : LiquidationJob}
    {t : List (Event (ports ρ))} {o : Except String TxPayload}
    (h : (tryRevalidateAndSimulate refreshed job).Trace t o) :
    (∀ e ∈ t, isBroadcast e = false) ∧
      ((∃ msg, o = .error msg) ∨ ∃ newQuote newGas,
        refreshed.debtToCover ≤ newQuote.minAmtOut ∧
        t = [quoteEvent refreshed (.ok newQuote),
          simulateEvent 0 (job.revalidated refreshed newQuote) (.ok newGas)] ∧
        o = .ok ⟨job.revalidated refreshed newQuote, newGas⟩) := by
  obtain ⟨reply, t', rfl, h⟩ := h
  cases reply with
  | error e =>
    obtain ⟨rfl, rfl⟩ := h
    exact ⟨List.forall_mem_singleton.mpr rfl, Or.inl ⟨e, rfl⟩⟩
  | ok newQuote =>
    by_cases hlt : newQuote.minAmtOut < refreshed.debtToCover
    · simp only [Program.bind, Program.ofExcept_ok, Program.ret_bind, if_pos hlt,
        Program.trace_fail] at h
      obtain ⟨rfl, rfl⟩ := h
      exact ⟨List.forall_mem_singleton.mpr rfl, Or.inl ⟨_, rfl⟩⟩
    · simp only [Program.bind, Program.ofExcept_ok, Program.ret_bind, if_neg hlt] at h
      obtain ⟨simulated, t'', rfl, h⟩ := h
      have hbroadcast : ∀ reply', ∀ e ∈ [quoteEvent refreshed (.ok newQuote),
          simulateEvent 0 (job.revalidated refreshed newQuote) reply'],
          isBroadcast (e : Event (ports ρ)) = false := by
        simp
      cases simulated with
      | error e =>
        obtain ⟨rfl, rfl⟩ := h
        exact ⟨hbroadcast (.error e), Or.inl ⟨e, rfl⟩⟩
      | ok newGas =>
        obtain ⟨rfl, rfl⟩ := h
        exact ⟨hbroadcast (.ok newGas),
          Or.inr ⟨newQuote, newGas, BitVec.not_lt.mp hlt, rfl, rfl⟩⟩

/-- The guard goes on in two cases: the two compared amounts are those of the job, which then
stays as it is, or the job was re-validated. -/
lemma jitRefreshGuard_trace {payload : LiqPayload ρ} {job : LiquidationJob} {gas : U64}
    {t : List (Event (ports ρ))} {o : Except Empty (Bool × LiquidationJob × U64)}
    (h : (jitRefreshGuard payload job gas).Trace t o) :
    (∀ e ∈ t, isBroadcast e = false) ∧
      ((∃ job' gas', o = .ok (false, job', gas')) ∨ ∃ refreshed,
        (refreshed.debtToCover = job.debtToCover ∧ refreshed.seizeAmount = job.seizeAmount ∧
          t = [refreshEvent payload.reader job.identity (.ok refreshed)] ∧
          o = .ok (true, job, gas)) ∨
        ((refreshed.debtToCover ≠ job.debtToCover ∨ refreshed.seizeAmount ≠ job.seizeAmount) ∧
          ∃ newQuote newGas, refreshed.debtToCover ≤ newQuote.minAmtOut ∧
            t = [refreshEvent payload.reader job.identity (.ok refreshed),
              quoteEvent refreshed (.ok newQuote),
              simulateEvent 0 (job.revalidated refreshed newQuote) (.ok newGas)] ∧
            o = .ok (true, job.revalidated refreshed newQuote, newGas))) := by
  obtain ⟨reply, t', rfl, h⟩ := h
  match reply with
  | .error e =>
    obtain ⟨rfl, rfl⟩ := h
    exact ⟨List.forall_mem_singleton.mpr rfl, Or.inl ⟨job, gas, rfl⟩⟩
  | .ok refreshed =>
    by_cases hsame : refreshed.debtToCover = job.debtToCover ∧
        refreshed.seizeAmount = job.seizeAmount
    · simp only [Program.bind, hsame.1, hsame.2, bne_self_eq_false, Bool.or_self, Bool.not_false,
        if_true, Program.pure_eq_ret, Program.trace_ret] at h
      obtain ⟨rfl, rfl⟩ := h
      exact ⟨List.forall_mem_singleton.mpr rfl,
        Or.inr ⟨refreshed, Or.inl ⟨hsame.1, hsame.2, rfl, rfl⟩⟩⟩
    · have hchanged : refreshed.debtToCover ≠ job.debtToCover ∨
          refreshed.seizeAmount ≠ job.seizeAmount := by
        rwa [not_and_or] at hsame
      have hflag : (!(refreshed.debtToCover != job.debtToCover
          || refreshed.seizeAmount != job.seizeAmount)) = false := by
        simpa using hsame
      simp only [Program.bind, hflag, Bool.false_eq_true, if_false] at h
      rw [Program.trace_bind] at h
      rcases h with ⟨e, -, -⟩ | ⟨t₁, t₂, outcome, rfl, h₁, h₂⟩
      · exact e.elim
      · obtain ⟨o', h₁, ho'⟩ := (Program.trace_attempt _ _ _).mp h₁
        cases ho'
        obtain ⟨hquiet, ⟨msg, rfl⟩ | ⟨newQuote, newGas, hcovers, rfl, rfl⟩⟩ :=
          tryRevalidateAndSimulate_trace h₁
        · obtain ⟨rfl, rfl⟩ := h₂
          refine ⟨List.forall_mem_cons.mpr ⟨rfl, ?_⟩, Or.inl ⟨job, gas, rfl⟩⟩
          simpa using hquiet
        · obtain ⟨rfl, rfl⟩ := h₂
          exact ⟨List.forall_mem_cons.mpr ⟨rfl, by simp⟩,
            Or.inr ⟨refreshed, Or.inr ⟨hchanged, newQuote, newGas, hcovers, rfl, rfl⟩⟩⟩

/-- An execution either broadcasts nothing or is one of the two broadcast runs. -/
theorem processPayload_trace {payload : LiqPayload ρ} {t : List (Event (ports ρ))}
    {o : Except Empty Unit} (h : (processPayload payload).Trace t o) :
    (∀ e ∈ t, isBroadcast e = false) ∨
      ∃ refreshed job gas, BroadcastRun payload refreshed job gas t := by
  by_cases hvalid : validateProfile payload.profile
  · simp only [processPayload, hvalid, Bool.not_true, Bool.false_eq_true, if_false] at h
    rw [Program.trace_bind] at h
    rcases h with ⟨e, -, -⟩ | ⟨t₁, t₂, quote?, rfl, h₁, h⟩
    · exact e.elim
    obtain ⟨reply, rfl, hnone | ⟨quote, rfl, hprofit, hsome⟩⟩ := fetchAndValidateQuote_trace h₁
    · cases hnone
      obtain ⟨rfl, -⟩ := h
      exact Or.inl (List.forall_mem_singleton.mpr rfl)
    · cases hsome
      rw [Program.trace_bind] at h
      rcases h with ⟨e, -, -⟩ | ⟨t₁, t₂, gas?, rfl, h₁, h⟩
      · exact e.elim
      obtain ⟨reply, rfl, hnone | ⟨gas, rfl, hsome⟩⟩ := simulateJob_trace h₁
      · cases hnone
        obtain ⟨rfl, -⟩ := h
        exact Or.inl (by simp)
      · cases hsome
        rw [Program.trace_bind] at h
        rcases h with ⟨e, -, -⟩ | ⟨t₁, t₂, ⟨goOn, job, gasUsed⟩, rfl, h₁, h⟩
        · exact e.elim
        obtain ⟨hquiet, ⟨job', gas', hstop⟩ | ⟨refreshed, hgo⟩⟩ := jitRefreshGuard_trace h₁
        · cases hstop
          obtain ⟨rfl, -⟩ := h
          exact Or.inl (by simpa using hquiet)
        · refine Or.inr ⟨refreshed, ?_⟩
          rcases hgo with ⟨hdebt, hseize, rfl, hok⟩ |
            ⟨hchanged, newQuote, newGas, hcovers, rfl, hok⟩
          · cases hok
            obtain ⟨result, t', rfl, rfl, -⟩ := h
            exact ⟨_, _, .unchanged quote gas result hvalid hprofit hdebt hseize⟩
          · cases hok
            obtain ⟨result, t', rfl, rfl, -⟩ := h
            exact ⟨_, _, .requoted quote newQuote gas _ result hvalid hprofit hchanged
              hcovers⟩
  · simp only [processPayload, hvalid, Bool.not_false, if_true, Program.pure_eq_ret,
      Program.trace_ret] at h
    obtain ⟨rfl, -⟩ := h
    exact Or.inl (by simp)

/-! ### The runs exist -/

lemma fetchAndValidateQuote_accepts {profile : BorrowerProfile} {quote : MarketQuote}
    (hprofit : profile.debtToCover ≤ quote.minAmtOut) :
    (fetchAndValidateQuote profile : Program (ports ρ) _ _).Trace
      [quoteEvent profile (.ok quote)] (.ok (some quote)) := by
  refine ⟨.ok quote, [], rfl, ?_⟩
  simp only [Program.bind, if_neg (BitVec.not_lt.mpr hprofit)]
  exact ⟨rfl, rfl⟩

lemma simulateJob_returns (blockNumber : U64) (job : LiquidationJob) (gas : U64) :
    (simulateJob blockNumber job : Program (ports ρ) _ _).Trace
      [simulateEvent blockNumber job (.ok gas)] (.ok (some gas)) :=
  ⟨.ok gas, [], rfl, rfl, rfl⟩

lemma jitRefreshGuard_unchanged {payload : LiqPayload ρ} {job : LiquidationJob}
    {refreshed : BorrowerProfile} (gas : U64) (hdebt : refreshed.debtToCover = job.debtToCover)
    (hseize : refreshed.seizeAmount = job.seizeAmount) :
    (jitRefreshGuard payload job gas).Trace
      [refreshEvent payload.reader job.identity (.ok refreshed)] (.ok (true, job, gas)) := by
  refine ⟨.ok refreshed, [], rfl, ?_⟩
  simp only [Program.bind, hdebt, hseize, bne_self_eq_false, Bool.or_self, Bool.not_false, if_true]
  exact ⟨rfl, rfl⟩

lemma jitRefreshGuard_requoted {payload : LiqPayload ρ} {job : LiquidationJob}
    {refreshed : BorrowerProfile} {newQuote : MarketQuote} (gas newGas : U64)
    (hchanged : refreshed.debtToCover ≠ job.debtToCover ∨
      refreshed.seizeAmount ≠ job.seizeAmount)
    (hcovers : refreshed.debtToCover ≤ newQuote.minAmtOut) :
    (jitRefreshGuard payload job gas).Trace
      [refreshEvent payload.reader job.identity (.ok refreshed),
        quoteEvent refreshed (.ok newQuote),
        simulateEvent 0 (job.revalidated refreshed newQuote) (.ok newGas)]
      (.ok (true, job.revalidated refreshed newQuote, newGas)) := by
  have hflag : (!(refreshed.debtToCover != job.debtToCover
      || refreshed.seizeAmount != job.seizeAmount)) = false := by
    simpa [← not_and_or] using hchanged
  have htry : (tryRevalidateAndSimulate refreshed job : Program (ports ρ) _ _).Trace
      [quoteEvent refreshed (.ok newQuote),
        simulateEvent 0 (job.revalidated refreshed newQuote) (.ok newGas)]
      (.ok ⟨job.revalidated refreshed newQuote, newGas⟩) := by
    refine ⟨.ok newQuote, _, rfl, ?_⟩
    simp only [Program.bind, Program.ofExcept_ok, Program.ret_bind,
      if_neg (BitVec.not_lt.mpr hcovers)]
    exact ⟨.ok newGas, [], rfl, rfl, rfl⟩
  refine ⟨.ok refreshed, _, rfl, ?_⟩
  simp only [Program.bind, hflag, Bool.false_eq_true, if_false]
  refine (Program.trace_bind _ _ _ _).mpr (Or.inr ⟨_, [], _, (List.append_nil _).symm,
    (Program.trace_attempt _ _ _).mpr ⟨_, htry, rfl⟩, rfl, rfl⟩)

/-- A quote, a simulation and a passed guard make an execution that ends in a broadcast. -/
lemma processPayload_of_guard {payload : LiqPayload ρ} {quote : MarketQuote}
    {job : LiquidationJob} {gas newGas : U64} {t : List (Event (ports ρ))}
    (hvalid : validateProfile payload.profile = true)
    (hprofit : payload.profile.debtToCover ≤ quote.minAmtOut)
    (hguard : (jitRefreshGuard payload (buildLiquidationJob payload.profile quote) gas).Trace t
      (.ok (true, job, newGas))) (reply : Except String H256) :
    (processPayload payload).Trace
      ([quoteEvent payload.profile (.ok quote)] ++
        ([simulateEvent payload.blockNumber (buildLiquidationJob payload.profile quote)
          (.ok gas)] ++ (t ++ [executeEvent job (gasLimitOf newGas) reply]))) (.ok ()) := by
  simp only [processPayload, hvalid, Bool.not_true, Bool.false_eq_true, if_false]
  refine (Program.trace_bind _ _ _ _).mpr
    (Or.inr ⟨_, _, _, rfl, fetchAndValidateQuote_accepts hprofit, ?_⟩)
  refine (Program.trace_bind _ _ _ _).mpr
    (Or.inr ⟨_, _, _, rfl, simulateJob_returns _ _ gas, ?_⟩)
  refine (Program.trace_bind _ _ _ _).mpr (Or.inr ⟨_, _, _, rfl, hguard, ?_⟩)
  exact ⟨reply, [], rfl, rfl, rfl⟩

/-- Both broadcast runs are executions of `processPayload`. -/
theorem BroadcastRun.trace {payload : LiqPayload ρ} {refreshed : BorrowerProfile}
    {job : LiquidationJob} {gas : U64} {t : List (Event (ports ρ))}
    (h : BroadcastRun payload refreshed job gas t) : (processPayload payload).Trace t (.ok ()) := by
  cases h with
  | unchanged quote gas reply hvalid hprofit hdebt hseize =>
    exact processPayload_of_guard hvalid hprofit (jitRefreshGuard_unchanged gas hdebt hseize) reply
  | requoted quote newQuote gas newGas reply hvalid hprofit hchanged hnewProfit =>
    exact processPayload_of_guard hvalid hprofit
      (jitRefreshGuard_requoted gas _ hchanged hnewProfit) reply

end LiqRanger
