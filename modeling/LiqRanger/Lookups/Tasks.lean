import LiqRanger.Aave.Adapter
import LiqRanger.Effect.Memo
import LiqRanger.Effect.Responder
import LiqRanger.Morpho.Adapter
import LiqRanger.Records.History
import LiqRanger.Settlement.Engine

/-!
# Tasks that share lookups

Decimals, symbols and aTokens are looked up in three caches that all tasks share. The models of the
tasks take a lookup for one call that the token or the pool answers. Here each lookup is carried out
as the code does it, in any interleaving with the others, and nothing changes (`lookups_direct`).
-/

namespace LiqRanger

open Effect Transition

variable {φ : Type}

/-! ### Lookups -/

inductive Lookup where
  | tokenDecimals (token : Address)
  | tokenSymbol (token : Address)
  | atokensAddr (asset : Address)
  deriving DecidableEq

/-- What each cache holds. -/
abbrev Lookup.Value : Lookup → Type
  | .tokenDecimals _ => UInt8
  | .tokenSymbol _ => Text
  | .atokensAddr _ => Address

abbrev lookupPorts : Interface := memoPorts Lookup.Value String

abbrev lookupSource : Interface := sourcePorts Lookup.Value String

namespace Lookup

variable {ε : Type}

def getTokenDecimals (token : Address) : Program lookupPorts ε (Except String UInt8) :=
  memo (Lookup.tokenDecimals token)

def getTokenSymbol (token : Address) : Program lookupPorts ε (Except String Text) :=
  memo (Lookup.tokenSymbol token)

def resolveAtoken (asset : Address) : Program lookupPorts ε (Except String Address) :=
  memo (Lookup.atokensAddr asset)

end Lookup

/-! ### Tasks -/

/-- All other calls. -/
abbrev taskCalls (φ : Type) : Interface :=
  aaveCalls.sum (morphoCalls.sum (distributorPorts.sum (extractorPorts φ)))

section
variable {ε : Type} {L : Interface}
  (lookup : (k : Lookup) → Program ((taskCalls φ).sum L) ε (Except String k.Value))

def carryAave : (op : AaveOp) → Program ((taskCalls φ).sum L) ε (AaveOp.Reply op)
  | .resolveAtoken asset => lookup (.atokensAddr asset)
  | .getTokenDecimals token => lookup (.tokenDecimals token)
  | .getUserAccountData user => .call (.inl (.inl (.getUserAccountData user))) .ret
  | .getUserReservesData provider user =>
    .call (.inl (.inl (.getUserReservesData provider user))) .ret
  | .balanceOf token account => .call (.inl (.inl (.balanceOf token account))) .ret
  | .getConfiguration asset => .call (.inl (.inl (.getConfiguration asset))) .ret
  | .getAssetPrice asset => .call (.inl (.inl (.getAssetPrice asset))) .ret

def carryMorpho : (op : MorphoOp) → Program ((taskCalls φ).sum L) ε (MorphoOp.Reply op)
  | .getTokenDecimals token => lookup (.tokenDecimals token) >>= fun r => .ret r.toOption
  | .position marketId borrower => .call (.inl (.inr (.inl (.position marketId borrower)))) .ret
  | .market marketId => .call (.inl (.inr (.inl (.market marketId)))) .ret
  | .idToMarketParams marketId => .call (.inl (.inr (.inl (.idToMarketParams marketId)))) .ret
  | .price oracle => .call (.inl (.inr (.inl (.price oracle)))) .ret

def carryDistributor :
    (op : DistributorOp) → Program ((taskCalls φ).sum L) ε (DistributorOp.Reply op)
  | .getTokenSymbol asset => lookup (.tokenSymbol asset)
  | .getBalance account => .call (.inl (.inr (.inr (.inl (.getBalance account))))) .ret
  | .accumulatedProfits asset =>
    .call (.inl (.inr (.inr (.inl (.accumulatedProfits asset))))) .ret
  | .refuelGas amount => .call (.inl (.inr (.inr (.inl (.refuelGas amount))))) .ret
  | .distributeProfits asset breetAddr =>
    .call (.inl (.inr (.inr (.inl (.distributeProfits asset breetAddr))))) .ret
  | .confirmations tx count =>
    .call (.inl (.inr (.inr (.inl (.confirmations tx count))))) .ret
  | .fetchAssets => .call (.inl (.inr (.inr (.inl .fetchAssets)))) .ret
  | .visitAssets assets => .call (.inl (.inr (.inr (.inl (.visitAssets assets))))) .ret

def carryExtractor :
    (op : ExtractorOp φ) → Program ((taskCalls φ).sum L) ε (ExtractorOp.Reply op)
  | .getTokenSymbol token => lookup (.tokenSymbol token)
  | .getTokenDecimals token => lookup (.tokenDecimals token)
  | .saveLiquidation record => .call (.inl (.inr (.inr (.inr (.saveLiquidation record))))) .ret
  | .saveDistribution record => .call (.inl (.inr (.inr (.inr (.saveDistribution record))))) .ret

end

/-- What the tasks are configured with. -/
structure TaskConfig (φ : Type) where
  text : EthersText
  amounts : AmountText φ
  aave : AaveConfig
  morpho : MorphoConfig
  keeper : Address

inductive LookupTask where
  | evaluateAave (borrower : Address) (targetReserve : Option Address)
  | evaluateMorpho (identity : Text)
  | distribute
  | extract (items : List StreamItem)

inductive TaskResult where
  | evaluated (result : Except Panic (Option BorrowerProfile))
  | distributed (result : Except String Unit)
  | extracted (result : Except Panic Unit)

variable [Add φ]

/-- A task, with a way to look things up. -/
def TaskConfig.run (config : TaskConfig φ) {L : Interface}
    (lookup : (k : Lookup) → Program ((taskCalls φ).sum L) Empty (Except String k.Value)) :
    LookupTask → Program ((taskCalls φ).sum L) Empty TaskResult
  | .evaluateAave borrower targetReserve =>
    (AaveProtocolAdapter.evaluateBorrower config.text config.aave borrower
      targetReserve).interpret (carryAave lookup) >>= fun r => .ret (.evaluated r)
  | .evaluateMorpho identity =>
    (MorphoProtocolAdapter.evaluateTarget config.text config.morpho identity).interpret
      (carryMorpho lookup) >>= fun r => .ret (.evaluated r)
  | .distribute =>
    (ProfitDistributor.execute config.text config.keeper).interpret (carryDistributor lookup) >>=
      fun r => .ret (.distributed r)
  | .extract items =>
    (LiqDataExtractor.start config.text config.amounts items).interpret (carryExtractor lookup) >>=
      fun r => .ret (.extracted r)

/-- Through the caches. -/
def cachedLookup :
    (k : Lookup) → Program ((taskCalls φ).sum lookupPorts) Empty (Except String k.Value)
  | .tokenDecimals token => (Lookup.getTokenDecimals token).right (taskCalls φ)
  | .tokenSymbol token => (Lookup.getTokenSymbol token).right (taskCalls φ)
  | .atokensAddr asset => (Lookup.resolveAtoken asset).right (taskCalls φ)

/-- The token or the pool is asked. -/
def directLookup (k : Lookup) :
    Program ((taskCalls φ).sum lookupSource) Empty (Except String k.Value) :=
  .call (.inr k) .ret

section
omit [Add φ]

lemma memoise_directLookup (k : Lookup) :
    (directLookup k : Program ((taskCalls φ).sum lookupSource) Empty _).memoise =
      cachedLookup k := by
  cases k <;> exact Program.memoise_source _

lemma memoise_carryAave (op : AaveOp) :
    (carryAave (directLookup (φ := φ)) op).memoise = carryAave cachedLookup op := by
  cases op with
  | resolveAtoken asset => exact memoise_directLookup _
  | getTokenDecimals token => exact memoise_directLookup _
  | _ => rfl

lemma memoise_carryMorpho (op : MorphoOp) :
    (carryMorpho (directLookup (φ := φ)) op).memoise = carryMorpho cachedLookup op := by
  cases op with
  | getTokenDecimals token =>
    rw [carryMorpho, carryMorpho, Program.memoise_bind, memoise_directLookup]
    rfl
  | _ => rfl

lemma memoise_carryDistributor (op : DistributorOp) :
    (carryDistributor (directLookup (φ := φ)) op).memoise = carryDistributor cachedLookup op := by
  cases op with
  | getTokenSymbol asset => exact memoise_directLookup _
  | _ => rfl

lemma memoise_carryExtractor (op : ExtractorOp φ) :
    (carryExtractor directLookup op).memoise = carryExtractor cachedLookup op := by
  cases op with
  | getTokenSymbol token => exact memoise_directLookup _
  | getTokenDecimals token => exact memoise_directLookup _
  | _ => rfl

end

/-- The tasks through the caches are the others with lookups. -/
lemma memoise_run (config : TaskConfig φ) (task : LookupTask) :
    (config.run directLookup task).memoise = config.run cachedLookup task := by
  cases task with
  | evaluateAave borrower targetReserve =>
    rw [TaskConfig.run, TaskConfig.run, Program.memoise_bind, Program.memoise_interpret,
      funext memoise_carryAave]
    rfl
  | evaluateMorpho identity =>
    rw [TaskConfig.run, TaskConfig.run, Program.memoise_bind, Program.memoise_interpret,
      funext memoise_carryMorpho]
    rfl
  | distribute =>
    rw [TaskConfig.run, TaskConfig.run, Program.memoise_bind, Program.memoise_interpret,
      funext memoise_carryDistributor]
    rfl
  | extract items =>
    rw [TaskConfig.run, TaskConfig.run, Program.memoise_bind, Program.memoise_interpret,
      funext memoise_carryExtractor]
    rfl

/-! ### What the tasks see -/

section
variable (Answers : (k : Lookup) → Except String k.Value → Prop)

def answeredAave (e : Event aaveCalls) : Prop :=
  match e with
  | ⟨.getTokenDecimals token, reply⟩ => Answers (.tokenDecimals token) reply
  | ⟨.resolveAtoken asset, reply⟩ => Answers (.atokensAddr asset) reply
  | _ => True

def answeredMorpho (e : Event morphoCalls) : Prop :=
  match e with
  | ⟨.getTokenDecimals token, reply⟩ => ∃ r, Answers (.tokenDecimals token) r ∧ reply = r.toOption
  | _ => True

def answeredDistributor (e : Event distributorPorts) : Prop :=
  match e with
  | ⟨.getTokenSymbol token, reply⟩ => Answers (.tokenSymbol token) reply
  | _ => True

def answeredExtractor (e : Event (extractorPorts φ)) : Prop :=
  match e with
  | ⟨.getTokenSymbol token, reply⟩ => Answers (.tokenSymbol token) reply
  | ⟨.getTokenDecimals token, reply⟩ => Answers (.tokenDecimals token) reply
  | _ => True

/-- The result is one of the task alone, with its lookups answered by the tokens and the pool. -/
def TaskConfig.Direct (config : TaskConfig φ) : LookupTask → TaskResult → Prop
  | .evaluateAave borrower targetReserve, .evaluated result =>
    ∃ t, (AaveProtocolAdapter.evaluateBorrower config.text config.aave borrower
      targetReserve).Trace t result ∧ ∀ e ∈ t, answeredAave Answers e
  | .evaluateMorpho identity, .evaluated result =>
    ∃ t, (MorphoProtocolAdapter.evaluateTarget config.text config.morpho identity).Trace t result ∧
      ∀ e ∈ t, answeredMorpho Answers e
  | .distribute, .distributed result =>
    ∃ t, (ProfitDistributor.execute config.text config.keeper).Trace t result ∧
      ∀ e ∈ t, answeredDistributor Answers e
  | .extract items, .extracted result =>
    ∃ t, (LiqDataExtractor.start config.text config.amounts items).Trace t result ∧
      ∀ e ∈ t, answeredExtractor Answers e
  | _, _ => False

end

section
variable {W : Type} {H : Handler (taskCalls φ) W}
  {Answers : (k : Lookup) → Except String k.Value → Prop}

/-- What is asked of the source is answered. -/
def answeredSource (Answers : (k : Lookup) → Except String k.Value → Prop) :
    (op : ((taskCalls φ).sum lookupSource).Op) → ((taskCalls φ).sum lookupSource).Reply op → Prop
  | .inl _, _ => True
  | .inr k, reply => Answers k reply

omit [Add φ] in
lemma answers_of_directLookup {k : Lookup} {v : List (Event ((taskCalls φ).sum lookupSource))}
    {r : Except String k.Value} (h : (directLookup k).Trace v (.ok r))
    (hall : ∀ e ∈ v, answeredSource Answers e.op e.reply) : Answers k r := by
  obtain ⟨reply, _, rfl, rfl, hr⟩ := h
  cases hr
  exact hall _ List.mem_cons_self

lemma direct_of_trace {config : TaskConfig φ} {task : LookupTask} {result : TaskResult}
    {u : List (Event ((taskCalls φ).sum lookupSource))}
    (h : (config.run directLookup task).Trace u (.ok result))
    (hall : ∀ e ∈ u, answeredSource Answers e.op e.reply) : config.Direct Answers task result := by
  cases task with
  | evaluateAave borrower targetReserve =>
    obtain ⟨t, o, htrace, hcarries, rfl⟩ := Program.trace_interpret_map h
    refine ⟨t, htrace, fun e he => ?_⟩
    obtain ⟨v, hsub, hv⟩ := hcarries.trace_of_mem he
    obtain ⟨op, reply⟩ := e
    cases op with
    | getTokenDecimals token => exact answers_of_directLookup hv fun e he => hall e (hsub he)
    | resolveAtoken asset => exact answers_of_directLookup hv fun e he => hall e (hsub he)
    | _ => exact trivial
  | evaluateMorpho identity =>
    obtain ⟨t, o, htrace, hcarries, rfl⟩ := Program.trace_interpret_map h
    refine ⟨t, htrace, fun e he => ?_⟩
    obtain ⟨v, hsub, hv⟩ := hcarries.trace_of_mem he
    obtain ⟨op, reply⟩ := e
    cases op with
    | getTokenDecimals token =>
      obtain ⟨r, _, rfl, rfl, hreply⟩ := hv
      cases hreply
      exact ⟨r, hall _ (hsub List.mem_cons_self), rfl⟩
    | _ => exact trivial
  | distribute =>
    obtain ⟨t, o, htrace, hcarries, rfl⟩ := Program.trace_interpret_map h
    refine ⟨t, htrace, fun e he => ?_⟩
    obtain ⟨v, hsub, hv⟩ := hcarries.trace_of_mem he
    obtain ⟨op, reply⟩ := e
    cases op with
    | getTokenSymbol token => exact answers_of_directLookup hv fun e he => hall e (hsub he)
    | _ => exact trivial
  | extract items =>
    obtain ⟨t, o, htrace, hcarries, rfl⟩ := Program.trace_interpret_map h
    refine ⟨t, htrace, fun e he => ?_⟩
    obtain ⟨v, hsub, hv⟩ := hcarries.trace_of_mem he
    obtain ⟨op, reply⟩ := e
    cases op with
    | getTokenSymbol token => exact answers_of_directLookup hv fun e he => hall e (hsub he)
    | getTokenDecimals token => exact answers_of_directLookup hv fun e he => hall e (hsub he)
    | _ => exact trivial

end

/-- Whatever the tasks do at the same time: their results, and the world that they leave, are those
of a run in which every lookup asks the token or the pool. Each cache holds answers only, and each
result is one that its task alone has with such answers. -/
theorem lookups_direct (config : TaskConfig φ) (tasks : List LookupTask) (n : ℕ) {W : Type}
    (H : Handler (taskCalls φ) W) (Answers : (k : Lookup) → Except String k.Value → Prop) (w : W)
    (pool : Pool ((taskCalls φ).sum lookupPorts) Empty LookupTask TaskResult)
    (w' : W × Cache Lookup.Value)
    (hrun : Run (Pool.Step (H.withMemo Answers) (config.run cachedLookup) n)
      (.start tasks, (w, fun _ => none)) (pool, w')) :
    (∃ direct, Run (Pool.Step (H.withSource Answers) (config.run directLookup) n)
        (.start tasks, w) (direct, w'.1) ∧
      direct.waiting = pool.waiting ∧ direct.finished = pool.finished) ∧
    (∀ k v, w'.2 k = some v → Answers k (.ok v)) ∧
    ∀ task result, (task, result) ∈ pool.finished → config.Direct Answers task result := by
  rw [← funext (memoise_run config)] at hrun
  obtain ⟨direct, hdirect, hmatches, hsound⟩ := Pool.memoise_refines hrun
  refine ⟨⟨direct, hdirect, hmatches.waiting.symm, hmatches.finished.symm⟩, hsound, ?_⟩
  intro task result hmem
  rw [hmatches.finished] at hmem
  have hanswered : ∀ w op r w', H.withSource Answers w op r w' → answeredSource Answers op r := by
    intro w op r w' hreply
    cases op with
    | inl op => exact trivial
    | inr k => exact hreply.1
  obtain ⟨u, htrace, hall⟩ := Pool.trace_of_finished_forall hanswered hdirect hmem
  exact direct_of_trace htrace hall

/-! ### Two tasks -/

/-- The database works, and nothing else answers. -/
noncomputable def sampleOutcome : (op : (taskCalls ℕ).Op) → (taskCalls ℕ).Reply op
  | .inl op => match op with
    | .getUserAccountData _ => .error ""
    | .getUserReservesData .. => .error ""
    | .balanceOf .. => .error ""
    | .getConfiguration _ => .error ""
    | .resolveAtoken _ => .error ""
    | .getAssetPrice _ => .error ""
    | .getTokenDecimals _ => .error ""
  | .inr (.inl op) => match op with
    | .position .. => none
    | .market _ => none
    | .idToMarketParams _ => none
    | .price _ => none
    | .getTokenDecimals _ => none
  | .inr (.inr (.inl op)) => match op with
    | .getBalance _ => .error ""
    | .accumulatedProfits _ => .error ""
    | .refuelGas _ => .error ""
    | .distributeProfits .. => .error ""
    | .confirmations .. => .error ""
    | .fetchAssets => .error ""
    | .visitAssets assets => ⟨assets.toList, assets.nodup_toList, fun _ => Finset.mem_toList⟩
    | .getTokenSymbol _ => .error ""
  | .inr (.inr (.inr op)) => sampleAnswer op

def sampleLookup : (k : Lookup) → Except String k.Value
  | .tokenDecimals _ => .ok 18
  | .tokenSymbol _ => .ok "AAA".toList
  | .atokensAddr asset => .ok asset

noncomputable def sampleTasks :
    Responder ((taskCalls ℕ).sum lookupPorts) (Unit × Cache Lookup.Value)
  | .inl op, w => (sampleOutcome op, w)
  | .inr (.cached k), w => (w.2 k, w)
  | .inr (.ask k), w => (sampleLookup k, w)
  | .inr (.store k v), w => ((), (w.1, Function.update w.2 k (some v)))

def sampleConfig : TaskConfig ℕ where
  text := .reference
  amounts := sampleAmounts
  aave := ⟨.ofNat 20 1, fun _ => none⟩
  morpho := .load
  keeper := .ofNat 20 0x11

def sampleWorld : Handler (taskCalls ℕ) Unit := fun _ op r _ => r = sampleOutcome op

def sampleAnswers (k : Lookup) (r : Except String k.Value) : Prop := r = sampleLookup k

lemma sampleTasks_handler (op : ((taskCalls ℕ).sum lookupPorts).Op)
    (w : Unit × Cache Lookup.Value) :
    sampleWorld.withMemo sampleAnswers w op (sampleTasks op w).1 (sampleTasks op w).2 := by
  rcases op with op | op
  · exact ⟨rfl, rfl⟩
  · cases op <;> first | exact ⟨rfl, rfl⟩ | exact rfl

lemma sampleTasks_trace (task : LookupTask) (w : Unit × Cache Lookup.Value) :
    ∃ t result w', (sampleConfig.run cachedLookup task).Trace t (.ok result) ∧
      (sampleWorld.withMemo sampleAnswers).Path w t w' := by
  obtain ⟨t, htrace, hpath⟩ := exists_trace_of_exec sampleTasks_handler
    (sampleConfig.run cachedLookup task) w
  match hresult : ((sampleConfig.run cachedLookup task).exec sampleTasks w).1 with
  | .ok result => exact ⟨t, result, _, hresult ▸ htrace, hpath⟩
  | .error e => exact e.elim

/-- Both tasks extract the same events. The second finds in the caches what the first looked up. -/
theorem lookups_direct_sample :
    ∃ result, sampleConfig.Direct sampleAnswers (.extract sampleItems) result := by
  obtain ⟨t, result, w, htrace, hpath⟩ :=
    sampleTasks_trace (.extract sampleItems) ((), fun _ => none)
  obtain ⟨t', result', w', htrace', hpath'⟩ := sampleTasks_trace (.extract sampleItems) w
  have hrun : Run (Pool.Step (sampleWorld.withMemo sampleAnswers)
      (sampleConfig.run cachedLookup) 2)
      (.start [.extract sampleItems, .extract sampleItems], ((), fun _ => none))
      (⟨[], [], [(.extract sampleItems, result), (.extract sampleItems, result')], none⟩, w') := by
    refine .head (.take _ _ [] [] _ Nat.zero_lt_two) ?_
    refine .head (.take _ [] [_] [] _ Nat.one_lt_two) ?_
    exact (Pool.run_of_trace htrace hpath [] [] [_] []).trans
      (Pool.run_of_trace htrace' hpath' [] [] [] [_])
  have h := lookups_direct sampleConfig _ 2 _ _ () _ w' hrun
  exact ⟨result', h.2.2 _ result' (List.mem_cons_of_mem _ List.mem_cons_self)⟩

end LiqRanger
