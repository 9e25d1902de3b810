import LiqRanger.Pipeline.Wired
import LiqRanger.Uniswap.Properties

/-!
# The swap of a transaction

The pipeline with the route finder behind it: `getSwapQuote` with its calls to the quoter and its
cache, that other payloads use at the same time. The swap in the calldata of a transaction is along
a route that the quoter priced for this payload, between the tokens of a profile that was read for
it.
-/

namespace LiqRanger

open Effect

variable {ρ : Type}

/-! ### The route finder behind its port -/

/-- Everything that is called for a payload. -/
abbrev routedPorts (ρ : Type) : Interface := routePorts.sum (wiredPorts ρ)

structure RouteFinder where
  adapter : UniswapV3Adapter
  abi : UniswapAbi
  texts : EthersText

namespace RouteFinder

/-- Only the port of the route finder is carried out, the other calls are made as they are. -/
def finder (routes : RouteFinder) :
    (op : (wiredPorts ρ).Op) → Program (routedPorts ρ) Panic ((wiredPorts ρ).Reply op)
  | .inl (.getSwapQuote srcToken destToken srcDecimals destDecimals amount) =>
    (routes.adapter.getSwapQuote routes.abi srcToken destToken amount routes.texts srcDecimals
      destDecimals).left (wiredPorts ρ)
  | .inl (.refreshBorrower reader identity) =>
    .call (.inr (.inl (.refreshBorrower reader identity))) .ret
  | .inr op => .call (.inr (.inr op)) .ret

def processPayload (routes : RouteFinder) (deployment : Deployment) (payload : LiqPayload ρ) :
    Program (routedPorts ρ) Panic (Except Panic (Except Empty Unit)) :=
  (deployment.processPayload payload).interpret routes.finder

/-- The cache of routes over all calls: the other payloads use it in between. -/
def world (routes : RouteFinder) :
    Handler (routedPorts ρ) UniswapV3Adapter.RouteCacheState
  | w, .inl op, reply, w' =>
    UniswapV3Adapter.sharedWorld routes.adapter routes.abi routes.texts w op reply w'
  | w, .inr _, _, w' =>
    Transition.Run (UniswapV3Adapter.RouteCacheStep routes.adapter routes.abi routes.texts) w w'

end RouteFinder

/-! ### A quote in its world -/

/-- A quote that is returned describes the swap that was asked for, by the router. -/
lemma UniswapV3Adapter.describes_of_trace {adapter : UniswapV3Adapter} {abi : UniswapAbi}
    {T : EthersText} {srcToken destToken : Address} {amount : U256}
    {srcDecimals destDecimals : UInt8} {w w' : RouteCacheState}
    {t : List (Event routePorts)} {quote : MarketQuote}
    (hreach : ReachableCache adapter abi T w)
    (htrace : (adapter.getSwapQuote abi srcToken destToken amount T srcDecimals
      destDecimals).Trace t (.ok (.ok quote)))
    (hpath : (sharedWorld adapter abi T).Path w t w') :
    Describes adapter abi srcToken destToken amount t quote ∧
      quote.swapTarget = adapter.router ∧ quote.tokenTransferProxy = adapter.router := by
  obtain ⟨best, hroute, hbest⟩ := getSwapQuote_trace htrace
  obtain ⟨key, ⟨hsrc, hdest⟩, hrun⟩ := evaluateRoute_run hroute
  obtain ⟨⟨out, topology⟩, rfl, hquote⟩ := Checked.bind_eq_ok_iff.mp hbest.symm
  obtain ⟨hne, hmin, hdata, hrouter⟩ := quoteAlong_eq_ok_iff.mp hquote
  obtain ⟨hvalid, hquoted⟩ := hrun.quotedIn hne fun cached rest hcached => by
    rw [hcached] at hpath
    have hvalid := isRoute_of_cached hreach hpath
    rwa [hsrc, hdest] at hvalid
  exact ⟨⟨out, topology, hne, hvalid, hquoted, (calculateMinAmountOut_eq_ok_iff.mp hmin).2,
    swapData_eq_ok_iff.mp hdata⟩, hrouter⟩

namespace RouteFinder

variable {routes : RouteFinder} {w w' : UniswapV3Adapter.RouteCacheState}

/-- The calls of the route finder see the cache as one call among others does. -/
lemma path_left {t : List (Event routePorts)} :
    routes.world.Path w (t.map (Event.left (wiredPorts ρ))) w' ↔
      (UniswapV3Adapter.sharedWorld routes.adapter routes.abi routes.texts).Path w t w' := by
  induction t generalizing w with
  | nil => exact Iff.rfl
  | cons e t ih =>
    rw [List.map_cons, Handler.path_cons, Handler.path_cons]
    exact exists_congr fun w₁ => and_congr Iff.rfl ih

/-- Whatever is called, the cache remains one that calls leave. -/
lemma reachableCache_finder {op : (wiredPorts ρ).Op} {r : (wiredPorts ρ).Reply op}
    {v : List (Event (routedPorts ρ))} (h : (routes.finder op).Trace v (.ok r))
    (hpath : routes.world.Path w v w')
    (hreach : UniswapV3Adapter.ReachableCache routes.adapter routes.abi routes.texts w) :
    UniswapV3Adapter.ReachableCache routes.adapter routes.abi routes.texts w' := by
  match op with
  | .inl (.getSwapQuote srcToken destToken srcDecimals destDecimals amount) =>
    obtain ⟨t, rfl, htrace⟩ := Program.trace_left.mp h
    exact UniswapV3Adapter.reachableCache_path hreach htrace (List.Subset.refl t)
      (path_left.mp hpath)
  | .inl (.refreshBorrower reader identity) =>
    obtain ⟨reply, _, rfl, rfl, -⟩ := h
    obtain ⟨w₁, hothers, rfl⟩ := hpath
    exact hreach.trans hothers
  | .inr op =>
    obtain ⟨reply, _, rfl, rfl, -⟩ := h
    obtain ⟨w₁, hothers, rfl⟩ := hpath
    exact hreach.trans hothers

end RouteFinder

/-! ### The quote of a job -/

/-- The swap of a broadcast job was quoted for the profile that was scanned, or for the one that
was read again. -/
lemma BroadcastRun.quoted {payload : LiqPayload ρ} {refreshed : BorrowerProfile}
    {job : LiquidationJob} {gas : U64} {t : List (Event (ports ρ))}
    (h : BroadcastRun payload refreshed job gas t) :
    ∃ init reply profile, t = init ++ [executeEvent job (gasLimitOf gas) reply] ∧
      quoteEvent profile (.ok job.swap) ∈ init ∧ (profile = payload.profile ∨
        refreshEvent payload.reader payload.profile.identity (.ok profile) ∈ init) := by
  cases h with
  | unchanged quote gas reply =>
    exact ⟨[_, _, _], reply, payload.profile, rfl, List.mem_cons_self, Or.inl rfl⟩
  | requoted quote newQuote gas newGas reply =>
    refine ⟨[_, _, _, _, _], reply, refreshed, rfl, ?_, Or.inr ?_⟩
    · exact List.mem_cons_of_mem _ (List.mem_cons_of_mem _ (List.mem_cons_of_mem _
        List.mem_cons_self))
    · exact List.mem_cons_of_mem _ (List.mem_cons_of_mem _ List.mem_cons_self)

/-- A profile that the payload holds or that its reader returned. -/
def ReadFor (payload : LiqPayload ρ) (before : List (Event (wiredPorts ρ)))
    (profile : BorrowerProfile) : Prop :=
  profile = payload.profile ∨
    .left nodePorts (⟨.refreshBorrower payload.reader payload.profile.identity, .ok profile⟩ :
      Event (scoutPorts ρ)) ∈ before

/-- The answer of the route finder for a profile. -/
def quotedEvent (profile : BorrowerProfile) (quote : MarketQuote) : Event (wiredPorts ρ) :=
  .left nodePorts (⟨.getSwapQuote profile.collateralAsset profile.debtAsset profile.srcDecimals
    profile.destDecimals profile.seizeAmount, .ok quote⟩ : Event (scoutPorts ρ))

/-- Before a transaction its swap was quoted. What it seizes is what was scanned. -/
lemma SentFor.quoted {deployment : Deployment} {payload : LiqPayload ρ} {job : LiquidationJob}
    {t : List (Event (ports ρ))} {before : List (Event (wiredPorts ρ))}
    {tx : Eip1559TransactionRequest} (h : SentFor deployment payload job t before tx) :
    job.collateralAsset = payload.profile.collateralAsset ∧
      job.protocol = payload.profile.protocol ∧
      ∃ profile, ReadFor payload before profile ∧ quotedEvent profile job.swap ∈ before := by
  obtain ⟨refreshed, gas', reply', hrun⟩ := h.run
  refine ⟨hrun.sizedBy.collateralAsset_eq, hrun.sizedBy.protocol_eq, ?_⟩
  obtain ⟨gas, reply, -, -, u, hcarries, rfl⟩ := h.broadcast
  obtain ⟨init, reply'', profile, heq, hquote, hread⟩ := hrun.quoted
  obtain ⟨rfl, -⟩ := List.append_inj' heq rfl
  refine ⟨profile, hread.imp_right fun hrefresh => ?_, ?_⟩
  · obtain ⟨v, hsub, htrace⟩ := hcarries.trace_of_mem hrefresh
    obtain ⟨_, _, rfl, rfl, heq⟩ := htrace
    cases heq
    exact List.mem_append_left _ (hsub List.mem_cons_self)
  · obtain ⟨v, hsub, htrace⟩ := hcarries.trace_of_mem hquote
    obtain ⟨_, _, rfl, rfl, heq⟩ := htrace
    cases heq
    exact List.mem_append_left _ (hsub List.mem_cons_self)

/-! ### What is sent -/

/-- The node answered to a transaction that was sent. -/
def routedSentEvent (tx : Eip1559TransactionRequest) (answer : Except String H256) :
    Event (routedPorts ρ) :=
  .right routePorts (sentEvent tx answer)

namespace RouteFinder

variable {routes : RouteFinder}

lemma delegates_finder : Delegates (I := wiredPorts ρ) (J := routePorts) routes.finder := by
  intro op
  match op with
  | .inl (.getSwapQuote ..) => exact Or.inl ⟨_, rfl⟩
  | .inl (.refreshBorrower ..) => exact Or.inr rfl
  | .inr op => exact Or.inr rfl

/-- A quote among the calls describes the swap that was asked for. -/
lemma describes_of_carriesOut {w w' : UniswapV3Adapter.RouteCacheState}
    {t : List (Event (wiredPorts ρ))} {u : List (Event (routedPorts ρ))}
    {profile : BorrowerProfile} {quote : MarketQuote} (h : CarriesOut routes.finder t u)
    (hreach : UniswapV3Adapter.ReachableCache routes.adapter routes.abi routes.texts w)
    (hpath : routes.world.Path w u w') (hquoted : quotedEvent profile quote ∈ t) :
    ∃ calls : List (Event routePorts), (∀ e ∈ calls, e.left (wiredPorts ρ) ∈ u) ∧
      UniswapV3Adapter.Describes routes.adapter routes.abi profile.collateralAsset
        profile.debtAsset profile.seizeAmount calls quote ∧
      quote.swapTarget = routes.adapter.router ∧
      quote.tokenTransferProxy = routes.adapter.router := by
  obtain ⟨t₁, t₂, rfl⟩ := List.append_of_mem hquoted
  obtain ⟨u₁, v, u₂, rfl, h₁, htrace, -⟩ := h.segment
  obtain ⟨calls, rfl, hcalls⟩ := Program.trace_left.mp htrace
  rw [List.append_assoc, Handler.path_append] at hpath
  obtain ⟨w₁, hfirst, hrest⟩ := hpath
  obtain ⟨w₂, hcall, -⟩ := (Handler.path_append ..).mp hrest
  have hreach₁ := h₁.keeps (fun _ _ _ _ _ => reachableCache_finder) hfirst hreach
  refine ⟨calls, fun e he => ?_,
    UniswapV3Adapter.describes_of_trace hreach₁ hcalls (path_left.mp hcall)⟩
  exact List.mem_append_left _ (List.mem_append_right _ (List.mem_map_of_mem he))

instance (op : (routedPorts ρ).Op) : Nonempty ((routedPorts ρ).Reply op) := by
  rcases op with route | op
  · cases route with
    | cacheInvalidate => exact ⟨()⟩
    | cacheInsert => exact ⟨()⟩
    | _ => exact ⟨none⟩
  · exact inferInstanceAs (Nonempty ((wiredPorts ρ).Reply op))

/-- What the calldata asks of the swap: the quote that was asked for the profile in the calls
before, with the router, for no less than is borrowed. -/
def SwapsFor (routes : RouteFinder) (abi : FlashAbi) (before : List (Event (routedPorts ρ)))
    (profile : BorrowerProfile) (data : Bytes) : Prop :=
  ∃ flashAmount params quote t, abi.decode data = some (flashAmount, params) ∧
    flashAmount ≤ params.minAmtOut ∧ params.minAmtOut = quote.minAmtOut ∧
    params.swapData = quote.swapData ∧ params.swapTarget = routes.adapter.router ∧
    params.swapAllowanceTarget = routes.adapter.router ∧
    (∀ e ∈ t, e.left (wiredPorts ρ) ∈ before) ∧
    UniswapV3Adapter.Describes routes.adapter routes.abi profile.collateralAsset profile.debtAsset
      profile.seizeAmount t quote

/-- At any moment of the work on a payload over the route finder and the other adapters, while other
payloads use the cache of routes: the swap in the calldata of a transaction that was sent is along a
route from the collateral to the debt of a profile that was read for the payload, of the amount to
be seized, to the liquidator, by the router. The quoter priced this route and this amount among the
calls before, and the swap must pay that price less the slippage, and no less than is borrowed. What
the calldata seizes on Aave is the collateral of the scan: that is what is swapped unless the
refresh has found another one. -/
theorem sent_swaps (routes : RouteFinder) (deployment : Deployment) (payload : LiqPayload ρ)
    (u : List (Event (routedPorts ρ)))
    (rest : Program (routedPorts ρ) Panic (Except Panic (Except Empty Unit)))
    (h : (routes.processPayload deployment payload).After u rest)
    (w w' : UniswapV3Adapter.RouteCacheState)
    (hreach : UniswapV3Adapter.ReachableCache routes.adapter routes.abi routes.texts w)
    (hpath : routes.world.Path w u w')
    (before : List (Event (routedPorts ρ))) (tx : Eip1559TransactionRequest)
    (answer : Except String H256) (after : List (Event (routedPorts ρ)))
    (hu : u = before ++ routedSentEvent tx answer :: after) :
    ∃ profile, (profile = payload.profile ∨
        .right routePorts (.left nodePorts (⟨.refreshBorrower payload.reader
          payload.profile.identity, .ok profile⟩ : Event (scoutPorts ρ))) ∈ before) ∧
      SwapsFor routes deployment.abi before profile tx.data ∧
      (payload.profile.protocol = .aave → ∃ flashAmount params,
        deployment.abi.decode tx.data = some (flashAmount, params) ∧
        params.aaveCollateral = payload.profile.collateralAsset) := by
  obtain ⟨v, o, htrace⟩ := h.exists_trace
  rw [hu, List.append_assoc, List.cons_append] at htrace
  obtain ⟨t, t', o', hwired, hcarries⟩ := delegates_finder.exists_outer htrace rfl
  obtain ⟨-, job, tp, hsent⟩ := exists_sentFor hwired rfl
  obtain ⟨hcollateral, hprotocol, profile, hread, hquoted⟩ := hsent.quoted
  refine ⟨profile, hread.imp_right fun hrefresh => hcarries.mem_right hrefresh rfl, ?_, ?_⟩
  · rw [hu, Handler.path_append] at hpath
    obtain ⟨w₁, hpath, -⟩ := hpath
    obtain ⟨calls, hcalls, hdescribes, htarget, hproxy⟩ :=
      describes_of_carriesOut hcarries hreach hpath hquoted
    obtain ⟨gas, reply, hat, htx, -⟩ := hsent.broadcast
    refine ⟨job.debtToCover, job.params, job.swap, calls,
      deployment.abi.decode_encode _ _ _ htx.data_eq, ?_, ?_, ?_, ?_, ?_, hcalls, hdescribes⟩
    · rw [LiquidationJob.params_minAmtOut]
      exact hat.covers
    · exact job.params_minAmtOut
    · exact job.params_swapData
    · rw [LiquidationJob.params_swapTarget]
      exact htarget
    · rw [LiquidationJob.params_swapAllowanceTarget]
      exact hproxy
  · intro haave
    obtain ⟨_, _, -, htx, -⟩ := hsent.broadcast
    refine ⟨_, _, deployment.abi.decode_encode _ _ _ htx.data_eq, ?_⟩
    rw [job.params_aaveCollateral (hprotocol.trans haave), hcollateral]

/-! ### A payload that is sent -/

def sampleFinder : RouteFinder := ⟨UniswapV3Adapter.sampleAdapter, .reference, .reference⟩

/-- A scan of an Aave position that would seize 100. -/
def sampleRoutedScan : BorrowerProfile :=
  { sampleScan with
    repaidShares := none, seizedAssets := none, marketId := none, seizeAmount := 100
    protocol := .aave, identity := "aave:1001:2".toList }

def sampleRoutedJob : LiquidationJob :=
  buildLiquidationJob sampleRoutedScan UniswapV3Adapter.sampleSwapQuote

def samplePayloadRouted : LiqPayload Unit := ⟨sampleRoutedScan, (), 500⟩

/-- The calls that follow the quote. -/
def sampleAfterQuote (data : Bytes) : List (Event (wiredPorts Unit)) :=
  (sampleWired sampleRoutedScan sampleRoutedScan UniswapV3Adapter.sampleSwapQuote data).tail

/-- It is not the route finder that is called. -/
def isPassed (e : Event (wiredPorts ρ)) : Bool :=
  match e.op with
  | .inl (.getSwapQuote ..) => false
  | _ => true

/-- Other calls are made as they are. -/
lemma finder_of_passed {e : Event (wiredPorts ρ)} (h : isPassed e = true) :
    routes.finder e.op = .call (.inr e.op) .ret := by
  obtain ⟨op, r⟩ := e
  match op with
  | .inl (.getSwapQuote ..) => cases h
  | .inl (.refreshBorrower ..) => rfl
  | .inr op => rfl

/-- And no other payload needs to use the cache. -/
lemma path_right {w : UniswapV3Adapter.RouteCacheState} (t : List (Event (wiredPorts ρ))) :
    routes.world.Path w (t.map (Event.right routePorts)) w := by
  induction t with
  | nil => rfl
  | cons e t ih => exact ⟨w, .refl, ih⟩

/-- The sample is quoted, simulated, read again and sent. -/
lemma exists_sampleRouted : ∃ (t : List (Event routePorts)) (data : Bytes)
    (w : UniswapV3Adapter.RouteCacheState),
    (sampleFinder.processPayload sampleDeployment samplePayloadRouted).Trace
      (t.map (Event.left (wiredPorts Unit)) ++
        (sampleAfterQuote data).map (Event.right routePorts)) (.ok (.ok (.ok ()))) ∧
    sampleFinder.world.Path (fun _ => none) (t.map (Event.left (wiredPorts Unit)) ++
      (sampleAfterQuote data).map (Event.right routePorts)) w := by
  have hlen : sampleRoutedJob.params.swapData.length < 2 ^ 256 := by
    have hlen : sampleRoutedJob.params.swapData.length = 228 := by decide +kernel
    rw [hlen]
    norm_num
  obtain ⟨data, hdata⟩ : ∃ data,
      FlashAbi.reference.encode sampleRoutedJob.debtToCover sampleRoutedJob.params = some data :=
    ⟨_, FlashAbi.reference_encode hlen⟩
  obtain ⟨t, hquote, hpath⟩ := UniswapV3Adapter.exists_sampleTrace 100 fun _ => none
  rw [UniswapV3Adapter.sampleExec_cold] at hquote
  have hrun : BroadcastRun samplePayloadRouted sampleRoutedScan sampleRoutedJob 200
      (sampleCalls sampleRoutedScan sampleRoutedScan UniswapV3Adapter.sampleSwapQuote
        sampleRoutedJob) :=
    .unchanged UniswapV3Adapter.sampleSwapQuote 200 _ (by decide) (by decide) rfl rfl
  have hwired : (sampleDeployment.processPayload samplePayloadRouted).Trace _ (.ok (.ok ())) :=
    Program.trace_interpret.mpr (Or.inl ⟨_, _, hrun.trace,
      sampleCalls_carriesOut sampleRoutedScan sampleRoutedScan UniswapV3Adapter.sampleSwapQuote
        (by decide) hdata, rfl⟩)
  have hpassed : ∀ e ∈ sampleAfterQuote data, isPassed e = true :=
    List.all_eq_true.mp rfl
  refine ⟨t, data, _, ?_, (Handler.path_append ..).mpr
    ⟨_, path_left.mpr hpath, path_right (sampleAfterQuote data)⟩⟩
  have hfinder : CarriesOut sampleFinder.finder (sampleAfterQuote data) _ :=
    carriesOut_right fun e he => finder_of_passed (hpassed e he)
  exact Program.trace_interpret.mpr (Or.inl ⟨_, _, hwired,
    .cons (Program.trace_left.mpr ⟨t, rfl, hquote⟩) hfinder, rfl⟩)

theorem sent_swaps_sample :
    ∃ (before : List (Event (routedPorts Unit))) (data : Bytes) (profile : BorrowerProfile),
      SwapsFor sampleFinder sampleDeployment.abi before profile data ∧
      ∃ flashAmount params, sampleDeployment.abi.decode data = some (flashAmount, params) ∧
        params.aaveCollateral = .ofNat 20 1 := by
  obtain ⟨t, data, w, htrace, hpath⟩ := exists_sampleRouted
  have h := sent_swaps sampleFinder sampleDeployment samplePayloadRouted _ _ (.of_trace htrace) _ w
    .refl hpath (t.map (Event.left (wiredPorts Unit)) ++ [_, _, _, _])
    { sampleSentTx with data := data } (.ok (.zero 32)) [_]
    (by rw [List.append_assoc]; rfl)
  obtain ⟨profile, -, hswaps, hseizes⟩ := h
  exact ⟨_, data, profile, hswaps, hseizes rfl⟩

end RouteFinder

end LiqRanger
