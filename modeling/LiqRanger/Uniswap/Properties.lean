import LiqRanger.Effect.Responder
import LiqRanger.Uniswap.Trace

/-!
# What a quote describes

A quote swaps the requested amount along a route between the requested tokens, for at least the
share of an amount that the quoter returned in the same call for just this route
(`swapQuote_describes`). The route may come from the cache, which other calls fill and which loses
entries at any time; its routes are always between the tokens of their keys (`soundCache_run`).
-/

namespace LiqRanger

open Effect Transition

namespace UniswapV3Adapter

variable {adapter : UniswapV3Adapter} {abi : UniswapAbi} {T : EthersText}
  {srcToken destToken : Address} {amount : U256}

/-! ### The cache -/

abbrev RouteCacheState := CacheKey → Option RouteTopology

/-- Entries live for three seconds, and the oldest make room for new ones. -/
def Expires (w w' : RouteCacheState) : Prop := ∀ key, w' key = w key ∨ w' key = none

/-- The chain answers anything, and the cache what is left in it. -/
def routeWorld : Handler routePorts RouteCacheState
  | w, .quoteExactInputSingle _, _, w' => Expires w w'
  | w, .quoteExactInput .., _, w' => Expires w w'
  | w, .aggregate3 _, _, w' => Expires w w'
  | w, .cacheGet key, reply, w' => Expires w w' ∧ reply = w' key
  | w, .cacheInvalidate key, _, w' => Expires (Function.update w key none) w'
  | w, .cacheInsert key topology, _, w' => Expires (Function.update w key (some topology)) w'

section
variable (adapter abi T)

/-- A call of some run of `getSwapQuote` is answered. -/
def RouteCacheStep (w w' : RouteCacheState) : Prop :=
  ∃ (srcToken destToken : Address) (amount : U256) (srcDecimals destDecimals : UInt8)
    (t : List (Event routePorts)) (o : Except Panic (Except String MarketQuote)),
    (adapter.getSwapQuote abi srcToken destToken amount T srcDecimals destDecimals).Trace t o ∧
    ∃ event ∈ t, routeWorld w event.op event.reply w'

/-- The caches that any calls leave, one after the other or at the same time. -/
def ReachableCache (w : RouteCacheState) : Prop :=
  Run (RouteCacheStep adapter abi T) (fun _ => none) w

/-- A cache that other calls use before every call of a run. -/
def sharedWorld : Handler routePorts RouteCacheState := fun w op reply w' =>
  ∃ w₁, Run (RouteCacheStep adapter abi T) w w₁ ∧ routeWorld w₁ op reply w'

end

/-- The pool of one of the four fees, or two pools through one of the hubs. -/
def IsRoute (srcToken destToken : Address) : RouteTopology → Prop
  | .singleHop fee => fee ∈ singleFeeTiers
  | .multiHop path => ∃ hub ∈ swapHubs, (hub ≠ srcToken ∧ hub ≠ destToken) ∧
      ∃ fee1 ∈ multihopFeeTiers, ∃ fee2 ∈ multihopFeeTiers,
        path = encodeV3Path [srcToken, hub, destToken] [fee1, fee2] (length_hubTokens ..)

/-- The routes of a cache are between the tokens of their keys. -/
def SoundCache (w : RouteCacheState) : Prop :=
  ∀ key topology, w key = some topology → IsRoute key.srcToken key.destToken topology

lemma SoundCache.expires {w w' : RouteCacheState} (h : SoundCache w) (hexpires : Expires w w') :
    SoundCache w' := by
  intro key topology hkey
  rcases hexpires key with hsame | hnone
  · exact h key topology (hsame ▸ hkey)
  · rw [hnone] at hkey
    cases hkey

lemma SoundCache.update {w : RouteCacheState} (h : SoundCache w) {key : CacheKey}
    {cached : Option RouteTopology}
    (hroute : ∀ topology, cached = some topology → IsRoute key.srcToken key.destToken topology) :
    SoundCache (Function.update w key cached) := by
  intro key' topology hkey
  by_cases heq : key' = key
  · subst heq
    rw [Function.update_self] at hkey
    exact hroute topology hkey
  · rw [Function.update_of_ne heq] at hkey
    exact h key' topology hkey

/-- The candidates are routes. -/
lemma isRoute_of_mem_candidates {route : RouteMeta}
    (h : route ∈ candidates srcToken destToken swapHubs) :
    IsRoute srcToken destToken route.topology := by
  simp only [candidates, List.mem_append, List.mem_map, List.mem_flatMap, validHubs,
    List.mem_filter, decide_eq_true_eq] at h
  rcases h with ⟨fee, hfee, rfl⟩ | ⟨hub, ⟨hhub, hne⟩, fee1, hfee1, fee2, hfee2, rfl⟩
  · exact hfee
  · exact ⟨hub, hhub, hne, fee1, hfee1, fee2, hfee2, rfl⟩

/-- So are the routes of a batch. -/
lemma isRoute_of_getElem? {i : ℕ} {route : RouteMeta}
    (h : (adapter.routeBatch abi srcToken destToken amount swapHubs).routeMetadata[i]?
      = some route) :
    IsRoute srcToken destToken route.topology := by
  rw [routeBatch_eq] at h
  have hmem : route ∈ encodable abi srcToken destToken amount swapHubs := List.mem_of_getElem? h
  exact isRoute_of_mem_candidates (List.mem_of_mem_filter hmem)

/-- Only the best route of a search is put in the cache, under a key for its tokens. -/
lemma SearchRun.isRoute_of_insert {key key' : CacheKey} {t : List (Event routePorts)}
    {o : Except Panic (U256 × RouteTopology)} {topology : RouteTopology}
    {event : Event routePorts}
    (h : SearchRun adapter abi srcToken destToken amount swapHubs key t o) (hmem : event ∈ t)
    (hop : event.op = .cacheInsert key' topology) :
    key' = key ∧ IsRoute srcToken destToken topology := by
  cases h with
  | found responses out topology' hparse hne =>
    obtain ⟨i, route, response, hroute, hresponse, hout, rfl⟩ :=
      exists_of_parseResponses hparse hne
    simp only [List.mem_cons, List.not_mem_nil, or_false] at hmem
    rcases hmem with rfl | rfl | rfl
    · cases hop
    · cases hop
    · cases hop
      exact ⟨rfl, isRoute_of_getElem? hroute⟩
  | nothing hempty =>
    obtain rfl := List.mem_singleton.mp hmem
    cases hop
  | failed =>
    simp only [List.mem_cons, List.not_mem_nil, or_false] at hmem
    rcases hmem with rfl | rfl <;> cases hop
  | panic responses p hparse =>
    simp only [List.mem_cons, List.not_mem_nil, or_false] at hmem
    rcases hmem with rfl | rfl <;> cases hop
  | unpaid responses topology' hparse =>
    simp only [List.mem_cons, List.not_mem_nil, or_false] at hmem
    rcases hmem with rfl | rfl <;> cases hop

/-- So every insertion of a quote is sound. -/
lemma RouteRun.isRoute_of_insert {key key' : CacheKey} {t : List (Event routePorts)}
    {o : Except Panic (U256 × RouteTopology)} {topology : RouteTopology}
    {event : Event routePorts}
    (h : RouteRun adapter abi srcToken destToken amount swapHubs key t o) (hmem : event ∈ t)
    (hop : event.op = .cacheInsert key' topology) :
    key' = key ∧ IsRoute srcToken destToken topology := by
  cases h with
  | hit topology' out quoted hquote hne =>
    simp only [List.mem_cons, List.not_mem_nil, or_false] at hmem
    rcases hmem with rfl | rfl
    · cases hop
    · cases hquote <;> cases hop
  | stale topology' quoted t' o hquoted hsearch =>
    rcases List.mem_cons.mp hmem with rfl | hmem
    · cases hop
    rcases List.mem_cons.mp hmem with rfl | hmem
    · rw [hquoted] at hop
      cases topology' <;> cases hop
    · exact hsearch.isRoute_of_insert hmem hop
  | missed t' o hsearch =>
    rcases List.mem_cons.mp hmem with rfl | hmem
    · cases hop
    · exact hsearch.isRoute_of_insert hmem hop

lemma soundCache_step :
    Preserves (RouteCacheStep adapter abi T) SoundCache := by
  rintro w w' ⟨srcToken, destToken, amount, _, _, t, o, htrace, ⟨op, reply⟩, hmem, hanswer⟩ hsound
  obtain ⟨best, hroute, -⟩ := getSwapQuote_trace htrace
  obtain ⟨key, ⟨hsrc, hdest⟩, hrun⟩ := evaluateRoute_run hroute
  cases op with
  | quoteExactInputSingle params => exact hsound.expires hanswer
  | quoteExactInput path amountIn => exact hsound.expires hanswer
  | aggregate3 calls => exact hsound.expires hanswer
  | cacheGet key => exact hsound.expires hanswer.1
  | cacheInvalidate key => exact (hsound.update (by simp)).expires hanswer
  | cacheInsert key' topology =>
    obtain ⟨rfl, hvalid⟩ := hrun.isRoute_of_insert hmem rfl
    refine (hsound.update fun topology' hcached => ?_).expires hanswer
    obtain rfl := Option.some.inj hcached
    rw [hsrc, hdest]
    exact hvalid

/-- Whatever calls there were, the routes of the cache are between the tokens of their keys. -/
theorem soundCache_run {w : RouteCacheState} (h : ReachableCache adapter abi T w) :
    SoundCache w :=
  soundCache_step.run h (by simp [SoundCache])

/-! ### The quote -/

/-- The calldata of a swap of `amount` along the route, to the flash liquidator. -/
def SwapsAlong (abi : UniswapAbi) (srcToken destToken : Address) (amount minAmtOut : U256) :
    RouteTopology → Bytes → Prop
  | .singleHop fee, data => abi.exactInputSingle {
      tokenIn := srcToken
      tokenOut := destToken
      fee := fee
      recipient := flashLiquidator
      amountIn := amount
      amountOutMinimum := minAmtOut
      sqrtPriceLimitX96 := 0 } = some data
  | .multiHop path, data => abi.exactInput {
      path := path
      recipient := flashLiquidator
      amountIn := amount
      amountOutMinimum := minAmtOut } = some data

/-- Among the calls of `t` the quoter returned `out` for `amount` along the route, on its own or in
a batch at the position of the call that quotes the route. -/
inductive QuotedIn (adapter : UniswapV3Adapter) (abi : UniswapAbi) (srcToken destToken : Address)
    (amount : U256) (t : List (Event routePorts)) (out : U256) : RouteTopology → Prop
  | alone (topology : RouteTopology) (event : Event routePorts) (hmem : event ∈ t)
      (hquote : RequoteEvent srcToken destToken amount out topology event) :
      QuotedIn adapter abi srcToken destToken amount t out topology
  | batched (calls : List Call3) (responses : List CallResult) (i : ℕ) (route : RouteMeta)
      (callData : Bytes) (response : CallResult)
      (hmem : (⟨.aggregate3 calls, some responses⟩ : Event routePorts) ∈ t)
      (hcall : calls[i]? = some ⟨adapter.quoter, true, callData⟩)
      (hroute : quoteCall abi srcToken destToken amount route = some callData)
      (hresponse : responses[i]? = some response)
      (hout : amountOut abi route response = some out) :
      QuotedIn adapter abi srcToken destToken amount t out route.topology

/-- A quote as it was asked for: the swap along a route that paid `out` in this call, for at least
`out` less the slippage. -/
def Describes (adapter : UniswapV3Adapter) (abi : UniswapAbi) (srcToken destToken : Address)
    (amount : U256) (t : List (Event routePorts)) (quote : MarketQuote) : Prop :=
  ∃ out topology, out ≠ 0 ∧ IsRoute srcToken destToken topology ∧
    QuotedIn adapter abi srcToken destToken amount t out topology ∧
    quote.minAmtOut.toNat = out.toNat * (10000 - slippageBps.toNat) / 10000 ∧
    SwapsAlong abi srcToken destToken amount quote.minAmtOut topology quote.swapData

lemma QuotedIn.mono {t t' : List (Event routePorts)} {out : U256} {topology : RouteTopology}
    (h : QuotedIn adapter abi srcToken destToken amount t out topology) (hsub : t ⊆ t') :
    QuotedIn adapter abi srcToken destToken amount t' out topology := by
  cases h with
  | alone topology event hmem hquote => exact .alone topology event (hsub hmem) hquote
  | batched calls responses i route callData response hmem hcall hroute hresponse hout =>
    exact .batched calls responses i route callData response (hsub hmem) hcall hroute hresponse hout

/-- What a search ends with was quoted in it, for one of its candidates. -/
lemma SearchRun.quotedIn {key : CacheKey} {t : List (Event routePorts)} {out : U256}
    {topology : RouteTopology}
    (h : SearchRun adapter abi srcToken destToken amount swapHubs key t (.ok (out, topology)))
    (hne : out ≠ 0) :
    IsRoute srcToken destToken topology ∧
      QuotedIn adapter abi srcToken destToken amount t out topology := by
  cases h with
  | nothing hempty => exact absurd rfl hne
  | failed => exact absurd rfl hne
  | unpaid responses topology hparse => exact absurd rfl hne
  | found responses out topology hparse hne =>
    obtain ⟨i, route, response, hroute, hresponse, hout, rfl⟩ :=
      exists_of_parseResponses hparse hne
    obtain ⟨callData, hquote, hcall⟩ := getElem?_multicallCalls hroute
    exact ⟨isRoute_of_getElem? hroute,
      .batched _ responses i route callData response (by simp) hcall hquote hresponse hout⟩

/-- So was what an evaluation ends with, if the cache has only sound routes. -/
lemma RouteRun.quotedIn {key : CacheKey} {t : List (Event routePorts)} {out : U256}
    {topology : RouteTopology}
    (h : RouteRun adapter abi srcToken destToken amount swapHubs key t (.ok (out, topology)))
    (hne : out ≠ 0)
    (hcached : ∀ topology rest, t = (⟨.cacheGet key, some topology⟩ : Event routePorts) :: rest →
      IsRoute srcToken destToken topology) :
    IsRoute srcToken destToken topology ∧
      QuotedIn adapter abi srcToken destToken amount t out topology := by
  cases h with
  | hit topology out event hquote hne =>
    exact ⟨hcached topology _ rfl, .alone topology event (by simp) hquote⟩
  | stale topology' event t' o hop hsearch =>
    obtain ⟨hroute, hquoted⟩ := hsearch.quotedIn hne
    exact ⟨hroute, hquoted.mono fun e he =>
      List.mem_cons_of_mem _ (List.mem_cons_of_mem _ he)⟩
  | missed t' o hsearch =>
    obtain ⟨hroute, hquoted⟩ := hsearch.quotedIn hne
    exact ⟨hroute, hquoted.mono fun e he => List.mem_cons_of_mem _ he⟩

/-- A search that finds a paying route ends with it. -/
lemma SearchRun.eq_of_found {key : CacheKey} {t : List (Event routePorts)}
    {o : Except Panic (U256 × RouteTopology)} {calls : List Call3} {responses : List CallResult}
    {out : U256} {topology : RouteTopology}
    (h : SearchRun adapter abi srcToken destToken amount swapHubs key t o)
    (hmem : (⟨.aggregate3 calls, some responses⟩ : Event routePorts) ∈ t)
    (hparse : parseResponses abi (adapter.routeBatch abi srcToken destToken amount
      swapHubs).routeMetadata responses = .ok (out, topology)) :
    o = .ok (out, topology) := by
  have hbatch : ∀ responses', (⟨.aggregate3 calls, some responses⟩ : Event routePorts)
      = ⟨.aggregate3 (adapter.routeBatch abi srcToken destToken amount swapHubs).multicallCalls,
        some responses'⟩ → responses = responses' := by
    intro responses' heq
    cases heq
    rfl
  cases h with
  | nothing hempty =>
    have heq := List.mem_singleton.mp hmem
    cases heq
  | failed =>
    simp only [List.mem_cons, List.not_mem_nil, or_false] at hmem
    rcases hmem with heq | heq <;> cases heq
  | panic responses' p hparse' =>
    simp only [List.mem_cons, List.not_mem_nil, or_false] at hmem
    rcases hmem with heq | heq
    · cases heq
    · rw [hbatch responses' heq, hparse'] at hparse
      cases hparse
  | unpaid responses' topology' hparse' =>
    simp only [List.mem_cons, List.not_mem_nil, or_false] at hmem
    rcases hmem with heq | heq
    · cases heq
    · rw [← hparse, hbatch responses' heq, hparse']
  | found responses' out' topology' hparse' hne =>
    simp only [List.mem_cons, List.not_mem_nil, or_false] at hmem
    rcases hmem with heq | heq | heq
    · cases heq
    · rw [← hparse, hbatch responses' heq, hparse']
    · cases heq

/-- So does the evaluation, whatever became of the cached route. -/
lemma RouteRun.eq_of_found {key : CacheKey} {t : List (Event routePorts)}
    {o : Except Panic (U256 × RouteTopology)} {calls : List Call3} {responses : List CallResult}
    {out : U256} {topology : RouteTopology}
    (h : RouteRun adapter abi srcToken destToken amount swapHubs key t o)
    (hmem : (⟨.aggregate3 calls, some responses⟩ : Event routePorts) ∈ t)
    (hparse : parseResponses abi (adapter.routeBatch abi srcToken destToken amount
      swapHubs).routeMetadata responses = .ok (out, topology)) :
    o = .ok (out, topology) := by
  cases h with
  | hit cached out' event hquote hne =>
    simp only [List.mem_cons, List.not_mem_nil, or_false] at hmem
    rcases hmem with heq | heq
    · cases heq
    · subst heq
      cases hquote
  | stale cached event t' o hop hsearch =>
    rcases List.mem_cons.mp hmem with heq | hmem
    · cases heq
    rcases List.mem_cons.mp hmem with heq | hmem
    · rw [← heq] at hop
      cases cached <;> cases hop
    · exact hsearch.eq_of_found hmem hparse
  | missed t' o hsearch =>
    rcases List.mem_cons.mp hmem with heq | hmem
    · cases heq
    · exact hsearch.eq_of_found hmem hparse

/-- The share of an amount that a swap must pay. -/
lemma calculateMinAmountOut_eq_ok_iff {out minAmtOut : U256} :
    calculateMinAmountOut out slippageBps = .ok minAmtOut ↔
      out.toNat * (10000 - slippageBps.toNat) < 2 ^ 256 ∧
        minAmtOut.toNat = out.toNat * (10000 - slippageBps.toNat) / 10000 := by
  have hmultiplier : (BitVec.ofNat 256 (10000 - slippageBps).toNat).toNat
      = 10000 - slippageBps.toNat := by decide
  have hdivider : (10000 : U256).toNat = 10000 := by decide
  have hexact := U256.mul_div_eq_ok_iff (x := out)
    (y := .ofNat 256 (10000 - slippageBps).toNat) (z := minAmtOut) (d := 10000) (by decide)
  rw [hmultiplier, hdivider] at hexact
  exact hexact

lemma swapData_eq_ok_iff {topology : RouteTopology} {minAmtOut : U256} {data : Bytes} :
    swapData abi srcToken destToken amount topology minAmtOut = .ok data ↔
      SwapsAlong abi srcToken destToken amount minAmtOut topology data := by
  cases topology with
  | singleHop fee =>
    rw [swapData, SwapsAlong]
    cases abi.exactInputSingle
      ⟨srcToken, destToken, fee, flashLiquidator, amount, minAmtOut, 0⟩ <;> simp
  | multiHop path =>
    rw [swapData, SwapsAlong]
    cases abi.exactInput ⟨path, flashLiquidator, amount, minAmtOut⟩ <;> simp

/-- A route is answered with its swap exactly when it pays, its minimum does not overflow and the
swap can be encoded. -/
lemma quoteAlong_eq_ok_iff {out : U256} {topology : RouteTopology} {quote : MarketQuote} :
    adapter.quoteAlong abi srcToken destToken amount T out topology = .ok (.ok quote) ↔
      out ≠ 0 ∧ calculateMinAmountOut out slippageBps = .ok quote.minAmtOut ∧
      swapData abi srcToken destToken amount topology quote.minAmtOut = .ok quote.swapData ∧
      quote.swapTarget = adapter.router ∧ quote.tokenTransferProxy = adapter.router := by
  rw [quoteAlong]
  by_cases hzero : out = 0
  · simp [hzero, pure, Except.pure]
  rw [if_neg hzero]
  cases hmin : calculateMinAmountOut out slippageBps with
  | error p => simp [Checked.error_bind]
  | ok minAmtOut =>
    rw [Checked.ok_bind]
    cases hdata : swapData abi srcToken destToken amount topology minAmtOut with
    | error e =>
      simp only [pure, Except.pure, Except.ok.injEq, reduceCtorEq, false_iff]
      rintro ⟨-, rfl, hok, -⟩
      rw [hdata] at hok
      cases hok
    | ok data =>
      obtain ⟨target, proxy, data', min⟩ := quote
      simp only [pure, Except.pure, Except.ok.injEq, MarketQuote.mk.injEq]
      constructor
      · rintro ⟨rfl, rfl, rfl, rfl⟩
        exact ⟨hzero, rfl, hdata, rfl, rfl⟩
      · rintro ⟨-, rfl, hok, rfl, rfl⟩
        rw [hdata] at hok
        exact ⟨rfl, rfl, Except.ok.inj hok, rfl⟩

/-- A call that runs among others leads from a cache that they reach to another. -/
theorem reachableCache_path {w w' : RouteCacheState} {srcDecimals destDecimals : UInt8}
    {t t' : List (Event routePorts)} {o : Except Panic (Except String MarketQuote)}
    (hreach : ReachableCache adapter abi T w)
    (htrace : (adapter.getSwapQuote abi srcToken destToken amount T srcDecimals
      destDecimals).Trace t o)
    (hsub : t' ⊆ t) (hpath : (sharedWorld adapter abi T).Path w t' w') :
    ReachableCache adapter abi T w' := by
  induction t' generalizing w with
  | nil =>
    cases hpath
    exact hreach
  | cons event rest ih =>
    obtain ⟨w₂, ⟨w₁, hothers, hanswer⟩, hpath⟩ := hpath
    have hmem : event ∈ t := hsub List.mem_cons_self
    exact ih ((hreach.trans hothers).tail ⟨_, _, _, _, _, t, o, htrace, event, hmem, hanswer⟩)
      (fun e he => hsub (List.mem_cons_of_mem event he)) hpath

/-- A route that is read from the cache is sound. -/
lemma isRoute_of_cached {key : CacheKey} {rest : List (Event routePorts)}
    {w w' : RouteCacheState} {topology : RouteTopology} (hreach : ReachableCache adapter abi T w)
    (hpath : (sharedWorld adapter abi T).Path w
      ((⟨.cacheGet key, some topology⟩ : Event routePorts) :: rest) w') :
    IsRoute key.srcToken key.destToken topology := by
  obtain ⟨w₂, ⟨w₁, hothers, hexpires, hreply⟩, -⟩ := hpath
  have hsound : SoundCache w₂ := (soundCache_run (hreach.trans hothers)).expires hexpires
  exact hsound key topology hreply.symm

/-- The share of an amount is there when the product fits. -/
lemma calculateMinAmountOut_returns {out : U256}
    (hfits : out.toNat * (10000 - slippageBps.toNat) < 2 ^ 256) :
    ∃ minAmtOut, calculateMinAmountOut out slippageBps = .ok minAmtOut := by
  have hshare : out.toNat * (10000 - slippageBps.toNat) / 10000 < 2 ^ 256 :=
    (Nat.div_le_self _ _).trans_lt hfits
  exact ⟨_, calculateMinAmountOut_eq_ok_iff.mpr ⟨hfits, U256.toNat_ofNat_of_lt hshare⟩⟩

/-- In any world where other calls use the cache at the same time, a quote describes the swap that
was asked for; and when the search of the call finds a route that pays and whose swap can be
encoded, the call does not fail, whatever the cached route was worth. -/
theorem swapQuote_describes {w w' : RouteCacheState} {srcDecimals destDecimals : UInt8}
    {t : List (Event routePorts)} {o : Except Panic (Except String MarketQuote)}
    (hreach : ReachableCache adapter abi T w)
    (htrace : (adapter.getSwapQuote abi srcToken destToken amount T srcDecimals
      destDecimals).Trace t o)
    (hpath : (sharedWorld adapter abi T).Path w t w') :
    (∀ quote, o = .ok (.ok quote) →
      Describes adapter abi srcToken destToken amount t quote) ∧
    ∀ calls responses out topology,
      (⟨.aggregate3 calls, some responses⟩ : Event routePorts) ∈ t →
      parseResponses abi (adapter.routeBatch abi srcToken destToken amount
        swapHubs).routeMetadata responses = .ok (out, topology) →
      out ≠ 0 → out.toNat * (10000 - slippageBps.toNat) < 2 ^ 256 →
      (∀ minAmtOut, ∃ data, SwapsAlong abi srcToken destToken amount minAmtOut topology data) →
      ∃ quote, o = .ok (.ok quote) := by
  obtain ⟨best, hroute, rfl⟩ := getSwapQuote_trace htrace
  obtain ⟨key, ⟨hsrc, hdest⟩, hrun⟩ := evaluateRoute_run hroute
  constructor
  · intro quote hquote
    rw [Checked.bind_eq_ok_iff] at hquote
    obtain ⟨⟨out, topology⟩, rfl, hquote⟩ := hquote
    obtain ⟨hne, hmin, hdata, -⟩ := quoteAlong_eq_ok_iff.mp hquote
    obtain ⟨hvalid, hquoted⟩ := hrun.quotedIn hne fun cached rest hcached => by
      rw [hcached] at hpath
      have hvalid := isRoute_of_cached hreach hpath
      rwa [hsrc, hdest] at hvalid
    exact ⟨out, topology, hne, hvalid, hquoted, (calculateMinAmountOut_eq_ok_iff.mp hmin).2,
      swapData_eq_ok_iff.mp hdata⟩
  · intro calls responses out topology hmem hparse hne hfits hencodes
    obtain rfl := hrun.eq_of_found hmem hparse
    obtain ⟨minAmtOut, hmin⟩ := calculateMinAmountOut_returns hfits
    obtain ⟨data, hdata⟩ := hencodes minAmtOut
    exact ⟨⟨adapter.router, adapter.router, data, minAmtOut⟩,
      quoteAlong_eq_ok_iff.mpr ⟨hne, hmin, swapData_eq_ok_iff.mpr hdata, rfl, rfl⟩⟩

/-! ### A sample quote -/

/-- A chain where the multicall answers, each pool quotes 1200 by itself, and nothing expires. -/
def sampleRespond (responses : List CallResult) : Responder routePorts RouteCacheState
  | .quoteExactInputSingle _, w => (some (1200, 0, 0, 0), w)
  | .quoteExactInput .., w => (none, w)
  | .aggregate3 _, w => (some responses, w)
  | .cacheGet key, w => (w key, w)
  | .cacheInvalidate key, w => ((), Function.update w key none)
  | .cacheInsert key topology, w => ((), Function.update w key (some topology))

lemma sampleRespond_answers (responses : List CallResult) (op : RouteOp) (w : RouteCacheState) :
    sharedWorld sampleAdapter .reference .reference w op (sampleRespond responses op w).1
      (sampleRespond responses op w).2 := by
  refine ⟨w, .refl, ?_⟩
  cases op with
  | cacheGet key => exact ⟨fun _ => Or.inl rfl, rfl⟩
  | _ => exact fun _ => Or.inl rfl

/-- Of the sixteen candidates the first two pay 500 and 1000. -/
def sampleResponses : List CallResult :=
  sampleResult 500 :: sampleResult 1000 :: List.replicate 14 ⟨false, []⟩

/-- The call over the pool with the fee 500. -/
def sampleSwapCall (amount minAmtOut : ℕ) : Bytes :=
  [0x04, 0xe4, 0x5a, 0xaf] ++ UniswapAbi.addressWord (.ofNat 20 1)
    ++ UniswapAbi.addressWord (.ofNat 20 2) ++ UniswapAbi.word 500
    ++ UniswapAbi.addressWord flashLiquidator ++ UniswapAbi.word amount
    ++ UniswapAbi.word minAmtOut ++ UniswapAbi.word 0

/-- The quote for the second candidate: at least 995. -/
def sampleSwapQuote : MarketQuote where
  swapTarget := uniswapv3Router02
  tokenTransferProxy := uniswapv3Router02
  swapData := sampleSwapCall 100 995
  minAmtOut := 995

/-- The quote for 101 along the same route, which is cached by then: at least 1194. -/
def sampleCachedQuote : MarketQuote where
  swapTarget := uniswapv3Router02
  tokenTransferProxy := uniswapv3Router02
  swapData := sampleSwapCall 101 1194
  minAmtOut := 1194

/-- The quote is asked for in the sample chain. -/
def sampleExec (amount : U256) (w : RouteCacheState) :
    Except Panic (Except String MarketQuote) × RouteCacheState :=
  (sampleAdapter.getSwapQuote .reference (.ofNat 20 1) (.ofNat 20 2) amount .reference 18 6).exec
    (sampleRespond sampleResponses) w

lemma exists_sampleTrace (amount : U256) (w : RouteCacheState) : ∃ t,
    (sampleAdapter.getSwapQuote .reference (.ofNat 20 1) (.ofNat 20 2) amount .reference
        18 6).Trace t (sampleExec amount w).1 ∧
      (sharedWorld sampleAdapter .reference .reference).Path w t (sampleExec amount w).2 :=
  exists_trace_of_exec (sampleRespond_answers sampleResponses) _ w

lemma sampleExec_cold : (sampleExec 100 fun _ => none).1 = .ok (.ok sampleSwapQuote) := by
  decide +kernel

lemma sampleExec_cached :
    (sampleExec 101 (sampleExec 100 fun _ => none).2).1 = .ok (.ok sampleCachedQuote) := by
  decide +kernel

/-- A quote for 100 from an empty cache, and then one for 101 along the route that it left. -/
theorem swapQuote_describes_sample : ∃ t t',
    (sampleAdapter.getSwapQuote .reference (.ofNat 20 1) (.ofNat 20 2) 100 .reference 18 6).Trace t
      (.ok (.ok sampleSwapQuote)) ∧
    Describes sampleAdapter .reference (.ofNat 20 1) (.ofNat 20 2) 100 t sampleSwapQuote ∧
    (sampleAdapter.getSwapQuote .reference (.ofNat 20 1) (.ofNat 20 2) 101 .reference 18 6).Trace t'
      (.ok (.ok sampleCachedQuote)) ∧
    Describes sampleAdapter .reference (.ofNat 20 1) (.ofNat 20 2) 101 t' sampleCachedQuote := by
  obtain ⟨t, htrace, hpath⟩ := exists_sampleTrace 100 fun _ => none
  obtain ⟨t', htrace', hpath'⟩ := exists_sampleTrace 101 (sampleExec 100 fun _ => none).2
  have hreach := reachableCache_path .refl htrace (List.Subset.refl t) hpath
  rw [sampleExec_cold] at htrace
  rw [sampleExec_cached] at htrace'
  exact ⟨t, t', htrace, (swapQuote_describes .refl htrace hpath).1 _ rfl, htrace',
    (swapQuote_describes hreach htrace' hpath').1 _ rfl⟩

end UniswapV3Adapter

end LiqRanger
