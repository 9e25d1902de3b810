import LiqRanger.Uniswap.Search

/-!
# The runs of a quote

Every run of `getSwapQuote`, as the calls it makes with their replies and the outcome: a cached
route that pays out, or a search over all routes (`evaluateRoute_run`), and then the swap along the
route (`getSwapQuote_trace`).
-/

namespace LiqRanger

open Effect

namespace UniswapV3Adapter

/-! ### Where the best route comes from -/

section
variable {abi : UniswapAbi} {routes : List RouteMeta} {best best' : U256 × RouteTopology}
  {responses : List CallResult}

/-- A parsed reply is kept for the route at its position. -/
lemma parseResponse_cases {entry : CallResult × ℕ}
    (h : parseResponse abi routes best entry = .ok best') :
    best' = best ∨ ∃ route, routes[entry.2]? = some route ∧
      quoted abi (route, entry.1) = some best' := by
  obtain ⟨response, i⟩ := entry
  cases hroute : routes[i]? with
  | none =>
    simp only [parseResponse, hroute] at h
    split at h
    · exact Or.inl (Except.ok.inj h).symm
    · cases h
  | some route =>
    rw [parseResponse_eq hroute, improve] at h
    cases hquote : quoted abi (route, response) with
    | none =>
      rw [hquote] at h
      exact Or.inl (Except.ok.inj h).symm
    | some quote =>
      rw [hquote] at h
      dsimp only at h
      split at h
      · obtain rfl := Except.ok.inj h
        exact Or.inr ⟨route, rfl, hquote⟩
      · exact Or.inl (Except.ok.inj h).symm

lemma foldlM_parseResponse_cases {entries : List (CallResult × ℕ)}
    (h : entries.foldlM (parseResponse abi routes) best = .ok best') :
    best' = best ∨ ∃ entry ∈ entries, ∃ route, routes[entry.2]? = some route ∧
      quoted abi (route, entry.1) = some best' := by
  induction entries generalizing best with
  | nil => exact Or.inl (Except.ok.inj h).symm
  | cons entry rest ih =>
    rw [List.foldlM_cons, Checked.bind_eq_ok_iff] at h
    obtain ⟨next, hnext, h⟩ := h
    rcases ih h with rfl | ⟨later, hlater, hroute⟩
    · rcases parseResponse_cases hnext with rfl | hroute
      · exact Or.inl rfl
      · exact Or.inr ⟨entry, List.mem_cons_self, hroute⟩
    · exact Or.inr ⟨later, List.mem_cons_of_mem entry hlater, hroute⟩

/-- An amount that is not zero was quoted by the reply at the position of its route. -/
lemma exists_of_parseResponses {out : U256} {topology : RouteTopology}
    (h : parseResponses abi routes responses = .ok (out, topology)) (hne : out ≠ 0) :
    ∃ (i : ℕ) (route : RouteMeta) (response : CallResult), routes[i]? = some route ∧
      responses[i]? = some response ∧ amountOut abi route response = some out ∧
      route.topology = topology := by
  rcases foldlM_parseResponse_cases h with hdefault | ⟨⟨response, i⟩, hmem, route, hroute, hquote⟩
  · exact absurd (congrArg Prod.fst hdefault) hne
  · simp only [quoted, Option.map_eq_some_iff, Prod.mk.injEq] at hquote
    obtain ⟨_, hout, rfl, rfl⟩ := hquote
    exact ⟨i, route, response, hroute, List.mem_zipIdx_iff_getElem?.mp hmem, hout, rfl⟩

end

section
variable {adapter : UniswapV3Adapter} {abi : UniswapAbi} {srcToken destToken : Address}
  {amount : U256} {hubs : List Address}

lemma map_filter_isSome {α β : Type} (f : α → Option β) (l : List α) :
    (l.filter fun a => (f a).isSome).map f = (l.filterMap f).map some := by
  induction l with
  | nil => rfl
  | cons a l ih =>
    cases hf : f a with
    | none => simp [hf, ih]
    | some b => simp [hf, ih]

/-- The call at the position of a route quotes it. -/
lemma getElem?_multicallCalls {i : ℕ} {route : RouteMeta}
    (h : (adapter.routeBatch abi srcToken destToken amount hubs).routeMetadata[i]? = some route) :
    ∃ callData, quoteCall abi srcToken destToken amount route = some callData ∧
      (adapter.routeBatch abi srcToken destToken amount hubs).multicallCalls[i]?
        = some ⟨adapter.quoter, true, callData⟩ := by
  rw [routeBatch_eq] at h ⊢
  have hmap := congrArg (fun l => l[i]?) (map_filter_isSome
    (quoteCall abi srcToken destToken amount) (candidates srcToken destToken hubs))
  dsimp only at h hmap
  rw [List.getElem?_map, List.getElem?_map, ← encodable, h, Option.map_some] at hmap
  obtain ⟨callData, hcall, hquote⟩ := Option.map_eq_some_iff.mp hmap.symm
  exact ⟨callData, hquote.symm, by rw [List.getElem?_map, hcall, Option.map_some]⟩

/-! ### A search -/

section
variable (adapter abi srcToken destToken amount hubs)

/-- The runs of a search under a key: the calls with their replies, and the outcome. -/
inductive SearchRun (key : CacheKey) :
    List (Event routePorts) → Except Panic (U256 × RouteTopology) → Prop
  | nothing
      (hempty : (adapter.routeBatch abi srcToken destToken amount hubs).multicallCalls.isEmpty) :
      SearchRun key [⟨.cacheInvalidate key, ()⟩] (.ok (0, .singleHop 3000))
  | failed :
      SearchRun key [⟨.cacheInvalidate key, ()⟩, ⟨.aggregate3
        (adapter.routeBatch abi srcToken destToken amount hubs).multicallCalls,
          (none : Option (List CallResult))⟩]
        (.ok (0, .singleHop 3000))
  | panic (responses : List CallResult) (p : Panic)
      (hparse : parseResponses abi
        (adapter.routeBatch abi srcToken destToken amount hubs).routeMetadata responses
          = .error p) :
      SearchRun key [⟨.cacheInvalidate key, ()⟩, ⟨.aggregate3
        (adapter.routeBatch abi srcToken destToken amount hubs).multicallCalls,
          some responses⟩]
        (.error p)
  | unpaid (responses : List CallResult) (topology : RouteTopology)
      (hparse : parseResponses abi
        (adapter.routeBatch abi srcToken destToken amount hubs).routeMetadata responses
          = .ok (0, topology)) :
      SearchRun key [⟨.cacheInvalidate key, ()⟩, ⟨.aggregate3
        (adapter.routeBatch abi srcToken destToken amount hubs).multicallCalls,
          some responses⟩]
        (.ok (0, topology))
  | found (responses : List CallResult) (out : U256) (topology : RouteTopology)
      (hparse : parseResponses abi
        (adapter.routeBatch abi srcToken destToken amount hubs).routeMetadata responses
          = .ok (out, topology)) (hne : out ≠ 0) :
      SearchRun key [⟨.cacheInvalidate key, ()⟩, ⟨.aggregate3
        (adapter.routeBatch abi srcToken destToken amount hubs).multicallCalls,
          some responses⟩, ⟨.cacheInsert key topology, ()⟩]
        (.ok (out, topology))

end

lemma searchRoute_run {key : CacheKey} {t : List (Event routePorts)}
    {o : Except Panic (U256 × RouteTopology)}
    (h : (adapter.searchRoute abi srcToken destToken amount key hubs).Trace t o) :
    SearchRun adapter abi srcToken destToken amount hubs key t o := by
  rw [searchRoute, RouteCache.invalidate, Program.call_bind] at h
  obtain ⟨⟨⟩, t', rfl, hrest⟩ := h
  rw [Program.ret_bind, findBestRouteMulticall] at hrest
  by_cases hempty : (adapter.routeBatch abi srcToken destToken amount hubs).multicallCalls.isEmpty
  · rw [if_pos hempty, Program.pure_eq_ret, Program.ret_bind] at hrest
    obtain ⟨rfl, rfl⟩ := hrest
    exact .nothing hempty
  · rw [if_neg hempty, IMulticall3.aggregate3, Program.call_bind, Program.call_bind] at hrest
    obtain ⟨reply, t₁, rfl, hreply⟩ := hrest
    cases (reply : Option (List CallResult)) with
    | none =>
      obtain ⟨rfl, rfl⟩ := hreply
      exact .failed
    | some responses =>
      simp only [Program.ret_bind] at hreply
      cases hparse : parseResponses abi
          (adapter.routeBatch abi srcToken destToken amount hubs).routeMetadata responses with
      | error p =>
        rw [hparse] at hreply
        obtain ⟨rfl, rfl⟩ := hreply
        exact .panic responses p hparse
      | ok best =>
        obtain ⟨out, topology⟩ := best
        rw [hparse, Program.ofExcept_ok, Program.ret_bind] at hreply
        by_cases hzero : out = 0
        · subst hzero
          obtain ⟨rfl, rfl⟩ := hreply
          exact .unpaid responses topology hparse
        · simp only [ne_eq, hzero, not_false_eq_true, if_true, RouteCache.insert,
            Program.call_bind, Program.ret_bind] at hreply
          obtain ⟨⟨⟩, t₂, rfl, rfl, rfl⟩ := hreply
          exact .found responses out topology hparse hzero

/-! ### A quote -/

section
variable (srcToken destToken amount)

/-- The call that quotes a cached route again. -/
def requoteOp : RouteTopology → RouteOp
  | .singleHop fee => .quoteExactInputSingle ⟨srcToken, destToken, amount, fee, 0⟩
  | .multiHop path => .quoteExactInput path amount

/-- That call, with a reply that quotes `out`. -/
inductive RequoteEvent (out : U256) : RouteTopology → Event routePorts → Prop
  | singleHop (fee : UInt32) (rest : U256 × UInt32 × U256) :
      RequoteEvent out (.singleHop fee)
        ⟨.quoteExactInputSingle ⟨srcToken, destToken, amount, fee, 0⟩,
          (some (out, rest) : Option (U256 × U256 × UInt32 × U256))⟩
  | multiHop (path : Bytes) (rest : List U256 × List UInt32 × U256) :
      RequoteEvent out (.multiHop path)
        ⟨.quoteExactInput path amount,
          (some (out, rest) : Option (U256 × List U256 × List UInt32 × U256))⟩

end

lemma requote_trace {topology : RouteTopology} {t : List (Event routePorts)}
    {o : Except Panic U256} (h : (requote srcToken destToken amount topology).Trace t o) :
    ∃ event out, t = [event] ∧ o = .ok out ∧
      event.op = requoteOp srcToken destToken amount topology ∧
      (out ≠ 0 → RequoteEvent srcToken destToken amount out topology event) := by
  cases topology with
  | singleHop fee =>
    obtain ⟨reply, t', rfl, hreply⟩ := h
    cases (reply : Option (U256 × U256 × UInt32 × U256)) with
    | none =>
      obtain ⟨rfl, rfl⟩ := hreply
      exact ⟨_, 0, rfl, rfl, rfl, fun hne => absurd rfl hne⟩
    | some quote =>
      obtain ⟨rfl, rfl⟩ := hreply
      exact ⟨_, quote.1, rfl, rfl, rfl, fun _ => .singleHop fee quote.2⟩
  | multiHop path =>
    obtain ⟨reply, t', rfl, hreply⟩ := h
    cases (reply : Option (U256 × List U256 × List UInt32 × U256)) with
    | none =>
      obtain ⟨rfl, rfl⟩ := hreply
      exact ⟨_, 0, rfl, rfl, rfl, fun hne => absurd rfl hne⟩
    | some quote =>
      obtain ⟨rfl, rfl⟩ := hreply
      exact ⟨_, quote.1, rfl, rfl, rfl, fun _ => .multiHop path quote.2⟩

section
variable (adapter abi srcToken destToken amount hubs)

/-- The runs of an evaluation: the route of the cache, if it still pays, or a search. -/
inductive RouteRun (key : CacheKey) :
    List (Event routePorts) → Except Panic (U256 × RouteTopology) → Prop
  | hit (topology : RouteTopology) (out : U256) (event : Event routePorts)
      (hquote : RequoteEvent srcToken destToken amount out topology event) (hne : out ≠ 0) :
      RouteRun key [⟨.cacheGet key, some topology⟩, event] (.ok (out, topology))
  | stale (topology : RouteTopology) (event : Event routePorts) (t : List (Event routePorts))
      (o : Except Panic (U256 × RouteTopology))
      (hop : event.op = requoteOp srcToken destToken amount topology)
      (hsearch : SearchRun adapter abi srcToken destToken amount hubs key t o) :
      RouteRun key (⟨.cacheGet key, some topology⟩ :: event :: t) o
  | missed (t : List (Event routePorts)) (o : Except Panic (U256 × RouteTopology))
      (hsearch : SearchRun adapter abi srcToken destToken amount hubs key t o) :
      RouteRun key (⟨.cacheGet key, (none : Option RouteTopology)⟩ :: t) o

end

lemma evaluateRoute_run {t : List (Event routePorts)} {o : Except Panic (U256 × RouteTopology)}
    (h : (adapter.evaluateRoute abi srcToken destToken amount hubs).Trace t o) :
    ∃ key : CacheKey, (key.srcToken = srcToken ∧ key.destToken = destToken) ∧
      RouteRun adapter abi srcToken destToken amount hubs key t o := by
  obtain ⟨key, hkey, htokens⟩ := CacheKey.exists_new srcToken destToken amount
  refine ⟨key, htokens, ?_⟩
  rw [evaluateRoute, hkey, Program.ofExcept_ok, Program.ret_bind, RouteCache.get,
    Program.call_bind] at h
  obtain ⟨reply, t', rfl, hreply⟩ := h
  cases (reply : Option RouteTopology) with
  | none => exact .missed t' o (searchRoute_run hreply)
  | some topology =>
    simp only [Program.ret_bind, Program.trace_bind] at hreply
    rcases hreply with ⟨p, hrequote, -⟩ | ⟨t₁, t₂, out, rfl, hrequote, hreply⟩
    · obtain ⟨_, _, _, hok, _⟩ := requote_trace hrequote
      cases hok
    · obtain ⟨event, out', rfl, hok, hop, hquote⟩ := requote_trace hrequote
      cases hok
      by_cases hzero : out = 0
      · simp only [ne_eq, hzero, not_true_eq_false, if_false] at hreply
        exact .stale topology event t₂ o hop (searchRoute_run hreply)
      · simp only [ne_eq, hzero, not_false_eq_true, if_true] at hreply
        obtain ⟨rfl, rfl⟩ := hreply
        exact .hit topology out event (hquote hzero) hzero

/-! ### The swap -/

section
variable (adapter abi srcToken destToken amount)

/-- What a route that pays `out` is answered with. -/
def quoteAlong (T : EthersText) (out : U256) (topology : RouteTopology) :
    Except Panic (Except String MarketQuote) := do
  if out = 0 then
    return .error ("No Uniswap V3 liquidity found for pair "
      ++ String.ofList (T.address.debug srcToken) ++ " -> "
      ++ String.ofList (T.address.debug destToken))
  let minAmtOut ← calculateMinAmountOut out slippageBps
  match swapData abi srcToken destToken amount topology minAmtOut with
  | .ok data => return .ok ⟨adapter.router, adapter.router, data, minAmtOut⟩
  | .error e => return .error e

end

/-- A quote evaluates the route, and makes no call after that. -/
lemma getSwapQuote_trace {T : EthersText} {srcDecimals destDecimals : UInt8}
    {t : List (Event routePorts)} {o : Except Panic (Except String MarketQuote)}
    (h : (adapter.getSwapQuote abi srcToken destToken amount T srcDecimals destDecimals).Trace
      t o) :
    ∃ best : Except Panic (U256 × RouteTopology),
      (adapter.evaluateRoute abi srcToken destToken amount swapHubs).Trace t best ∧
      o = best >>= fun best =>
        adapter.quoteAlong abi srcToken destToken amount T best.1 best.2 := by
  rw [getSwapQuote, Program.trace_bind] at h
  rcases h with ⟨p, hroute, rfl⟩ | ⟨t₁, t₂, ⟨out, topology⟩, rfl, hroute, hrest⟩
  · exact ⟨.error p, hroute, rfl⟩
  · dsimp only at hrest
    have hcalls : t₂ = [] ∧
        o = adapter.quoteAlong abi srcToken destToken amount T out topology := by
      rw [quoteAlong]
      by_cases hzero : out = 0
      · rw [if_pos hzero] at hrest ⊢
        exact hrest
      · rw [if_neg hzero] at hrest ⊢
        cases hmin : calculateMinAmountOut out slippageBps with
        | error p =>
          rw [hmin] at hrest
          exact hrest
        | ok minAmtOut =>
          rw [hmin, Program.ofExcept_ok, Program.ret_bind] at hrest
          rw [Checked.ok_bind]
          cases hdata : swapData abi srcToken destToken amount topology minAmtOut with
          | ok data =>
            rw [hdata] at hrest
            exact hrest
          | error e =>
            rw [hdata] at hrest
            exact hrest
    obtain ⟨rfl, rfl⟩ := hcalls
    rw [List.append_nil]
    exact ⟨.ok (out, topology), hroute, rfl⟩

end

end UniswapV3Adapter

end LiqRanger
