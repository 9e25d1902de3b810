import LiqRanger.Order.FirstMax
import LiqRanger.Uniswap.Adapter

/-!
# The search over all routes

The batch lists the candidates that can be encoded, in order, and a reply is decoded as the route at
its position. The search ends with the greatest amount and the first route that pays it, or with
nothing and the default route when no route pays (`findBestRouteMulticall_best`).
-/

namespace LiqRanger

open Effect

namespace UniswapV3Adapter

/-! ### The batch -/

section
variable (adapter : UniswapV3Adapter) (abi : UniswapAbi) (srcToken destToken : Address)
  (amount : U256)

/-- The four pools, and the four pairs of pools through each hub. -/
def candidates (hubs : List Address) : List RouteMeta :=
  singleFeeTiers.map .singleHop ++
    (validHubs srcToken destToken hubs).flatMap fun hub =>
      multihopFeeTiers.flatMap fun fee1 => multihopFeeTiers.map fun fee2 =>
        .multiHop (encodeV3Path [srcToken, hub, destToken] [fee1, fee2] (length_hubTokens ..))

/-- The calldata that quotes a candidate. -/
def quoteCall : RouteMeta → Option Bytes
  | .singleHop fee => abi.quoteExactInputSingle ⟨srcToken, destToken, amount, fee, 0⟩
  | .multiHop path => abi.quoteExactInput path amount

def pushRoute (batch : RouteBatch) (route : RouteMeta) : RouteBatch :=
  adapter.push batch (quoteCall abi srcToken destToken amount route) route

/-- The candidates that can be encoded. -/
def encodable (hubs : List Address) : List RouteMeta :=
  (candidates srcToken destToken hubs).filter fun route =>
    (quoteCall abi srcToken destToken amount route).isSome

variable {adapter abi srcToken destToken amount} {hubs : List Address}

/-- The loops push the candidates in order. -/
lemma routeBatch_eq_foldl :
    adapter.routeBatch abi srcToken destToken amount hubs
      = (candidates srcToken destToken hubs).foldl
        (adapter.pushRoute abi srcToken destToken amount) ⟨[], []⟩ := by
  rw [candidates, List.foldl_append, List.foldl_map, List.foldl_flatMap]
  simp only [List.foldl_flatMap, List.foldl_map]
  rfl

lemma foldl_pushRoute (routes : List RouteMeta) (batch : RouteBatch) :
    routes.foldl (adapter.pushRoute abi srcToken destToken amount) batch =
      ⟨batch.multicallCalls ++
          (routes.filterMap (quoteCall abi srcToken destToken amount)).map
            fun callData => ⟨adapter.quoter, true, callData⟩,
        batch.routeMetadata ++ routes.filter fun route =>
          (quoteCall abi srcToken destToken amount route).isSome⟩ := by
  induction routes generalizing batch with
  | nil => simp
  | cons route rest ih =>
    rw [List.foldl_cons, ih]
    cases hcall : quoteCall abi srcToken destToken amount route with
    | none => simp [pushRoute, push, hcall]
    | some callData => simp [pushRoute, push, hcall]

lemma routeBatch_eq :
    adapter.routeBatch abi srcToken destToken amount hubs =
      ⟨((candidates srcToken destToken hubs).filterMap
          (quoteCall abi srcToken destToken amount)).map
            fun callData => ⟨adapter.quoter, true, callData⟩,
        encodable abi srcToken destToken amount hubs⟩ := by
  rw [routeBatch_eq_foldl, foldl_pushRoute]
  rfl

/-- The two vectors of a batch are as long as each other. -/
lemma length_multicallCalls :
    (adapter.routeBatch abi srcToken destToken amount hubs).multicallCalls.length
      = (encodable abi srcToken destToken amount hubs).length := by
  rw [routeBatch_eq, encodable, List.length_map, List.length_filterMap_eq_countP,
    List.countP_eq_length_filter]

end

/-! ### The replies -/

section
variable (abi : UniswapAbi)

/-- What a reply quotes for a route: nothing if the call failed or its data is empty or cannot be
decoded. -/
def amountOut (route : RouteMeta) (response : CallResult) : Option U256 :=
  if !response.success || response.returnData.isEmpty then none
  else match abi.decode route.returnTypes response.returnData with
    | some (.uint amountOut :: _) => some amountOut
    | _ => none

/-- A candidate and its reply, as an amount and a topology. -/
def quoted (entry : RouteMeta × CallResult) : Option (U256 × RouteTopology) :=
  (amountOut abi entry.1 entry.2).map fun out => (out, entry.1.topology)

/-- Keep the better of the best so far and the next quote. -/
def improve (best : U256 × RouteTopology) (entry : RouteMeta × CallResult) : U256 × RouteTopology :=
  match quoted abi entry with
  | some quote => if best.1.toNat < quote.1.toNat then quote else best
  | none => best

variable {abi} {routes : List RouteMeta} {best best' : U256 × RouteTopology} {i : ℕ}
  {route : RouteMeta} {response : CallResult}

/-- A reply with a route at its position is parsed as that route's. -/
lemma parseResponse_eq (hroute : routes[i]? = some route) :
    parseResponse abi routes best (response, i) = .ok (improve abi best (route, response)) := by
  simp only [parseResponse, improve, quoted, amountOut, hroute]
  by_cases hempty : (!response.success || response.returnData.isEmpty) = true
  · rw [if_pos hempty, if_pos hempty]
    rfl
  · rw [if_neg hempty, if_neg hempty]
    cases abi.decode route.returnTypes response.returnData with
    | none => rfl
    | some tokens =>
      cases tokens with
      | nil => rfl
      | cons token rest =>
        cases token with
        | array tokens => rfl
        | uint out =>
          by_cases hlt : best.1 < out
          · simp [hlt, BitVec.lt_def.mp hlt, pure, Except.pure]
          · simp [hlt, mt BitVec.lt_def.mpr hlt, pure, Except.pure]

/-- As many replies as routes are parsed side by side with them. -/
lemma foldlM_parseResponse (before rest : List RouteMeta) (responses : List CallResult)
    (hlength : responses.length = rest.length) (best : U256 × RouteTopology) :
    (responses.zipIdx before.length).foldlM (parseResponse abi (before ++ rest)) best
      = .ok ((rest.zip responses).foldl (improve abi) best) := by
  induction responses generalizing before rest best with
  | nil =>
    obtain rfl : rest = [] := List.length_eq_zero_iff.mp hlength.symm
    rfl
  | cons response responses ih =>
    cases rest with
    | nil => simp at hlength
    | cons route rest =>
      have hroute : (before ++ route :: rest)[before.length]? = some route := by simp
      have hrest := ih (before ++ [route]) rest (by simpa using hlength)
        (improve abi best (route, response))
      rw [List.length_append, List.length_singleton, List.append_assoc,
        List.singleton_append] at hrest
      rw [List.zipIdx_cons, List.foldlM_cons, parseResponse_eq hroute, Checked.ok_bind, hrest]
      rfl

lemma parseResponses_eq {responses : List CallResult} (hlength : responses.length = routes.length) :
    parseResponses abi routes responses
      = .ok ((routes.zip responses).foldl (improve abi) (0, .singleHop 3000)) :=
  foldlM_parseResponse [] routes responses hlength (0, .singleHop 3000)

/-- The search ends with the greatest of the default and the quotes, the first among equals. -/
lemma argmax_quotes (abi : UniswapAbi) (entries : List (RouteMeta × CallResult)) :
    ((0, .singleHop 3000) :: entries.filterMap (quoted abi)).argmax
        (fun quote : U256 × RouteTopology => quote.1.toNat)
      = some (entries.foldl (improve abi) (0, .singleHop 3000)) := by
  apply List.argmax_cons_filterMap
  · intro best entry hnone
    simp [improve, hnone]
  · intro best entry quote hsome
    simp [improve, hsome]

end

/-! ### The search -/

section
variable {adapter : UniswapV3Adapter} {abi : UniswapAbi} {srcToken destToken : Address}
  {amount : U256} {hubs : List Address}

lemma eval_findBestRouteMulticall {responses : List CallResult}
    {answer : (op : RouteOp) → op.Reply}
    (hanswer : answer (.aggregate3
      (adapter.routeBatch abi srcToken destToken amount hubs).multicallCalls) = some responses)
    (hlength : responses.length
      = (adapter.routeBatch abi srcToken destToken amount hubs).multicallCalls.length) :
    (adapter.findBestRouteMulticall abi srcToken destToken amount hubs).eval answer =
      .ok (((encodable abi srcToken destToken amount hubs).zip responses).foldl (improve abi)
        (0, .singleHop 3000)) := by
  have hroutes : responses.length = (encodable abi srcToken destToken amount hubs).length :=
    hlength.trans length_multicallCalls
  rw [findBestRouteMulticall]
  by_cases hempty : (adapter.routeBatch abi srcToken destToken amount hubs).multicallCalls.isEmpty
  · -- nothing is asked, and nothing is zipped
    have hnone : responses = [] := by
      rw [List.isEmpty_iff_length_eq_zero.mp hempty] at hlength
      exact List.length_eq_zero_iff.mp hlength
    rw [if_pos hempty, hnone, List.zip_nil_right]
    rfl
  · rw [if_neg hempty, IMulticall3.aggregate3, Program.call_bind, Program.eval_call, hanswer,
      Program.ret_bind]
    dsimp only
    rw [Program.eval_ofExcept, routeBatch_eq]
    exact parseResponses_eq hroutes

end

def sampleAdapter : UniswapV3Adapter := ⟨uniswapv3QuoterV2, uniswapv3Router02⟩

/-- A reply that quotes `out`. -/
def sampleResult (out : ℕ) : CallResult :=
  ⟨true, UniswapAbi.word out ++ UniswapAbi.word 0 ++ UniswapAbi.word 0 ++ UniswapAbi.word 0⟩

/-- A chain where only the multicall answers. -/
def sampleAnswer (responses : List CallResult) : (op : RouteOp) → op.Reply
  | .quoteExactInputSingle _ => none
  | .quoteExactInput .. => none
  | .aggregate3 _ => some responses
  | .cacheGet _ => none
  | .cacheInvalidate _ => ()
  | .cacheInsert .. => ()

end UniswapV3Adapter

end LiqRanger
