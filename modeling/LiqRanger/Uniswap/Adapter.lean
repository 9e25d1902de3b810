import LiqRanger.Core.Constants
import LiqRanger.Effect.Program
import LiqRanger.Uniswap.CacheKey

/-!
# The route finder

`getSwapQuote` over the calls it makes to the quoter, to the multicall contract and to the cache of
routes. The encoding of calls and the decoding of replies are generated from the contracts' ABIs and
taken as given.
-/

namespace LiqRanger

open Effect

/-! ### Calls and replies -/

structure QuoteExactInputSingleParams where
  tokenIn : Address
  tokenOut : Address
  amountIn : U256
  fee : UInt32
  sqrtPriceLimitX96 : U256

structure ExactInputParams where
  path : Bytes
  recipient : Address
  amountIn : U256
  amountOutMinimum : U256

structure ExactInputSingleParams where
  tokenIn : Address
  tokenOut : Address
  fee : UInt32
  recipient : Address
  amountIn : U256
  amountOutMinimum : U256
  sqrtPriceLimitX96 : U256

structure Call3 where
  target : Address
  allowFailure : Bool
  callData : Bytes

/-- What the multicall contract returns for one call. -/
structure CallResult where
  success : Bool
  returnData : Bytes

/-- The types of an ABI that the quoter returns. -/
inductive ParamType where
  | uint (bits : ℕ)
  | array (of : ParamType)
  deriving DecidableEq

inductive Token where
  | uint (n : U256)
  | array (tokens : List Token)

/-- The generated code of the contracts: the calldata of each call, if it can be encoded, and the
decoding of returned data. -/
structure UniswapAbi where
  quoteExactInputSingle : QuoteExactInputSingleParams → Option Bytes
  quoteExactInput : Bytes → U256 → Option Bytes
  exactInput : ExactInputParams → Option Bytes
  exactInputSingle : ExactInputSingleParams → Option Bytes
  decode : List ParamType → Bytes → Option (List Token)

namespace UniswapAbi

/-- A number as a word of calldata. -/
def word (n : ℕ) : Bytes := (FixedHash.ofNat 32 n).bytes

def addressWord (address : Address) : Bytes := List.replicate 12 0 ++ address.bytes

/-- Bytes behind their length, padded to whole words. -/
def padded (data : Bytes) : Bytes :=
  word data.length ++ data ++ List.replicate ((32 - data.length % 32) % 32) 0

def wordAt (data : Bytes) (i : ℕ) : U256 :=
  .ofNat 256 (((data.drop (32 * i)).take 32).foldl (fun n byte => n * 256 + byte.toNat) 0)

/-- The encoding of the deployed contracts. It decodes no lists, which nothing looks into. -/
def reference : UniswapAbi where
  quoteExactInputSingle params := some ([0xc6, 0xa5, 0x02, 0x6a] ++ addressWord params.tokenIn
    ++ addressWord params.tokenOut ++ word params.amountIn.toNat ++ word params.fee.toNat
    ++ word params.sqrtPriceLimitX96.toNat)
  quoteExactInput path amountIn := some ([0xcd, 0xca, 0x17, 0x53] ++ word 64
    ++ word amountIn.toNat ++ padded path)
  exactInput params := some ([0xb8, 0x58, 0x18, 0x3f] ++ word 32 ++ word 128
    ++ addressWord params.recipient ++ word params.amountIn.toNat
    ++ word params.amountOutMinimum.toNat ++ padded params.path)
  exactInputSingle params := some ([0x04, 0xe4, 0x5a, 0xaf] ++ addressWord params.tokenIn
    ++ addressWord params.tokenOut ++ word params.fee.toNat ++ addressWord params.recipient
    ++ word params.amountIn.toNat ++ word params.amountOutMinimum.toNat
    ++ word params.sqrtPriceLimitX96.toNat)
  decode types data :=
    if data.length < 32 * types.length then none
    else some (types.zipIdx.map fun (type, i) => match type with
      | .uint _ => .uint (wordAt data i)
      | .array _ => .array [])

end UniswapAbi

inductive RouteTopology where
  | singleHop (fee : UInt32)
  | multiHop (path : Bytes)
  deriving DecidableEq

/-- The calls of the route finder, the accesses to its cache among them. -/
inductive RouteOp where
  | quoteExactInputSingle (params : QuoteExactInputSingleParams)
  | quoteExactInput (path : Bytes) (amountIn : U256)
  | aggregate3 (calls : List Call3)
  | cacheGet (key : CacheKey)
  | cacheInvalidate (key : CacheKey)
  | cacheInsert (key : CacheKey) (topology : RouteTopology)

/-- A quote comes with the prices and the ticks it would leave, and the gas it needs. -/
def RouteOp.Reply : RouteOp → Type
  | .quoteExactInputSingle _ => Option (U256 × U256 × UInt32 × U256)
  | .quoteExactInput .. => Option (U256 × List U256 × List UInt32 × U256)
  | .aggregate3 _ => Option (List CallResult)
  | .cacheGet _ => Option RouteTopology
  | .cacheInvalidate _ => Unit
  | .cacheInsert .. => Unit

abbrev routePorts : Interface := ⟨RouteOp, RouteOp.Reply⟩

abbrev RouteM := Program routePorts Panic

def IQuoterV2.quoteExactInputSingle (params : QuoteExactInputSingleParams) :
    RouteM (Option (U256 × U256 × UInt32 × U256)) :=
  .call (.quoteExactInputSingle params) fun reply => .ret reply

def IQuoterV2.quoteExactInput (path : Bytes) (amountIn : U256) :
    RouteM (Option (U256 × List U256 × List UInt32 × U256)) :=
  .call (.quoteExactInput path amountIn) fun reply => .ret reply

def IMulticall3.aggregate3 (calls : List Call3) : RouteM (Option (List CallResult)) :=
  .call (.aggregate3 calls) fun reply => .ret reply

def RouteCache.get (key : CacheKey) : RouteM (Option RouteTopology) :=
  .call (.cacheGet key) fun reply => .ret reply

def RouteCache.invalidate (key : CacheKey) : RouteM Unit :=
  .call (.cacheInvalidate key) fun _ => .ret ()

def RouteCache.insert (key : CacheKey) (topology : RouteTopology) : RouteM Unit :=
  .call (.cacheInsert key topology) fun _ => .ret ()

/-! ### Candidates -/

def beBytes (n : UInt32) : Bytes :=
  [(n >>> 24).toUInt8, (n >>> 16).toUInt8, (n >>> 8).toUInt8, n.toUInt8]

/-- Each token but the last with the three bytes of the fee to the next; the source asserts
`hlength`. -/
def encodeV3Path (tokens : List Address) (fees : List UInt32)
    (hlength : tokens.length = fees.length + 1) : Bytes :=
  ((tokens.zip fees).flatMap fun hop => hop.1.bytes ++ (beBytes hop.2).extract 1 4)
    ++ (tokens.getLast (List.ne_nil_of_length_eq_add_one hlength)).bytes

lemma length_hubTokens (srcToken hub destToken : Address) (fee1 fee2 : UInt32) :
    [srcToken, hub, destToken].length = [fee1, fee2].length + 1 := rfl

inductive RouteMeta where
  | singleHop (fee : UInt32)
  | multiHop (path : Bytes)
  deriving DecidableEq

def RouteMeta.topology : RouteMeta → RouteTopology
  | .singleHop fee => .singleHop fee
  | .multiHop path => .multiHop path

/-- The signatures differ: a quote over one pool returns one price and one tick count, a quote over
a path lists of them. -/
def RouteMeta.returnTypes : RouteMeta → List ParamType
  | .singleHop _ => [.uint 256, .uint 160, .uint 32, .uint 256]
  | .multiHop _ => [.uint 256, .array (.uint 160), .array (.uint 32), .uint 256]

structure UniswapV3Adapter where
  quoter : Address
  router : Address

/-- The calls of one batch, and the routes they stand for. -/
structure RouteBatch where
  multicallCalls : List Call3
  routeMetadata : List RouteMeta

namespace UniswapV3Adapter

def singleFeeTiers : List UInt32 := [100, 500, 3000, 10000]

def multihopFeeTiers : List UInt32 := [500, 3000]

section
variable (adapter : UniswapV3Adapter) (abi : UniswapAbi) (srcToken destToken : Address)
  (amount : U256)

/-- A call that cannot be encoded is left out, with its route. -/
def push (batch : RouteBatch) (callData : Option Bytes) (route : RouteMeta) : RouteBatch :=
  match callData with
  | some callData =>
    ⟨batch.multicallCalls ++ [⟨adapter.quoter, true, callData⟩], batch.routeMetadata ++ [route]⟩
  | none => batch

/-- Step A: a call for each of the four fee tiers. -/
def pushSingleHops (batch : RouteBatch) : RouteBatch :=
  singleFeeTiers.foldl (fun batch fee =>
    adapter.push batch (abi.quoteExactInputSingle ⟨srcToken, destToken, amount, fee, 0⟩)
      (.singleHop fee)) batch

/-- The calls through one hub. -/
def pushHub (batch : RouteBatch) (hub : Address) : RouteBatch :=
  multihopFeeTiers.foldl (fun batch fee1 =>
    multihopFeeTiers.foldl (fun batch fee2 =>
      let path := encodeV3Path [srcToken, hub, destToken] [fee1, fee2] (length_hubTokens ..)
      adapter.push batch (abi.quoteExactInput path amount) (.multiHop path)) batch) batch

def validHubs (hubs : List Address) : List Address :=
  hubs.filter fun hub => hub ≠ srcToken ∧ hub ≠ destToken

/-- Steps A and B: the batch. -/
def routeBatch (hubs : List Address) : RouteBatch :=
  (validHubs srcToken destToken hubs).foldl (adapter.pushHub abi srcToken destToken amount)
    (adapter.pushSingleHops abi srcToken destToken amount ⟨[], []⟩)

/-- Step D, for the reply at position `i`. -/
def parseResponse (routeMetadata : List RouteMeta) (best : U256 × RouteTopology)
    (entry : CallResult × ℕ) : Except Panic (U256 × RouteTopology) :=
  let (response, i) := entry
  if !response.success || response.returnData.isEmpty then return best
  else match routeMetadata[i]? with
    | none => .error ⟨"index out of bounds: the len is " ++ toString routeMetadata.length
        ++ " but the index is " ++ toString i⟩
    | some route =>
      match abi.decode route.returnTypes response.returnData with
      | some (.uint amountOut :: _) =>
        if best.1 < amountOut then return (amountOut, route.topology) else return best
      | _ => return best

def parseResponses (routeMetadata : List RouteMeta) (responses : List CallResult) :
    Except Panic (U256 × RouteTopology) :=
  responses.zipIdx.foldlM (parseResponse abi routeMetadata) (0, .singleHop 3000)

def findBestRouteMulticall (hubs : List Address) : RouteM (U256 × RouteTopology) := do
  let batch := adapter.routeBatch abi srcToken destToken amount hubs
  if batch.multicallCalls.isEmpty then
    return (0, .singleHop 3000)
  match ← IMulticall3.aggregate3 batch.multicallCalls with
  | none => return (0, .singleHop 3000)
  | some responses => Program.ofExcept (parseResponses abi batch.routeMetadata responses)

end

/-! ### Quotes -/

def quoteSingleHop (tokenIn tokenOut : Address) (fee : UInt32) (amountIn : U256) :
    RouteM U256 := do
  match ← IQuoterV2.quoteExactInputSingle ⟨tokenIn, tokenOut, amountIn, fee, 0⟩ with
  | some (amountOut, _) => return amountOut
  | none => return 0

/-- A cached route is quoted again; zero if that fails. -/
def requote (srcToken destToken : Address) (amount : U256) : RouteTopology → RouteM U256
  | .singleHop fee => quoteSingleHop srcToken destToken fee amount
  | .multiHop path => do
    match ← IQuoterV2.quoteExactInput path amount with
    | some (out, _) => return out
    | none => return 0

section
variable (adapter : UniswapV3Adapter) (abi : UniswapAbi) (srcToken destToken : Address)
  (amount : U256)

/-- Step 2: all candidates in one batch; the best one is cached if it pays out. -/
def searchRoute (cacheKey : CacheKey) (hubs : List Address) : RouteM (U256 × RouteTopology) := do
  RouteCache.invalidate cacheKey
  let (bestOut, bestTopology) ←
    adapter.findBestRouteMulticall abi srcToken destToken amount hubs
  if bestOut ≠ 0 then
    RouteCache.insert cacheKey bestTopology
  return (bestOut, bestTopology)

def evaluateRoute (hubs : List Address) : RouteM (U256 × RouteTopology) := do
  let cacheKey ← Program.ofExcept (CacheKey.new srcToken destToken amount)
  match ← RouteCache.get cacheKey with
  | some topology =>
    let out ← requote srcToken destToken amount topology
    if out ≠ 0 then
      return (out, topology)
    adapter.searchRoute abi srcToken destToken amount cacheKey hubs
  | none => adapter.searchRoute abi srcToken destToken amount cacheKey hubs

def calculateMinAmountOut (expectedOut : U256) (slippageBps : UInt32) : Except Panic U256 := do
  let multiplier := .ofNat 256 (10000 - slippageBps).toNat
  U256.div (← U256.mul expectedOut multiplier) 10000

/-- The calldata of the swap along a route. -/
def swapData (topology : RouteTopology) (minAmtOut : U256) : Except String Bytes :=
  match topology with
  | .multiHop path =>
    match abi.exactInput ⟨path, flashLiquidator, amount, minAmtOut⟩ with
    | some data => .ok data
    | none => .error "Failed to encode exactInput calldata"
  | .singleHop fee =>
    match abi.exactInputSingle
      ⟨srcToken, destToken, fee, flashLiquidator, amount, minAmtOut, 0⟩ with
    | some data => .ok data
    | none => .error "Failed to encode exactInputSingle calldata"

def swapHubs : List Address := [weth, usdc, usdt]

def getSwapQuote (T : EthersText) (_srcDecimals _destDecimals : UInt8) :
    RouteM (Except String MarketQuote) := do
  let (expectedOut, topology) ← adapter.evaluateRoute abi srcToken destToken amount swapHubs
  if expectedOut = 0 then
    return .error ("No Uniswap V3 liquidity found for pair "
      ++ String.ofList (T.address.debug srcToken) ++ " -> "
      ++ String.ofList (T.address.debug destToken))
  let minAmtOut ← Program.ofExcept (calculateMinAmountOut expectedOut slippageBps)
  match swapData abi srcToken destToken amount topology minAmtOut with
  | .ok data => return .ok ⟨adapter.router, adapter.router, data, minAmtOut⟩
  | .error e => return .error e

end

end UniswapV3Adapter

end LiqRanger
