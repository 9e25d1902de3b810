import LiqRanger.Core.Types

/-!
# Constants

Chain heights, the whitelists and the fixed-point constants of the two protocols.
-/

namespace LiqRanger

def aaveDeployBlock : ℕ := 75000000

def morphoDeployBlock : ℕ := 68000000

/-! ### Contracts -/

def flashLiquidator : Address := .ofNat 20 0x089C0634bb99593174D8273f997c9dbC5D9A4991

def uniswapv3QuoterV2 : Address := .ofNat 20 0x61fFE014bA17989E743c5F6cB21bF9697530B21e

def uniswapv3Router02 : Address := .ofNat 20 0x68b3465833fb72A70ecDF485E0e4C7bD8665Fc45

def morphoBlue : Address := .ofNat 20 0x1bF0c2541F820E775182832f06c0B7Fc27A25f67

def aaveV3Pool : Address := .ofNat 20 0x794a61358D6845594F94dc1DB02A252b5b4814aD

/-! ### Swaps -/

def weth : Address := .ofNat 20 0x7ceB23fD6bC0adD59E62ac25578270cFf1b9f619

def usdc : Address := .ofNat 20 0x3c499c542cEF5E3811e1192ce70d8cC03d5c3359

def usdt : Address := .ofNat 20 0xc2132D05D31c914a87C6611C10748AEb04B58e8F

/-- 0.5%. -/
def slippageBps : UInt32 := 50

/-! ### Morpho -/

def pow10 (exp : ℕ) : U256 := 10 ^ exp

def virtualAssets : U256 := 1

def virtualShares : U256 := 1000000

def wad : U256 := pow10 18

def maxLiquidationIncentiveFactor : U256 := 115 * pow10 16

def oraclePriceScale : U256 := pow10 36

/-- 30% liquidation cursor (0.3e18). -/
def liquidationCursor : U256 := 3 * pow10 17

def morphoMarkets : List H256 :=
  [.ofNat 32 0x1cfe584af3db05c7f39d60e458a87a8b2f6b5d8c6125631984ec489f1d13553b,
    .ofNat 32 0x2476bb905e3d94acd7b402b3d70d411eeb6ace82afd3007da69a0d5904dfc998,
    .ofNat 32 0x1947267c49c3629c5ed59c88c411e8cf28c4d2afdb5da046dc8e3846a4761794,
    .ofNat 32 0x7506b33817b57f686e37b87b5d4c5c93fdef4cffd21bbf9291f18b2f29ab0550,
    .ofNat 32 0x267f344f5af0d85e95f253a2f250985a9fb9fca34a3342299e20c83b6906fc80,
    .ofNat 32 0xa5b7ae7654d5041c28cb621ee93397394c7aee6c6e16c7e0fd030128d87ee1a3,
    .ofNat 32 0x41e537c46cc0e2f82aa69107cd72573f585602d8c33c9b440e08eaba5e8fded1,
    .ofNat 32 0x96e62bd75493006b81dae51d5db3c5af4b3ced65133dab60e70df9dc8e38bf2c,
    .ofNat 32 0xb8ae474af3b91c8143303723618b31683b52e9c86566aa54c06f0bc27906bcae,
    .ofNat 32 0x28d8d92f5392c1b26e82dcbec25949ed028ea5b99d5a929ce485f0fd88e47fcc,
    .ofNat 32 0x01550b8779f4ca978fc16591537f3852c02c3491f597db93d9bb299dcbf5ddbe,
    .ofNat 32 0xa932e0d8a9bf52d45b8feac2584c7738c12cf63ba6dff0e8f199e289fb5ca9bb]

/-! ### Aave -/

def bps : U128 := 10000

/-- 0.95. -/
def hfLiquidationThresholdBps : U128 := 9500

def aaveReserves : List Address :=
  [.ofNat 20 0x3c499c542cEF5E3811e1192ce70d8cC03d5c3359,
    .ofNat 20 0x2791Bca1f2de4661ED88a30C99A7a9449Aa84174,
    .ofNat 20 0xc2132D05D31c914a87C6611C10748AEb04B58e8F,
    .ofNat 20 0x7ceB23fD6bC0adD59E62ac25578270cFf1b9f619,
    .ofNat 20 0x8f3Cf7ad23Cd3CaDbD9735AFf958023239c6A063,
    .ofNat 20 0x1BFD67037B42Cf73acF2047067bd4F2C47D9BfD6,
    .ofNat 20 0x53e0bca35ec356bd5dddfebbd1fc0fd03fabad39]

/-! ### Profit distribution -/

def wpol : Address := .ofNat 20 0x0d500B1d8E8eF31E21C99d1Db9A6444d3ADf1270

/-- The reserves, and the wrapped native token unless it is one of them. -/
def profitDistAssets : List Address :=
  if wpol ∈ aaveReserves then aaveReserves else aaveReserves ++ [wpol]

/-! ### Their values -/

lemma toNat_wad : wad.toNat = 10 ^ 18 := by decide

lemma toNat_virtualAssets : virtualAssets.toNat = 1 := by decide

lemma toNat_virtualShares : virtualShares.toNat = 10 ^ 6 := by decide

lemma add_virtualShares_pos (shares : ℕ) : 0 < shares + 10 ^ 6 := Nat.add_pos_right _ (by decide)

lemma toNat_oraclePriceScale : oraclePriceScale.toNat = 10 ^ 36 := by decide

lemma toNat_liquidationCursor : liquidationCursor.toNat = 3 * 10 ^ 17 := by decide

lemma toNat_maxLiquidationIncentiveFactor :
    maxLiquidationIncentiveFactor.toNat = 115 * 10 ^ 16 := by decide

end LiqRanger
