import LiqRanger.Simulation.Revert

/-!
# The parameters of a liquidation

What a job hands to the liquidator contract, and the calldata of the call. The encoding is generated
from the contract's ABI and taken as given; `FlashAbi.reference` lays the arguments out in words.
-/

namespace LiqRanger

open UniswapAbi (word addressWord wordAt)

/-! ### From a job -/

structure LiquidationParams where
  mode : UInt8
  borrower : Address
  aaveDebtAsset : Address
  aaveCollateral : Address
  aaveDebtToCover : U256
  morphoMarketId : H256
  morphoRepaidShares : U256
  morphoSeizedAssets : U256
  compoundDebtAsset : Address
  compoundCollateral : Address
  compoundDebtToCover : U256
  compoundMinCollateral : U256
  swapTarget : Address
  swapAllowanceTarget : Address
  swapData : Bytes
  flashAsset : Address
  minAmtOut : U256
  deriving DecidableEq

/-- The conversion of a job. The fields of the other protocols are zero. -/
def LiquidationJob.params (job : LiquidationJob) : LiquidationParams :=
  let marketId := job.marketId.getD (.zero 32)
  let repaidShares := job.repaidShares.getD 0
  let seizedAssets := job.seizedAssets.getD 0
  match job.protocol with
  | .aave => {
      mode := 0
      borrower := job.borrower
      aaveDebtAsset := job.debtAsset
      aaveCollateral := job.collateralAsset
      aaveDebtToCover := job.debtToCover
      morphoMarketId := marketId
      morphoRepaidShares := repaidShares
      morphoSeizedAssets := seizedAssets
      compoundCollateral := .zero 20
      compoundDebtAsset := .zero 20
      compoundDebtToCover := 0
      compoundMinCollateral := 0
      swapTarget := job.swapTarget
      swapAllowanceTarget := job.swapProxy
      swapData := job.swapData
      flashAsset := job.debtAsset
      minAmtOut := job.minAmtOut }
  | .morpho => {
      mode := 1
      borrower := job.borrower
      aaveDebtAsset := .zero 20
      aaveCollateral := .zero 20
      aaveDebtToCover := 0
      morphoMarketId := marketId
      morphoRepaidShares := repaidShares
      morphoSeizedAssets := seizedAssets
      compoundCollateral := .zero 20
      compoundDebtAsset := .zero 20
      compoundDebtToCover := 0
      compoundMinCollateral := 0
      swapTarget := job.swapTarget
      swapAllowanceTarget := job.swapProxy
      swapData := job.swapData
      flashAsset := job.debtAsset
      minAmtOut := job.minAmtOut }

section
variable (job : LiquidationJob)

@[simp] lemma LiquidationJob.params_borrower : job.params.borrower = job.borrower := by
  cases h : job.protocol <;> simp [params, h]

@[simp] lemma LiquidationJob.params_flashAsset : job.params.flashAsset = job.debtAsset := by
  cases h : job.protocol <;> simp [params, h]

@[simp] lemma LiquidationJob.params_minAmtOut : job.params.minAmtOut = job.minAmtOut := by
  cases h : job.protocol <;> simp [params, h]

@[simp] lemma LiquidationJob.params_swapTarget : job.params.swapTarget = job.swapTarget := by
  cases h : job.protocol <;> simp [params, h]

@[simp] lemma LiquidationJob.params_swapAllowanceTarget :
    job.params.swapAllowanceTarget = job.swapProxy := by
  cases h : job.protocol <;> simp [params, h]

@[simp] lemma LiquidationJob.params_swapData : job.params.swapData = job.swapData := by
  cases h : job.protocol <;> simp [params, h]

lemma LiquidationJob.params_aaveCollateral (h : job.protocol = .aave) :
    job.params.aaveCollateral = job.collateralAsset := by
  simp [params, h]

@[simp] lemma LiquidationJob.params_morphoMarketId :
    job.params.morphoMarketId = job.marketId.getD (.zero 32) := by
  cases h : job.protocol <;> simp [params, h]

@[simp] lemma LiquidationJob.params_morphoRepaidShares :
    job.params.morphoRepaidShares = job.repaidShares.getD 0 := by
  cases h : job.protocol <;> simp [params, h]

@[simp] lemma LiquidationJob.params_morphoSeizedAssets :
    job.params.morphoSeizedAssets = job.seizedAssets.getD 0 := by
  cases h : job.protocol <;> simp [params, h]

end

/-! ### Calldata -/

/-- The generated code of `executeFlashLiquidation`: its calldata, if it can be encoded, and what
the contract reads of it. -/
structure FlashAbi where
  encode : U256 → LiquidationParams → Option Bytes
  decode : Bytes → Option (U256 × LiquidationParams)
  decode_encode : ∀ flashAmount params data,
    encode flashAmount params = some data → decode data = some (flashAmount, params)

/-! ### A layout -/

/-- The word number `i` of the data. -/
def slot (data : Bytes) (i : ℕ) : Bytes := (data.drop (32 * i)).take 32

/-- Words one after the other are found at their slots. -/
lemma slot_flatten {ws : List Bytes} (hws : ∀ w ∈ ws, w.length = 32) (rest : Bytes) {i : ℕ}
    {w : Bytes} (hi : ws[i]? = some w) : slot (ws.flatten ++ rest) i = w := by
  induction ws generalizing i with
  | nil => simp at hi
  | cons v ws ih =>
    have hv : v.length = 32 := hws v List.mem_cons_self
    cases i with
    | zero =>
      obtain rfl : v = w := Option.some.inj hi
      rw [slot, Nat.mul_zero, List.drop_zero, List.flatten_cons, List.append_assoc]
      exact List.take_left' hv
    | succ i =>
      have hdrop : ((v :: ws).flatten ++ rest).drop (32 * (i + 1)) =
          (ws.flatten ++ rest).drop (32 * i) := by
        rw [List.flatten_cons, List.append_assoc, Nat.mul_succ, Nat.add_comm, ← List.drop_drop,
          List.drop_left' hv]
      rw [slot, hdrop]
      exact ih (fun u hu => hws u (List.mem_cons_of_mem v hu)) hi

/-- A number is read back from its word. -/
lemma wordAt_of_slot {data : Bytes} {i : ℕ} {n : U256} (h : slot data i = word n.toNat) :
    wordAt data i = n := by
  have hpow : 256 ^ 32 = 2 ^ 256 := by decide
  apply BitVec.eq_of_toNat_eq
  rw [wordAt, ← slot, h, word, foldl_bytes_ofNat, Nat.zero_mul, Nat.zero_add, hpow,
    Nat.mod_eq_of_lt n.isLt, U256.toNat_ofNat_of_lt n.isLt]

/-- The last `n` bytes of a word. -/
def hashAt (n : ℕ) (data : Bytes) (i : ℕ) : Option (FixedHash n) :=
  if h : ((slot data i).drop (32 - n)).length = n then some ⟨_, h⟩ else none

lemma hashAt_of_slot {n : ℕ} {data : Bytes} {i : ℕ} {hash : FixedHash n}
    (h : slot data i = List.replicate (32 - n) 0 ++ hash.bytes) :
    hashAt n data i = some hash := by
  have hdrop : (slot data i).drop (32 - n) = hash.bytes := by
    rw [h]
    exact List.drop_left' List.length_replicate
  rw [hashAt, dif_pos (hdrop ▸ hash.length_bytes)]
  exact congrArg some (FixedHash.ext hdrop)

namespace FlashAbi

def selector : Bytes := [0xa6, 0xf3, 0x05, 0x67]

/-- The words of the arguments, up to the length of the swap data. -/
def argWords (flashAmount : U256) (params : LiquidationParams) : List Bytes :=
  [word flashAmount.toNat, word 64, word params.mode.toNat, addressWord params.borrower,
    addressWord params.aaveDebtAsset, addressWord params.aaveCollateral,
    word params.aaveDebtToCover.toNat, params.morphoMarketId.bytes,
    word params.morphoRepaidShares.toNat, word params.morphoSeizedAssets.toNat,
    addressWord params.compoundDebtAsset, addressWord params.compoundCollateral,
    word params.compoundDebtToCover.toNat, word params.compoundMinCollateral.toNat,
    addressWord params.swapTarget, addressWord params.swapAllowanceTarget, word 544,
    addressWord params.flashAsset, word params.minAmtOut.toNat, word params.swapData.length]

def layout (flashAmount : U256) (params : LiquidationParams) : Bytes :=
  (argWords flashAmount params).flatten ++
    (params.swapData ++ List.replicate ((32 - params.swapData.length % 32) % 32) 0)

def readParams (args : Bytes) : Option (U256 × LiquidationParams) := do
  let borrower ← hashAt 20 args 3
  let aaveDebtAsset ← hashAt 20 args 4
  let aaveCollateral ← hashAt 20 args 5
  let morphoMarketId ← hashAt 32 args 7
  let compoundDebtAsset ← hashAt 20 args 10
  let compoundCollateral ← hashAt 20 args 11
  let swapTarget ← hashAt 20 args 14
  let swapAllowanceTarget ← hashAt 20 args 15
  let flashAsset ← hashAt 20 args 17
  return (wordAt args 0, {
    mode := UInt8.ofNat (wordAt args 2).toNat
    borrower, aaveDebtAsset, aaveCollateral
    aaveDebtToCover := wordAt args 6
    morphoMarketId
    morphoRepaidShares := wordAt args 8
    morphoSeizedAssets := wordAt args 9
    compoundDebtAsset, compoundCollateral
    compoundDebtToCover := wordAt args 12
    compoundMinCollateral := wordAt args 13
    swapTarget, swapAllowanceTarget
    swapData := (args.drop 640).take (wordAt args 19).toNat
    flashAsset
    minAmtOut := wordAt args 18 })

lemma length_of_mem_argWords (flashAmount : U256) (params : LiquidationParams) :
    ∀ w ∈ argWords flashAmount params, w.length = 32 := by
  have haddress : ∀ a : Address, (addressWord a).length = 32 := by
    intro a
    simp [addressWord, a.length_bytes]
  simp [argWords, length_word, haddress, params.morphoMarketId.length_bytes]

lemma readParams_layout {flashAmount : U256} {params : LiquidationParams}
    (hlen : params.swapData.length < 2 ^ 256) :
    readParams (layout flashAmount params) = some (flashAmount, params) := by
  have hslot : ∀ {i w}, (argWords flashAmount params)[i]? = some w →
      slot (layout flashAmount params) i = w :=
    slot_flatten (length_of_mem_argWords flashAmount params) _
  have hnumber : ∀ {i} {n : U256}, (argWords flashAmount params)[i]? = some (word n.toNat) →
      wordAt (layout flashAmount params) i = n := fun h => wordAt_of_slot (hslot h)
  have haddress : ∀ {i a}, (argWords flashAmount params)[i]? = some (addressWord a) →
      hashAt 20 (layout flashAmount params) i = some a := fun h => hashAt_of_slot (hslot h)
  have hmarket : hashAt 32 (layout flashAmount params) 7 = some params.morphoMarketId :=
    hashAt_of_slot (hslot rfl)
  have hsmall : ∀ {i n}, n < 2 ^ 256 → (argWords flashAmount params)[i]? = some (word n) →
      (wordAt (layout flashAmount params) i).toNat = n := by
    intro i n hn h
    rw [← U256.toNat_ofNat_of_lt hn] at h
    rw [hnumber h, U256.toNat_ofNat_of_lt hn]
  have hmode : (wordAt (layout flashAmount params) 2).toNat = params.mode.toNat :=
    hsmall (params.mode.toNat_lt.trans (by decide)) rfl
  have hlength : (wordAt (layout flashAmount params) 19).toNat = params.swapData.length :=
    hsmall hlen rfl
  have hdata : ((layout flashAmount params).drop 640).take params.swapData.length =
      params.swapData := by
    have hlengths : (argWords flashAmount params).map List.length = List.replicate 20 32 :=
      List.eq_replicate_iff.mpr ⟨rfl, by simpa using length_of_mem_argWords flashAmount params⟩
    have hwords : (argWords flashAmount params).flatten.length = 640 := by
      rw [List.length_flatten, hlengths]
      rfl
    rw [layout, List.drop_left' hwords, List.take_left]
  rw [readParams, haddress (i := 3) rfl, haddress (i := 4) rfl, haddress (i := 5) rfl, hmarket,
    haddress (i := 10) rfl, haddress (i := 11) rfl, haddress (i := 14) rfl,
    haddress (i := 15) rfl, haddress (i := 17) rfl, hnumber (i := 0) rfl, hmode,
    hnumber (i := 6) rfl, hnumber (i := 8) rfl, hnumber (i := 9) rfl, hnumber (i := 12) rfl,
    hnumber (i := 13) rfl, hnumber (i := 18) rfl, hlength, hdata, UInt8.ofNat_toNat]
  rfl

/-- The encoding of the deployed contract. -/
def reference : FlashAbi where
  encode flashAmount params :=
    if params.swapData.length < 2 ^ 256 then some (selector ++ layout flashAmount params) else none
  decode data := if selector.isPrefixOf data then readParams (data.drop 4) else none
  decode_encode flashAmount params data h := by
    split at h
    · rename_i hlen
      obtain rfl := Option.some.inj h
      have hprefix : selector.isPrefixOf (selector ++ layout flashAmount params) = true :=
        List.isPrefixOf_iff_prefix.mpr (List.prefix_append _ _)
      have hdrop : (selector ++ layout flashAmount params).drop 4 = layout flashAmount params :=
        List.drop_left' rfl
      rw [if_pos hprefix, hdrop, readParams_layout hlen]
    · cases h

lemma reference_encode {flashAmount : U256} {params : LiquidationParams}
    (h : params.swapData.length < 2 ^ 256) :
    reference.encode flashAmount params = some (selector ++ layout flashAmount params) :=
  if_pos h

end FlashAbi

end LiqRanger
