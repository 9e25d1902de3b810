import LiqRanger.Simulation.Engine

/-!
# Simulated transactions

Of every simulation: when the virtual machine is asked at all, with which environment and fees, and
what the result says about its answer. The text of a revert determines the selector of its data.
-/

namespace LiqRanger

open Effect
open UniswapAbi (word)

namespace SimulationEngine

variable {errors : StandardErrors} {engine : SimulationEngine}

def transactEvent (env : Env) (snapshot : BlockSnapshot Block)
    (reply : Except Text ExecutionResult) : Event evmPorts :=
  ⟨.transact env snapshot, reply⟩

/-- What the caller gets for an answer of the machine. -/
def result (errors : StandardErrors) (engine : SimulationEngine) :
    Except Text ExecutionResult → Except Text SimulationResult
  | .error e => .error ("EVM execution failed: ".toList ++ e)
  | .ok result => .ok (engine.outcome errors result)

/-- A simulation asks the machine once when the numbers of the block fit, and panics otherwise. -/
lemma simulate_trace {snapshot : BlockSnapshot Block} {tx : SimulationTx}
    {t : List (Event evmPorts)} {o : Except Panic (Except Text SimulationResult)}
    (h : (engine.simulate errors snapshot tx).Trace t o) :
    (snapshot.block.Fits ∧ ∃ env reply, BuiltFrom env snapshot.block tx ∧
        t = [transactEvent env snapshot reply] ∧ o = .ok (result errors engine reply)) ∨
      (¬ snapshot.block.Fits ∧ t = [] ∧ ∃ p, o = .error p) := by
  rw [Block.fits_iff tx engine.chainId]
  cases hblock : buildBlockEnv snapshot.block with
  | error p =>
    rw [simulate, hblock] at h
    obtain ⟨rfl, rfl⟩ := h
    exact Or.inr ⟨by simp, rfl, p, rfl⟩
  | ok blockEnv =>
    cases htx : buildTxEnv tx.sender tx.target tx.calldata tx.value snapshot.block
        engine.chainId with
    | error p =>
      rw [simulate, hblock, htx] at h
      obtain ⟨rfl, rfl⟩ := h
      exact Or.inr ⟨by simp, rfl, p, rfl⟩
    | ok txEnv =>
      rw [simulate, hblock, htx] at h
      obtain ⟨reply, t', rfl, h⟩ := h
      obtain ⟨-, hlimit, hbasefee⟩ := buildBlockEnv_eq_ok hblock
      obtain ⟨hprice, hgasLimit, heq⟩ := buildTxEnv_eq_ok htx
      have hbuilt : BuiltFrom ⟨engine.chainId, blockEnv, { txEnv with chainId := none }⟩
          snapshot.block tx := by
        rw [heq]
        exact ⟨rfl, rfl, rfl, rfl, hgasLimit, hprice, rfl, rfl, hlimit, hbasefee⟩
      refine Or.inl ⟨⟨blockEnv, txEnv, rfl, rfl⟩, _, reply, hbuilt, ?_⟩
      cases reply with
      | error e =>
        obtain ⟨rfl, rfl⟩ := h
        exact ⟨rfl, rfl⟩
      | ok executed =>
        obtain ⟨rfl, rfl⟩ := h
        exact ⟨rfl, rfl⟩

end SimulationEngine

/-! ### The fees of a simulation -/

/-- What a simulated transaction may cost at most. -/
def Block.cost (block : Block) (value : U256) : ℕ :=
  block.gasLimit.toNat *
    ((block.baseFeePerGas.getD defaultBaseFee).toNat + simulatedPriorityFee.toNat) + value.toNat

/-- A base fee that is missing counts as zero for the block. -/
lemma basefee_le_default (fee : Option U256) :
    (fee.getD 0).toNat ≤ (fee.getD defaultBaseFee).toNat := by
  cases fee with
  | none => exact Nat.zero_le _
  | some fee => exact Nat.le_refl _

namespace BuiltFrom

variable {env : Env} {block : Block} {tx : SimulationTx}

/-- The maximal fee pays the base fee with the priority fee on top. -/
lemma fees_le (h : BuiltFrom env block tx) : ∀ priorityFee ∈ env.tx.gasPriorityFee,
    env.block.basefee.toNat + priorityFee.toNat ≤ env.tx.gasPrice.toNat := by
  intro priorityFee hfee
  rw [h.gasPriorityFee_eq, Option.mem_some_iff] at hfee
  rw [← hfee, h.gasPrice_eq, h.basefee_eq]
  exact Nat.add_le_add_right (basefee_le_default block.baseFeePerGas) _

lemma gasLimit_le (h : BuiltFrom env block tx) :
    env.tx.gasLimit.toNat ≤ env.block.gasLimit.toNat := by
  rw [h.gasLimit_eq, h.blockGasLimit_eq]

lemma cost_eq (h : BuiltFrom env block tx) :
    env.tx.gasLimit.toNat * env.tx.gasPrice.toNat + env.tx.value.toNat = block.cost tx.value := by
  rw [h.gasLimit_eq, h.gasPrice_eq, h.value_eq, Block.cost]

end BuiltFrom

namespace SimulationEngine

/-- When the numbers of the block fit, a simulation asks the machine once, about its own transaction
on top of its own snapshot, and returns what the answer says. The fee it offers pays the base fee
and the priority fee, the gas limit is at most the block's, no chain is asked for, and the most that
the transaction can cost is that of a full block at this fee. When they do not fit, it panics before
it asks. -/
theorem simulate_asks (errors : StandardErrors) (engine : SimulationEngine)
    (snapshot : BlockSnapshot Block) (tx : SimulationTx) (t : List (Event evmPorts))
    (o : Except Panic (Except Text SimulationResult))
    (h : (engine.simulate errors snapshot tx).Trace t o) :
    (snapshot.block.Fits → ∃ env reply,
        t = [transactEvent env snapshot reply] ∧ o = .ok (result errors engine reply) ∧
        BuiltFrom env snapshot.block tx ∧
        (∀ priorityFee ∈ env.tx.gasPriorityFee,
          env.block.basefee.toNat + priorityFee.toNat ≤ env.tx.gasPrice.toNat) ∧
        env.tx.gasLimit.toNat ≤ env.block.gasLimit.toNat ∧ env.tx.chainId = none ∧
        env.tx.gasLimit.toNat * env.tx.gasPrice.toNat + env.tx.value.toNat =
          snapshot.block.cost tx.value) ∧
      (¬ snapshot.block.Fits → t = [] ∧ ∃ p, o = .error p) := by
  rcases simulate_trace h with ⟨hfits, env, reply, hbuilt, rfl, rfl⟩ | ⟨hfits, rfl, p, rfl⟩
  · refine ⟨fun _ => ⟨env, reply, rfl, rfl, hbuilt, ?_⟩, fun hnot => absurd hfits hnot⟩
    exact ⟨hbuilt.fees_le, hbuilt.gasLimit_le, hbuilt.txChainId_eq, hbuilt.cost_eq⟩
  · exact ⟨fun hyes => absurd hyes hfits, fun _ => ⟨rfl, p, rfl⟩⟩

end SimulationEngine

/-- A block at the base fee of 30 gwei. -/
def sampleBlock : Block where
  number := some 75000001
  timestamp := 1750000000
  author := none
  gasLimit := 45000000
  baseFeePerGas := some 30000000000
  mixHash := none

def sampleSnapshot : BlockSnapshot Block := ⟨75000001, sampleBlock, fun _ => none⟩

def sampleTx : SimulationTx := ⟨.ofNat 20 0x11, flashLiquidator, [0xa6, 0xf3, 0x05, 0x67], 0⟩

def sampleEnv : Env where
  chainId := 137
  block := ⟨75000001, 1750000000, .zero 20, 45000000, 30000000000, some (.zero 32)⟩
  tx := ⟨.ofNat 20 0x11, flashLiquidator, [0xa6, 0xf3, 0x05, 0x67], 0, 45000000, 31500000000,
    some 1500000000, none⟩

lemma sampleEnv_trace :
    ((SimulationEngine.new 137).simulate .reference sampleSnapshot sampleTx).Trace
    [SimulationEngine.transactEvent sampleEnv sampleSnapshot (.ok (.success 310000))]
    (.ok (.ok ⟨true, 310000, none⟩)) :=
  ⟨.ok (.success 310000), [], rfl, rfl, rfl⟩

lemma sampleBlock_fits : sampleBlock.Fits := ⟨by decide, by decide, by decide⟩

/-- A block whose gas limit is one past the 64-bit numbers. -/
def overfullSnapshot : BlockSnapshot Block :=
  { sampleSnapshot with block := { sampleBlock with gasLimit := 18446744073709551616 } }

lemma overfullSnapshot_trace :
    ((SimulationEngine.new 137).simulate .reference overfullSnapshot sampleTx).Trace []
    (.error ⟨"Integer overflow when casting to u64"⟩) :=
  ⟨rfl, rfl⟩

lemma not_fits_overfull : ¬ overfullSnapshot.block.Fits :=
  fun h => absurd h.gasLimit_lt (by decide)

/-- The transaction of the sample costs at most 1.4175 tokens; the other block does not fit. -/
theorem SimulationEngine.simulate_asks_sample :
    (sampleEnv.block.basefee.toNat + simulatedPriorityFee.toNat ≤ sampleEnv.tx.gasPrice.toNat ∧
      sampleEnv.tx.gasLimit.toNat ≤ sampleEnv.block.gasLimit.toNat ∧
      sampleEnv.tx.gasLimit.toNat * sampleEnv.tx.gasPrice.toNat + sampleEnv.tx.value.toNat =
        sampleBlock.cost 0) ∧
    ∃ p, (.error ⟨"Integer overflow when casting to u64"⟩ :
      Except Panic (Except Text SimulationResult)) = .error p := by
  have hsample := simulate_asks .reference (.new 137) sampleSnapshot sampleTx _ _ sampleEnv_trace
  have hoverfull := simulate_asks .reference (.new 137) overfullSnapshot sampleTx _ _
    overfullSnapshot_trace
  refine ⟨?_, (hoverfull.2 not_fits_overfull).2⟩
  obtain ⟨env, reply, hevents, -, -, hfees, hgas, -, hcost⟩ := hsample.1 sampleBlock_fits
  obtain ⟨hop, -⟩ := Event.mk.inj (List.cons.inj hevents).1
  obtain ⟨rfl, -⟩ := EvmOp.transact.inj hop
  exact ⟨hfees _ rfl, hgas, hcost⟩

/-! ### Reasons -/

/-- How a reason is made of the data of a revert. -/
inductive ReasonOf (registry : List (Bytes × Text)) : Bytes → Text → Prop where
  | short {data : Bytes} (hlen : data.length < 4) :
      ReasonOf registry data ("Execution reverted (0x".toList ++ Hex.encode data ++ [')'])
  | message {data : Bytes} (hsel : data.take 4 = errorSelector) (msg : Text) :
      ReasonOf registry data ("Revert: ".toList ++ msg)
  | panicCode {data : Bytes} (hsel : data.take 4 = panicSelector) (code : Text) :
      ReasonOf registry data ("Panic Code: ".toList ++ code)
  | known {data : Bytes} {name : Text} (hname : (data.take 4, name) ∈ registry) :
      ReasonOf registry data ("Custom Error: ".toList ++ name)
  | unknown (data : Bytes) :
      ReasonOf registry data ("CustomError(0x".toList ++ Hex.encode (data.take 4) ++ [')'])

variable {errors : StandardErrors} {engine : SimulationEngine}

lemma mem_of_lookup {l : List (Bytes × Text)} {k : Bytes} {v : Text} (h : l.lookup k = some v) :
    (k, v) ∈ l := by
  obtain ⟨l₁, l₂, rfl, -⟩ := List.lookup_eq_some_iff.mp h
  simp

lemma decodeRevert_eq {data : Bytes} (hlen : ¬ data.length < 4) :
    engine.decodeRevert errors data =
      (engine.namedError errors (data.take 4) (data.drop 4)).getD
        ("CustomError(0x".toList ++ Hex.encode (data.take 4) ++ [')']) := if_neg hlen

lemma reasonOf_decodeRevert (data : Bytes) :
    ReasonOf engine.errorRegistry data (engine.decodeRevert errors data) := by
  by_cases hlen : data.length < 4
  · rw [SimulationEngine.decodeRevert, if_pos hlen]
    exact .short hlen
  · rw [decodeRevert_eq hlen]
    cases hnamed : engine.namedError errors (data.take 4) (data.drop 4) with
    | none => exact .unknown data
    | some reason =>
      rw [SimulationEngine.namedError] at hnamed
      split_ifs at hnamed with herror hpanic
      · simp only [Option.bind_eq_bind, Option.bind_eq_some_iff, Option.pure_def,
          Option.some.injEq] at hnamed
        obtain ⟨decoded, -, msg, -, rfl⟩ := hnamed
        exact .message herror msg
      · simp only [Option.bind_eq_bind, Option.bind_eq_some_iff, Option.pure_def,
          Option.some.injEq] at hnamed
        obtain ⟨decoded, -, code, -, rfl⟩ := hnamed
        exact .panicCode hpanic code
      · simp only [Option.bind_eq_bind, Option.bind_eq_some_iff, Option.pure_def,
          Option.some.injEq] at hnamed
        obtain ⟨name, hname, rfl⟩ := hnamed
        exact .known (mem_of_lookup hname)

/-- A reason comes from data with one selector only, if the names of the errors differ. -/
lemma ReasonOf.take_eq {registry : List (Bytes × Text)}
    (hnames : ∀ p ∈ registry, ∀ q ∈ registry, p.2 = q.2 → p.1 = q.1) {a b : Bytes} {reason : Text}
    (ha : ReasonOf registry a reason) (hb : ReasonOf registry b reason) : a.take 4 = b.take 4 := by
  generalize hreason : reason = other at hb
  cases ha with
  | short hlen =>
    cases hb with
    | short =>
      have hdata :=
        Hex.encode_injective (List.append_cancel_left (List.append_cancel_right hreason))
      rw [hdata]
    | message => simp at hreason
    | panicCode => simp at hreason
    | known => simp at hreason
    | unknown => simp at hreason
  | message hsel msg =>
    cases hb with
    | short => simp at hreason
    | message hsel' => rw [hsel, hsel']
    | panicCode => simp at hreason
    | known => simp at hreason
    | unknown => simp at hreason
  | panicCode hsel code =>
    cases hb with
    | short => simp at hreason
    | message => simp at hreason
    | panicCode hsel' => rw [hsel, hsel']
    | known => simp at hreason
    | unknown => simp at hreason
  | known hname =>
    cases hb with
    | short => simp at hreason
    | message => simp at hreason
    | panicCode => simp at hreason
    | known hname' => exact hnames _ hname _ hname' (List.append_cancel_left hreason)
    | unknown => simp at hreason
  | unknown =>
    cases hb with
    | short => simp at hreason
    | message => simp at hreason
    | panicCode => simp at hreason
    | known => simp at hreason
    | unknown =>
      exact Hex.encode_injective (List.append_cancel_left (List.append_cancel_right hreason))

lemma decodeRevert_message (message : Text) (hlen : (utf8 message).length < 2 ^ 256) :
    engine.decodeRevert errors (errorSelector ++ encodeString message)
      = "Revert: ".toList ++ message := by
  have hlong : ¬ (errorSelector ++ encodeString message).length < 4 := by
    simp [errorSelector]
  rw [decodeRevert_eq hlong]
  have htake : (errorSelector ++ encodeString message).take 4 = errorSelector :=
    List.take_left' rfl
  have hdrop : (errorSelector ++ encodeString message).drop 4 = encodeString message :=
    List.drop_left' rfl
  simp [htake, hdrop, SimulationEngine.namedError, errors.decode_encode message hlen]

lemma decodeRevert_panicCode (code : U256) :
    engine.decodeRevert errors (panicSelector ++ word code.toNat)
      = "Panic Code: ".toList ++ code.lowerHex := by
  have hlong : ¬ (panicSelector ++ word code.toNat).length < 4 := by
    simp [panicSelector]
  rw [decodeRevert_eq hlong]
  have htake : (panicSelector ++ word code.toNat).take 4 = panicSelector := List.take_left' rfl
  have hdrop : (panicSelector ++ word code.toNat).drop 4 = word code.toNat := List.drop_left' rfl
  have hne : panicSelector ≠ errorSelector := by decide
  simp [htake, hdrop, hne, SimulationEngine.namedError, errors.decode_word code]

/-- Messages and panic codes are recovered, and whatever reverts with the same reason has the same
selector. -/
theorem decodeRevert_faithful (errors : StandardErrors) (chainId : U64) :
    (∀ message, (utf8 message).length < 2 ^ 256 →
        (SimulationEngine.new chainId).decodeRevert errors (errorSelector ++ encodeString message)
          = "Revert: ".toList ++ message) ∧
      (∀ code : U256,
        (SimulationEngine.new chainId).decodeRevert errors (panicSelector ++ word code.toNat)
          = "Panic Code: ".toList ++ code.lowerHex) ∧
      ∀ a b, (SimulationEngine.new chainId).decodeRevert errors a
        = (SimulationEngine.new chainId).decodeRevert errors b → a.take 4 = b.take 4 := by
  refine ⟨decodeRevert_message, decodeRevert_panicCode, ?_⟩
  intro a b h
  have hnames : ∀ p ∈ (SimulationEngine.new chainId).errorRegistry,
      ∀ q ∈ (SimulationEngine.new chainId).errorRegistry, p.2 = q.2 → p.1 = q.1 := by
    simp [SimulationEngine.new]
  have ha : ReasonOf _ a ((SimulationEngine.new chainId).decodeRevert errors a) :=
    reasonOf_decodeRevert a
  have hb : ReasonOf _ b ((SimulationEngine.new chainId).decodeRevert errors b) :=
    reasonOf_decodeRevert b
  exact ha.take_eq hnames (h ▸ hb)

/-- A message, the code 17, and two errors of one unknown selector. -/
theorem decodeRevert_faithful_sample :
    (SimulationEngine.new 137).decodeRevert .reference
        (errorSelector ++ encodeString "STF".toList) = "Revert: STF".toList ∧
      (SimulationEngine.new 137).decodeRevert .reference (panicSelector ++ word 17)
        = "Panic Code: 11".toList ∧
      [1, 2, 3, 4, 5].take 4 = ([1, 2, 3, 4, 6] : Bytes).take 4 := by
  have h := decodeRevert_faithful .reference 137
  refine ⟨h.1 "STF".toList (by decide), ?_, h.2.2 _ _ rfl⟩
  have hcode := h.2.1 17
  rwa [show U256.lowerHex 17 = ['1', '1'] from rfl] at hcode

end LiqRanger
