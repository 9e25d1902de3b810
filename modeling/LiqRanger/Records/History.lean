import LiqRanger.Records.Extractor
import LiqRanger.Records.Properties
import Mathlib.Data.List.Forall2

/-!
# The recorded history

What runs of the extractor leave in the tables. Each event is written at most once, in its own
table, and a hash keeps the row that it had or gets that of the first event that was written for it
(`history_first`). After a run in which nothing went wrong, the same events change nothing
(`history_replay`).
-/

namespace LiqRanger

open Effect

variable {φ : Type}

/-! ### Lists that belong to parts of others -/

section
variable {α β : Type} {R : α → β → Prop} {l : List α} {l' : List β}

lemma sublistForall₂_append {S U : α → β → Prop} {l₁ l₁' : List α} {l₂ l₂' : List β}
    (hR : ∀ a b, R a b → U a b) (hS : ∀ a b, S a b → U a b) (h : List.SublistForall₂ R l₁ l₂)
    (h' : List.SublistForall₂ S l₁' l₂') : List.SublistForall₂ U (l₁ ++ l₁') (l₂ ++ l₂') := by
  obtain ⟨l, hl, hsub⟩ := List.sublistForall₂_iff.mp h
  obtain ⟨l', hl', hsub'⟩ := List.sublistForall₂_iff.mp h'
  exact List.sublistForall₂_iff.mpr ⟨l ++ l', List.rel_append (hl.imp hR) (hl'.imp hS),
    hsub.append hsub'⟩

lemma exists_of_mem_sublistForall₂ (h : List.SublistForall₂ R l l') {a : α} (ha : a ∈ l) :
    ∃ b ∈ l', R a b := by
  induction h with
  | nil => cases ha
  | cons hR _ ih =>
    rcases List.mem_cons.mp ha with rfl | ha
    · exact ⟨_, List.mem_cons_self, hR⟩
    · obtain ⟨b, hb, hab⟩ := ih ha
      exact ⟨b, List.mem_cons_of_mem _ hb, hab⟩
  | cons_right _ ih =>
    obtain ⟨b, hb, hab⟩ := ih ha
    exact ⟨b, List.mem_cons_of_mem _ hb, hab⟩

/-- If it is as long, then every element of the other one has its own. -/
lemma exists_of_mem_of_length_eq (h : List.SublistForall₂ R l l') (hlength : l.length = l'.length)
    {b : β} (hb : b ∈ l') : ∃ a ∈ l, R a b := by
  obtain ⟨l₁, hl, hsub⟩ := List.sublistForall₂_iff.mp h
  obtain rfl := hsub.eq_of_length (hl.length_eq.symm.trans hlength)
  obtain ⟨i, hi, rfl⟩ := List.mem_iff_getElem.mp hb
  have hi' : i < l.length := hlength ▸ hi
  exact ⟨l[i], List.getElem_mem hi', hl.get hi' hi⟩

end

@[ext]
structure History (φ : Type) where
  liquidations : Liquidations φ
  distributions : Distributions φ

def LiquidationRecord.row (T : EthersText) (record : LiquidationRecord φ) : LiquidationRow φ where
  txHash := record.txHash
  protocol := record.protocol
  borrower := T.address.display record.borrower
  profitAsset := T.address.display record.profitAsset
  profitSymbol := record.profitSymbol
  collateralAsset := T.address.display record.collateralAsset
  collateralSymbol := record.collateralSymbol
  profitAmount := record.profitAmount
  blockNumber := record.blockNumber
  timestamp := record.timestamp

lemma LiquidationRecord.save_eq (T : EthersText) (record : LiquidationRecord φ)
    (table : Liquidations φ) : record.save T table = table.insertOrIgnore (record.row T) := rfl

/-- The database takes an insertion or fails, and then it is as it was. -/
def History.insert (T : EthersText) : Handler (extractorPorts φ) (History φ)
  | h, .saveLiquidation record, .ok _, h' =>
    h' = { h with liquidations := record.save T h.liquidations }
  | h, .saveDistribution record, .ok _, h' =>
    h' = { h with distributions := h.distributions.insertOrIgnore record }
  | h, _, _, h' => h' = h

/-! ### What is written -/

def writtenLiquidation (e : Event (extractorPorts φ)) : Option (LiquidationRecord φ) :=
  match e with
  | ⟨.saveLiquidation record, .ok _⟩ => some record
  | _ => none

def writtenDistribution (e : Event (extractorPorts φ)) : Option (DistributionRecord φ) :=
  match e with
  | ⟨.saveDistribution record, .ok _⟩ => some record
  | _ => none

variable {T : EthersText} {F : AmountText φ}

/-- What is written is inserted, in its order. -/
lemma History.path_iff {h h' : History φ} {t : List (Event (extractorPorts φ))} :
    (History.insert T).Path h t h' ↔
      h'.liquidations = h.liquidations.insertAll
        ((t.filterMap writtenLiquidation).map (LiquidationRecord.row T)) ∧
      h'.distributions = h.distributions.insertAll (t.filterMap writtenDistribution) := by
  induction t generalizing h with
  | nil => exact History.ext_iff
  | cons e t ih =>
    obtain ⟨op, r⟩ := e
    rw [Handler.path_cons]
    cases op with
    | getTokenSymbol token => exact exists_eq_left.trans ih
    | getTokenDecimals token => exact exists_eq_left.trans ih
    | saveLiquidation record =>
      cases r with
      | error e => exact exists_eq_left.trans ih
      | ok =>
        refine exists_eq_left.trans (ih.trans ?_)
        rw [record.save_eq]
        rfl
    | saveDistribution record => cases r <;> exact exists_eq_left.trans ih

namespace LiqDataExtractor

/-! ### One event -/

def symbolEvent (token : Address) (reply : Except String Text) : Event (extractorPorts φ) :=
  ⟨.getTokenSymbol token, reply⟩

def decimalsEvent (token : Address) (reply : Except String UInt8) : Event (extractorPorts φ) :=
  ⟨.getTokenDecimals token, reply⟩

def symbolText (reply : Except String Text) : Text := reply.toOption.getD "UNKNOWN".toList

def liquidationRecord (evt : PositionLiquidated) (txHash : Text) (blockNumber : ℤ)
    (timestamp : U64) (collateral profit : Except String Text) (amount : φ) :
    LiquidationRecord φ where
  timestamp := timestamp.toInt
  blockNumber := blockNumber
  protocol := protocolName evt.mode
  borrower := evt.borrower
  collateralAsset := evt.collateralAsset
  profitAsset := evt.profitAsset
  profitAmount := amount
  profitSymbol := symbolText profit
  collateralSymbol := symbolText collateral
  txHash := txHash

def distributionRecord [Add φ] (T : EthersText) (evt : ProfitDistributed) (txHash : Text)
    (timestamp : U64) (symbol : Except String Text) (ownerShare breetShare : φ) :
    DistributionRecord φ where
  txHash := txHash
  asset := T.address.lowerHex evt.asset
  assetSymbol := symbolText symbol
  amount := ownerShare + breetShare
  ownerShare := ownerShare
  breetShare := breetShare
  timestamp := timestamp.toInt

/-- The runs for an event: a timestamp that is too big, an amount that has no text, or an insertion.
-/
inductive EventRun [Add φ] (T : EthersText) (F : AmountText φ) (txHash : Text) (blockNumber : ℤ) :
    IFlashLiquidatorEvents → List (Event (extractorPorts φ)) →
      Except Panic (Except ExtractorError Unit) → Prop where
  | other : EventRun T F txHash blockNumber .other [] (.ok (.ok ()))
  | liquidationPanics (evt : PositionLiquidated) (p : Panic)
      (htimestamp : CacheKey.asU64 evt.timestamp = .error p) :
      EventRun T F txHash blockNumber (.positionLiquidated evt) [] (.error p)
  | liquidationFails (evt : PositionLiquidated) (timestamp : U64)
      (htimestamp : CacheKey.asU64 evt.timestamp = .ok timestamp)
      (collateral profit : Except String Text) (decimals : Except String UInt8) (e : ExtractorError)
      (hamount : LiqRanger.computeAmount F evt.profit decimals.toOption = .error e) :
      EventRun T F txHash blockNumber (.positionLiquidated evt)
        [symbolEvent evt.collateralAsset collateral, symbolEvent evt.profitAsset profit,
          decimalsEvent evt.profitAsset decimals] (.ok (.error e))
  | liquidation (evt : PositionLiquidated) (timestamp : U64)
      (htimestamp : CacheKey.asU64 evt.timestamp = .ok timestamp)
      (collateral profit : Except String Text) (decimals : Except String UInt8) (amount : φ)
      (hamount : LiqRanger.computeAmount F evt.profit decimals.toOption = .ok amount)
      (reply : Except String Unit) :
      EventRun T F txHash blockNumber (.positionLiquidated evt)
        [symbolEvent evt.collateralAsset collateral, symbolEvent evt.profitAsset profit,
          decimalsEvent evt.profitAsset decimals,
          ⟨.saveLiquidation
            (liquidationRecord evt txHash blockNumber timestamp collateral profit amount), reply⟩]
        (.ok (saved reply))
  | distributionPanics (evt : ProfitDistributed) (p : Panic)
      (htimestamp : CacheKey.asU64 evt.timestamp = .error p) :
      EventRun T F txHash blockNumber (.profitDistributed evt) [] (.error p)
  | ownerShareFails (evt : ProfitDistributed) (timestamp : U64)
      (htimestamp : CacheKey.asU64 evt.timestamp = .ok timestamp) (symbol : Except String Text)
      (decimals : Except String UInt8) (e : ExtractorError)
      (howner : LiqRanger.computeAmount F evt.ownerShare decimals.toOption = .error e) :
      EventRun T F txHash blockNumber (.profitDistributed evt)
        [symbolEvent evt.asset symbol, decimalsEvent evt.asset decimals] (.ok (.error e))
  | breetShareFails (evt : ProfitDistributed) (timestamp : U64)
      (htimestamp : CacheKey.asU64 evt.timestamp = .ok timestamp) (symbol : Except String Text)
      (decimals decimals' : Except String UInt8) (ownerShare : φ) (e : ExtractorError)
      (howner : LiqRanger.computeAmount F evt.ownerShare decimals.toOption = .ok ownerShare)
      (hbreet : LiqRanger.computeAmount F evt.breetShare decimals'.toOption = .error e) :
      EventRun T F txHash blockNumber (.profitDistributed evt)
        [symbolEvent evt.asset symbol, decimalsEvent evt.asset decimals,
          decimalsEvent evt.asset decimals'] (.ok (.error e))
  | distribution (evt : ProfitDistributed) (timestamp : U64)
      (htimestamp : CacheKey.asU64 evt.timestamp = .ok timestamp) (symbol : Except String Text)
      (decimals decimals' : Except String UInt8) (ownerShare breetShare : φ)
      (howner : LiqRanger.computeAmount F evt.ownerShare decimals.toOption = .ok ownerShare)
      (hbreet : LiqRanger.computeAmount F evt.breetShare decimals'.toOption = .ok breetShare)
      (reply : Except String Unit) :
      EventRun T F txHash blockNumber (.profitDistributed evt)
        [symbolEvent evt.asset symbol, decimalsEvent evt.asset decimals,
          decimalsEvent evt.asset decimals',
          ⟨.saveDistribution
            (distributionRecord T evt txHash timestamp symbol ownerShare breetShare), reply⟩]
        (.ok (saved reply))

variable {t : List (Event (extractorPorts φ))}

lemma trace_computeAmount {α : Type} {rawAmount : U256} {asset : Address}
    {f : Except ExtractorError φ → ExtractorM φ α} {o : Except Panic α} :
    (computeAmount F rawAmount asset >>= f).Trace t o ↔
      ∃ decimals t', t = decimalsEvent asset decimals :: t' ∧
        (f (LiqRanger.computeAmount F rawAmount decimals.toOption)).Trace t' o := Iff.rfl

variable [Add φ] {txHash : Text} {blockNumber : ℤ}

lemma handleLiquidationEvent_trace {evt : PositionLiquidated}
    {o : Except Panic (Except ExtractorError Unit)}
    (h : (handleLiquidationEvent F evt txHash blockNumber).Trace t o) :
    EventRun T F txHash blockNumber (.positionLiquidated evt) t o := by
  rw [handleLiquidationEvent] at h
  cases htimestamp : CacheKey.asU64 evt.timestamp with
  | error p =>
    rw [htimestamp] at h
    obtain ⟨rfl, rfl⟩ := h
    exact .liquidationPanics evt p htimestamp
  | ok timestamp =>
    rw [htimestamp] at h
    obtain ⟨collateral, _, rfl, profit, _, rfl, h⟩ := h
    replace h := trace_computeAmount.mp h
    obtain ⟨decimals, t, rfl, h⟩ := h
    cases hamount : LiqRanger.computeAmount F evt.profit decimals.toOption with
    | error e =>
      rw [hamount] at h
      obtain ⟨rfl, rfl⟩ := h
      exact .liquidationFails evt timestamp htimestamp collateral profit decimals e hamount
    | ok amount =>
      rw [hamount] at h
      obtain ⟨reply, _, rfl, rfl, rfl⟩ := h
      exact .liquidation evt timestamp htimestamp collateral profit decimals amount hamount reply

lemma handleDistributionEvent_trace {evt : ProfitDistributed}
    {o : Except Panic (Except ExtractorError Unit)}
    (h : (handleDistributionEvent T F evt txHash).Trace t o) :
    EventRun T F txHash blockNumber (.profitDistributed evt) t o := by
  rw [handleDistributionEvent] at h
  cases htimestamp : CacheKey.asU64 evt.timestamp with
  | error p =>
    rw [htimestamp] at h
    obtain ⟨rfl, rfl⟩ := h
    exact .distributionPanics evt p htimestamp
  | ok timestamp =>
    rw [htimestamp] at h
    obtain ⟨symbol, _, rfl, h⟩ := h
    replace h := trace_computeAmount.mp h
    obtain ⟨decimals, t, rfl, h⟩ := h
    cases howner : LiqRanger.computeAmount F evt.ownerShare decimals.toOption with
    | error e =>
      rw [howner] at h
      obtain ⟨rfl, rfl⟩ := h
      exact .ownerShareFails evt timestamp htimestamp symbol decimals e howner
    | ok ownerShare =>
      rw [howner] at h
      replace h := trace_computeAmount.mp h
      obtain ⟨decimals', t, rfl, h⟩ := h
      cases hbreet : LiqRanger.computeAmount F evt.breetShare decimals'.toOption with
      | error e =>
        rw [hbreet] at h
        obtain ⟨rfl, rfl⟩ := h
        exact .breetShareFails evt timestamp htimestamp symbol decimals decimals' ownerShare e
          howner hbreet
      | ok breetShare =>
        rw [hbreet] at h
        obtain ⟨reply, _, rfl, rfl, rfl⟩ := h
        exact .distribution evt timestamp htimestamp symbol decimals decimals' ownerShare
          breetShare howner hbreet reply

lemma handleEvent_trace {evt : IFlashLiquidatorEvents}
    {o : Except Panic (Except ExtractorError Unit)}
    (h : (handleEvent T F evt txHash blockNumber).Trace t o) :
    EventRun T F txHash blockNumber evt t o := by
  cases evt with
  | positionLiquidated evt => exact handleLiquidationEvent_trace h
  | profitDistributed evt => exact handleDistributionEvent_trace h
  | other =>
    obtain ⟨rfl, rfl⟩ := h
    exact .other

/-! ### Events and their records -/

def liquidated : StreamItem → Option (PositionLiquidated × LogMeta)
  | .ok (.positionLiquidated evt, logMeta) => some (evt, logMeta)
  | _ => none

def distributed : StreamItem → Option (ProfitDistributed × LogMeta)
  | .ok (.profitDistributed evt, logMeta) => some (evt, logMeta)
  | _ => none

omit [Add φ] in
/-- The record of an event, with what the tokens answered in a run. -/
def LiquidationOf (T : EthersText) (F : AmountText φ) (t : List (Event (extractorPorts φ)))
    (record : LiquidationRecord φ) (event : PositionLiquidated × LogMeta) : Prop :=
  ∃ timestamp collateral profit decimals amount,
    CacheKey.asU64 event.1.timestamp = .ok timestamp ∧
    symbolEvent event.1.collateralAsset collateral ∈ t ∧
    symbolEvent event.1.profitAsset profit ∈ t ∧ decimalsEvent event.1.profitAsset decimals ∈ t ∧
    LiqRanger.computeAmount F event.1.profit decimals.toOption = .ok amount ∧
    record = liquidationRecord event.1 (T.h256.lowerHex event.2.transactionHash)
      event.2.blockNumber.toInt timestamp collateral profit amount

def DistributionOf (T : EthersText) (F : AmountText φ) (t : List (Event (extractorPorts φ)))
    (record : DistributionRecord φ) (event : ProfitDistributed × LogMeta) : Prop :=
  ∃ timestamp symbol decimals decimals' ownerShare breetShare,
    CacheKey.asU64 event.1.timestamp = .ok timestamp ∧ symbolEvent event.1.asset symbol ∈ t ∧
    decimalsEvent event.1.asset decimals ∈ t ∧ decimalsEvent event.1.asset decimals' ∈ t ∧
    LiqRanger.computeAmount F event.1.ownerShare decimals.toOption = .ok ownerShare ∧
    LiqRanger.computeAmount F event.1.breetShare decimals'.toOption = .ok breetShare ∧
    record = distributionRecord T event.1 (T.h256.lowerHex event.2.transactionHash) timestamp
      symbol ownerShare breetShare

/-- The writes of a run are records of some of the events, in their order. -/
structure Writes (T : EthersText) (F : AmountText φ) (items : List StreamItem)
    (t : List (Event (extractorPorts φ))) : Prop where
  liquidations : List.SublistForall₂ (LiquidationOf T F t) (t.filterMap writtenLiquidation)
    (items.filterMap liquidated)
  distributions : List.SublistForall₂ (DistributionOf T F t) (t.filterMap writtenDistribution)
    (items.filterMap distributed)

lemma EventRun.writes {evt : IFlashLiquidatorEvents} {logMeta : LogMeta}
    {o : Except Panic (Except ExtractorError Unit)}
    (h : EventRun T F (T.h256.lowerHex logMeta.transactionHash) logMeta.blockNumber.toInt evt t o) :
    Writes T F [.ok (evt, logMeta)] t := by
  cases h with
  | liquidation evt timestamp htimestamp collateral profit decimals amount hamount reply =>
    refine ⟨?_, .nil⟩
    cases reply with
    | error e => exact .nil
    | ok done =>
      refine .cons ⟨timestamp, collateral, profit, decimals, amount, htimestamp, ?_, ?_, ?_,
        hamount, rfl⟩ .nil
      all_goals simp
  | distribution evt timestamp htimestamp symbol decimals decimals' ownerShare breetShare howner
      hbreet reply =>
    refine ⟨.nil, ?_⟩
    cases reply with
    | error e => exact .nil
    | ok done =>
      refine .cons ⟨timestamp, symbol, decimals, decimals', ownerShare, breetShare, htimestamp,
        ?_, ?_, ?_, howner, hbreet, rfl⟩ .nil
      all_goals simp
  | _ => exact ⟨.nil, .nil⟩

lemma handleItem_trace {item : StreamItem} {o : Except Panic Unit}
    (h : (handleItem T F item).Trace t o) : Writes T F [item] t := by
  match item with
  | .error e =>
    obtain ⟨rfl, rfl⟩ := h
    exact ⟨.nil, .nil⟩
  | .ok (evt, logMeta) =>
    rcases (Program.trace_bind _ _ _ _).mp h with ⟨p, hevent, rfl⟩ | ⟨t₁, t₂, r, rfl, hevent, hend⟩
    · exact (handleEvent_trace hevent).writes
    · obtain ⟨rfl, rfl⟩ := hend
      rw [List.append_nil]
      exact (handleEvent_trace hevent).writes

omit [Add φ] in
lemma LiquidationOf.mono {t u : List (Event (extractorPorts φ))} {record : LiquidationRecord φ}
    {event : PositionLiquidated × LogMeta} (htu : t ⊆ u) (h : LiquidationOf T F t record event) :
    LiquidationOf T F u record event := by
  obtain ⟨timestamp, collateral, profit, decimals, amount, hts, hc, hp, hd, hrest⟩ := h
  exact ⟨timestamp, collateral, profit, decimals, amount, hts, htu hc, htu hp, htu hd, hrest⟩

lemma DistributionOf.mono {t u : List (Event (extractorPorts φ))} {record : DistributionRecord φ}
    {event : ProfitDistributed × LogMeta} (htu : t ⊆ u) (h : DistributionOf T F t record event) :
    DistributionOf T F u record event := by
  obtain ⟨timestamp, symbol, decimals, decimals', owner, breet, hts, hs, hd, hd', hrest⟩ := h
  exact ⟨timestamp, symbol, decimals, decimals', owner, breet, hts, htu hs, htu hd, htu hd', hrest⟩

lemma Writes.append {items items' : List StreamItem} {t u : List (Event (extractorPorts φ))}
    (h : Writes T F items t) (h' : Writes T F items' u) :
    Writes T F (items ++ items') (t ++ u) where
  liquidations := by
    rw [List.filterMap_append, List.filterMap_append]
    exact sublistForall₂_append (fun _ _ => LiquidationOf.mono (List.subset_append_left t u))
      (fun _ _ => LiquidationOf.mono (List.subset_append_right t u)) h.liquidations h'.liquidations
  distributions := by
    rw [List.filterMap_append, List.filterMap_append]
    exact sublistForall₂_append (fun _ _ => DistributionOf.mono (List.subset_append_left t u))
      (fun _ _ => DistributionOf.mono (List.subset_append_right t u)) h.distributions
      h'.distributions

lemma start_trace {items : List StreamItem} {o : Except Panic Unit}
    (h : (start T F items).Trace t o) : Writes T F items t := by
  induction items generalizing t with
  | nil =>
    obtain ⟨rfl, rfl⟩ := h
    exact ⟨.nil, .nil⟩
  | cons item items ih =>
    rcases (Program.trace_bind _ _ _ _).mp h with ⟨p, hitem, rfl⟩ | ⟨t₁, t₂, r, rfl, hitem, hrest⟩
    · have hend : Writes T F items [] := ⟨.nil, .nil⟩
      simpa using (handleItem_trace hitem).append hend
    · exact (handleItem_trace hitem).append (ih hrest)

/-! ### Runs in which nothing goes wrong -/

/-- Amounts with up to 77 decimals can be written. -/
def Formats (F : AmountText φ) : Prop :=
  ∀ rawAmount decimals, decimals ≤ 77 → ∃ text, F.formatUnits rawAmount decimals = some text

/-- Every insertion succeeds, and no token has more decimals than an amount can be written with. -/
structure Smooth (t : List (Event (extractorPorts φ))) : Prop where
  liquidations : ∀ record e, (⟨.saveLiquidation record, .error e⟩ : Event (extractorPorts φ)) ∉ t
  distributions : ∀ record e, (⟨.saveDistribution record, .error e⟩ : Event (extractorPorts φ)) ∉ t
  decimals : ∀ token d, decimalsEvent token (.ok d) ∈ t → d.toNat ≤ 77

/-- There is one record for each event. -/
structure Complete (items : List StreamItem) (t : List (Event (extractorPorts φ))) : Prop where
  liquidations : (t.filterMap writtenLiquidation).length = (items.filterMap liquidated).length
  distributions : (t.filterMap writtenDistribution).length = (items.filterMap distributed).length

omit [Add φ] in
lemma Smooth.of_subset {u : List (Event (extractorPorts φ))} (h : Smooth u) (htu : t ⊆ u) :
    Smooth t where
  liquidations record e hmem := h.liquidations record e (htu hmem)
  distributions record e hmem := h.distributions record e (htu hmem)
  decimals token d hmem := h.decimals token d (htu hmem)

omit [Add φ] in
lemma Smooth.computeAmount_ne (h : Smooth t) (hF : Formats F) (token : Address)
    {decimals : Except String UInt8} (hmem : decimalsEvent token decimals ∈ t) (rawAmount : U256)
    (e : ExtractorError) : LiqRanger.computeAmount F rawAmount decimals.toOption ≠ .error e := by
  have hle : (decimals.toOption.getD 18).toNat ≤ 77 := by
    cases decimals with
    | ok d => exact h.decimals token d hmem
    | error e => exact Nat.le_of_ble_eq_true rfl
  obtain ⟨text, htext⟩ := hF rawAmount _ hle
  rw [LiqRanger.computeAmount, htext]
  nofun

lemma EventRun.complete {evt : IFlashLiquidatorEvents} {logMeta : LogMeta}
    {r : Except ExtractorError Unit} (h : EventRun T F txHash blockNumber evt t (.ok r))
    (hF : Formats F) (hsmooth : Smooth t) : Complete [.ok (evt, logMeta)] t := by
  generalize ho : Except.ok r = o at h
  cases h with
  | other => exact ⟨rfl, rfl⟩
  | liquidationPanics evt p htimestamp => cases ho
  | liquidationFails evt timestamp htimestamp collateral profit decimals e hamount =>
    exact absurd hamount (hsmooth.computeAmount_ne hF evt.profitAsset (by simp) _ _)
  | liquidation evt timestamp htimestamp collateral profit decimals amount hamount reply =>
    cases reply with
    | error e =>
      refine absurd ?_ (hsmooth.liquidations
        (liquidationRecord evt txHash blockNumber timestamp collateral profit amount) e)
      simp
    | ok done => exact ⟨rfl, rfl⟩
  | distributionPanics evt p htimestamp => cases ho
  | ownerShareFails evt timestamp htimestamp symbol decimals e howner =>
    exact absurd howner (hsmooth.computeAmount_ne hF evt.asset (by simp) _ _)
  | breetShareFails evt timestamp htimestamp symbol decimals decimals' ownerShare e howner hbreet =>
    exact absurd hbreet (hsmooth.computeAmount_ne hF evt.asset (by simp) _ _)
  | distribution evt timestamp htimestamp symbol decimals decimals' ownerShare breetShare howner
      hbreet reply =>
    cases reply with
    | error e =>
      refine absurd ?_ (hsmooth.distributions
        (distributionRecord T evt txHash timestamp symbol ownerShare breetShare) e)
      simp
    | ok done => exact ⟨rfl, rfl⟩

lemma handleItem_complete {item : StreamItem} {u : Unit}
    (h : (handleItem T F item).Trace t (.ok u)) (hF : Formats F) (hsmooth : Smooth t) :
    Complete [item] t := by
  match item with
  | .error e =>
    obtain ⟨rfl, -⟩ := h
    exact ⟨rfl, rfl⟩
  | .ok (evt, logMeta) =>
    rcases (Program.trace_bind _ _ _ _).mp h with ⟨p, hevent, hend⟩ | ⟨t₁, t₂, r, rfl, hevent, hend⟩
    · cases hend
    · obtain ⟨rfl, -⟩ := hend
      rw [List.append_nil] at hsmooth ⊢
      exact (handleEvent_trace hevent).complete hF hsmooth

lemma start_complete {items : List StreamItem} {u : Unit}
    (h : (start T F items).Trace t (.ok u)) (hF : Formats F) (hsmooth : Smooth t) :
    Complete items t := by
  induction items generalizing t with
  | nil =>
    obtain ⟨rfl, -⟩ := h
    exact ⟨rfl, rfl⟩
  | cons item items ih =>
    rcases (Program.trace_bind _ _ _ _).mp h with ⟨p, hitem, hend⟩ | ⟨t₁, t₂, r, rfl, hitem, hrest⟩
    · cases hend
    · have hfirst := handleItem_complete hitem hF
        (hsmooth.of_subset (List.subset_append_left t₁ t₂))
      have hlater := ih hrest (hsmooth.of_subset (List.subset_append_right t₁ t₂))
      rw [← List.singleton_append]
      constructor
      · rw [List.filterMap_append, List.filterMap_append, List.length_append, List.length_append,
          hfirst.liquidations, hlater.liquidations]
      · rw [List.filterMap_append, List.filterMap_append, List.length_append, List.length_append,
          hfirst.distributions, hlater.distributions]

end LiqDataExtractor

/-! ### The tables after a run -/

open LiqDataExtractor

variable [Add φ] {items : List StreamItem} {h h' : History φ} {t : List (Event (extractorPorts φ))}

omit [Add φ] in
lemma History.lookup_liquidations (hpath : (History.insert T).Path h t h') (txHash : Text) :
    h'.liquidations.lookup txHash = (h.liquidations.lookup txHash).or
      (((t.filterMap writtenLiquidation).find? fun record => record.txHash = txHash).map
        (LiquidationRecord.row T)) := by
  rw [(History.path_iff.mp hpath).1, KeyedTable.lookup_insertAll, List.find?_map]
  rfl

omit [Add φ] in
lemma History.lookup_distributions (hpath : (History.insert T).Path h t h') (txHash : Text) :
    h'.distributions.lookup txHash = (h.distributions.lookup txHash).or
      ((t.filterMap writtenDistribution).find? fun record => record.txHash = txHash) := by
  rw [(History.path_iff.mp hpath).2, KeyedTable.lookup_insertAll]

/-- Each event of the stream has a row under its hash. -/
structure History.Records (T : EthersText) (h : History φ) (items : List StreamItem) : Prop where
  liquidations : ∀ event ∈ items.filterMap liquidated,
    T.h256.lowerHex event.2.transactionHash ∈ h.liquidations.rows.map LiquidationRow.txHash
  distributions : ∀ event ∈ items.filterMap distributed,
    T.h256.lowerHex event.2.transactionHash ∈ h.distributions.rows.map DistributionRecord.txHash

lemma History.records_of_complete (hwrites : Writes T F items t) (hcomplete : Complete items t)
    (hpath : (History.insert T).Path h t h') : h'.Records T items where
  liquidations event hevent := by
    obtain ⟨record, hmem, timestamp, collateral, profit, decimals, amount, -, -, -, -, -, rfl⟩ :=
      exists_of_mem_of_length_eq hwrites.liquidations hcomplete.liquidations hevent
    rw [(History.path_iff.mp hpath).1]
    exact KeyedTable.mem_keys_insertAll (List.mem_map_of_mem hmem) h.liquidations
  distributions event hevent := by
    obtain ⟨record, hmem, timestamp, symbol, decimals, decimals', owner, breet, -, -, -, -, -, -,
      rfl⟩ := exists_of_mem_of_length_eq hwrites.distributions hcomplete.distributions hevent
    rw [(History.path_iff.mp hpath).2]
    exact KeyedTable.mem_keys_insertAll hmem h.distributions

/-- A run over events that have their rows changes nothing. -/
lemma History.Records.unchanged (hrecords : h.Records T items) (hwrites : Writes T F items t)
    (hpath : (History.insert T).Path h t h') : h' = h := by
  obtain ⟨hliquidations, hdistributions⟩ := History.path_iff.mp hpath
  apply History.ext
  · rw [hliquidations]
    apply KeyedTable.insertAll_of_taken
    rw [List.forall_mem_map]
    intro record hrecord
    obtain ⟨event, hevent, timestamp, collateral, profit, decimals, amount, -, -, -, -, -, rfl⟩ :=
      exists_of_mem_sublistForall₂ hwrites.liquidations hrecord
    exact hrecords.liquidations event hevent
  · rw [hdistributions]
    apply KeyedTable.insertAll_of_taken
    intro record hrecord
    obtain ⟨event, hevent, timestamp, symbol, decimals, decimals', owner, breet, -, -, -, -, -, -,
      rfl⟩ := exists_of_mem_sublistForall₂ hwrites.distributions hrecord
    exact hrecords.distributions event hevent

omit [Add φ] in
lemma History.Records.of_subset {items' : List StreamItem} (hrecords : h.Records T items)
    (hsub : items' ⊆ items) : h.Records T items' where
  liquidations event hevent := hrecords.liquidations event (List.filterMap_subset _ hsub hevent)
  distributions event hevent := hrecords.distributions event (List.filterMap_subset _ hsub hevent)

/-- The deliveries of the plain loop, as events of the stream. -/
def Delivery.streamed (delivery : Delivery) : PositionLiquidated × LogMeta :=
  (delivery.event, ⟨delivery.transactionHash, delivery.blockNumber⟩)

/-- A delivery has the answers that the tokens of its event gave in a run. -/
def Delivery.AnsweredIn (t : List (Event (extractorPorts φ))) (delivery : Delivery) : Prop :=
  ∃ collateral profit decimals, symbolEvent delivery.event.collateralAsset collateral ∈ t ∧
    symbolEvent delivery.event.profitAsset profit ∈ t ∧
    decimalsEvent delivery.event.profitAsset decimals ∈ t ∧
    delivery.collateralSymbol = collateral.toOption ∧ delivery.profitSymbol = profit.toOption ∧
    delivery.profitDecimals = decimals.toOption

omit [Add φ] in
lemma Delivery.AnsweredIn.mono {u : List (Event (extractorPorts φ))} (htu : t ⊆ u)
    {delivery : Delivery} (h : delivery.AnsweredIn t) : delivery.AnsweredIn u := by
  obtain ⟨collateral, profit, decimals, hc, hp, hd, hanswers⟩ := h
  exact ⟨collateral, profit, decimals, htu hc, htu hp, htu hd, hanswers⟩

/-- The timestamp of the event has too many bits, so that the task ends at it. -/
def IFlashLiquidatorEvents.Panics (p : Panic) : IFlashLiquidatorEvents → Prop
  | .positionLiquidated evt => CacheKey.asU64 evt.timestamp = .error p
  | .profitDistributed evt => CacheKey.asU64 evt.timestamp = .error p
  | .other => False

omit [Add φ] in
lemma asU64_eq (x : U256) : U256.asU64 x =
    match CacheKey.asU64 x with
    | .ok v => .ok v
    | .error p => .error (.panic p.message) := by
  rw [U256.asU64, CacheKey.asU64]
  split <;> rfl

omit [Add φ] in
lemma eq_failed_of_computeAmount {rawAmount : U256} {decimals : Option UInt8} {e : ExtractorError}
    (h : LiqRanger.computeAmount F rawAmount decimals = .error e) : e = .failed := by
  rw [LiqRanger.computeAmount] at h
  split at h
  · cases h
  · exact (Except.error.inj h).symm

/-- A liquidation is handled as the plain loop does with the same answers. -/
lemma LiqDataExtractor.EventRun.delivery {evt : PositionLiquidated} {logMeta : LogMeta}
    {o : Except Panic (Except ExtractorError Unit)}
    (h : EventRun T F (T.h256.lowerHex logMeta.transactionHash) logMeta.blockNumber.toInt
      (.positionLiquidated evt) t o)
    (hsaved : ∀ record e, (⟨.saveLiquidation record, .error e⟩ : Event (extractorPorts φ)) ∉ t) :
    ∃ delivery, delivery.streamed = (evt, logMeta) ∧
      (∀ r, o = .ok r → delivery.AnsweredIn t) ∧
      ∀ table, LiqRanger.handleLiquidationEvent T F delivery table =
        match o with
        | .ok (.ok _) => .ok (table.insertAll
            ((t.filterMap writtenLiquidation).map (LiquidationRecord.row T)))
        | .ok (.error _) => .error .failed
        | .error p => .error (.panic p.message) := by
  cases h with
  | liquidationPanics _ p htimestamp =>
    refine ⟨⟨evt, logMeta.transactionHash, logMeta.blockNumber, none, none, none⟩, rfl,
      fun r hr => ?_, fun table => ?_⟩
    · cases hr
    · rw [LiqRanger.handleLiquidationEvent, asU64_eq, htimestamp]
      rfl
  | liquidationFails _ timestamp htimestamp collateral profit decimals e hamount =>
    refine ⟨⟨evt, logMeta.transactionHash, logMeta.blockNumber, collateral.toOption,
      profit.toOption, decimals.toOption⟩, rfl, fun _ _ => ?_, fun table => ?_⟩
    · exact ⟨collateral, profit, decimals, by simp, by simp, by simp, rfl, rfl, rfl⟩
    · obtain rfl := eq_failed_of_computeAmount hamount
      simp only [LiqRanger.handleLiquidationEvent, asU64_eq, htimestamp, hamount]
      rfl
  | liquidation _ timestamp htimestamp collateral profit decimals amount hamount reply =>
    cases reply with
    | error e =>
      refine absurd ?_ (hsaved (liquidationRecord evt (T.h256.lowerHex logMeta.transactionHash)
        logMeta.blockNumber.toInt timestamp collateral profit amount) e)
      simp
    | ok done =>
      refine ⟨⟨evt, logMeta.transactionHash, logMeta.blockNumber, collateral.toOption,
        profit.toOption, decimals.toOption⟩, rfl, fun _ _ => ?_, fun table => ?_⟩
      · exact ⟨collateral, profit, decimals, by simp, by simp, by simp, rfl, rfl, rfl⟩
      · simp only [LiqRanger.handleLiquidationEvent, asU64_eq, htimestamp, hamount]
        rfl

omit [Add φ] in
lemma LiqDataExtractor.run_cons (delivery : Delivery) (deliveries : List Delivery)
    (table : Liquidations φ) :
    LiqDataExtractor.run T F (delivery :: deliveries) table =
      match LiqRanger.handleLiquidationEvent T F delivery table with
      | .ok table => LiqDataExtractor.run T F deliveries table
      | .error .failed => LiqDataExtractor.run T F deliveries table
      | .error (.panic _) => table := rfl

omit [Add φ] in
lemma insertAll_append {α κ : Type} {key : α → κ} [DecidableEq κ] (rows rows' : List α)
    (table : KeyedTable key) :
    table.insertAll (rows ++ rows') = (table.insertAll rows).insertAll rows' := by
  simp [KeyedTable.insertAll]

/-- A panic is that of the timestamp, and comes before all calls. -/
lemma LiqDataExtractor.EventRun.panics {evt : IFlashLiquidatorEvents} {txHash : Text}
    {blockNumber : ℤ} {p : Panic} (h : EventRun T F txHash blockNumber evt t (.error p)) :
    t = [] ∧ evt.Panics p := by
  generalize ho : Except.error p = o at h
  cases h with
  | liquidationPanics evt p htimestamp =>
    cases ho
    exact ⟨rfl, htimestamp⟩
  | distributionPanics evt p htimestamp =>
    cases ho
    exact ⟨rfl, htimestamp⟩
  | _ => cases ho

/-- What fails is not written. -/
lemma LiqDataExtractor.EventRun.not_written {evt : IFlashLiquidatorEvents} {txHash : Text}
    {blockNumber : ℤ} {e : ExtractorError}
    (h : EventRun T F txHash blockNumber evt t (.ok (.error e))) :
    t.filterMap writtenLiquidation = [] := by
  generalize ho : Except.ok (Except.error e) = o at h
  cases h with
  | liquidation evt timestamp htimestamp collateral profit decimals amount hamount reply =>
    cases reply with
    | ok done => cases ho
    | error e => rfl
  | _ => rfl

/-- What a distribution writes is no liquidation. -/
lemma LiqDataExtractor.no_liquidation {evt : ProfitDistributed} {logMeta : LogMeta}
    {o : Except Panic Unit}
    (h : (handleItem T F (.ok (.profitDistributed evt, logMeta))).Trace t o) :
    t.filterMap writtenLiquidation = [] := by
  cases hwritten : t.filterMap writtenLiquidation with
  | nil => rfl
  | cons record records =>
    have hwrites := (handleItem_trace h).liquidations
    rw [hwritten] at hwrites
    cases hwrites

/-- What the plain loop has to be given for one item that is handled. -/
lemma LiqDataExtractor.handleItem_deliveries {item : StreamItem} {u : Unit}
    (h : (handleItem T F item).Trace t (.ok u))
    (hsaved : ∀ record e, (⟨.saveLiquidation record, .error e⟩ : Event (extractorPorts φ)) ∉ t) :
    ∃ deliveries, deliveries.map Delivery.streamed = [item].filterMap liquidated ∧
      (∀ delivery ∈ deliveries, delivery.AnsweredIn t) ∧
      ∀ rest table, LiqDataExtractor.run T F (deliveries ++ rest) table =
        LiqDataExtractor.run T F rest (table.insertAll
          ((t.filterMap writtenLiquidation).map (LiquidationRecord.row T))) := by
  match item with
  | .error e =>
    obtain ⟨rfl, -⟩ := h
    exact ⟨[], rfl, by simp, fun _ _ => rfl⟩
  | .ok (.other, logMeta) =>
    obtain ⟨rfl, -⟩ := h
    exact ⟨[], rfl, by simp, fun _ _ => rfl⟩
  | .ok (.profitDistributed evt, logMeta) =>
    rw [no_liquidation h]
    exact ⟨[], rfl, by simp, fun _ _ => rfl⟩
  | .ok (.positionLiquidated evt, logMeta) =>
    rcases (Program.trace_bind _ _ _ _).mp h with ⟨p, -, hend⟩ | ⟨t₁, t₂, r, rfl, hevent, hend⟩
    · cases hend
    · obtain ⟨rfl, -⟩ := hend
      rw [List.append_nil] at hsaved ⊢
      have hevent := handleEvent_trace hevent
      obtain ⟨delivery, hstreamed, hanswered, hrun⟩ := hevent.delivery hsaved
      refine ⟨[delivery], by simp [hstreamed, liquidated], ?_, fun rest table => ?_⟩
      · simpa using hanswered r rfl
      · rw [List.singleton_append, run_cons, hrun]
        cases r with
        | ok done => rfl
        | error e => rw [hevent.not_written]; rfl

/-- What the plain loop has to be given for the item at which the task panics. -/
lemma LiqDataExtractor.handleItem_panics {item : StreamItem} {p : Panic}
    (h : (handleItem T F item).Trace t (.error p)) :
    t = [] ∧ ∃ evt logMeta, item = .ok (evt, logMeta) ∧ evt.Panics p ∧
      ∃ last, last.map Delivery.streamed = [item].filterMap liquidated ∧
        ∀ table, LiqDataExtractor.run T F last table = table := by
  match item with
  | .error e => cases h.2
  | .ok (evt, logMeta) =>
    rcases (Program.trace_bind _ _ _ _).mp h with ⟨p', hevent, hend⟩ | ⟨t₁, t₂, r, -, -, hend⟩
    · cases hend
      have hevent := handleEvent_trace hevent
      obtain ⟨rfl, hpanics⟩ := hevent.panics
      refine ⟨rfl, evt, logMeta, rfl, hpanics, ?_⟩
      cases evt with
      | positionLiquidated evt =>
        obtain ⟨delivery, hstreamed, -, hrun⟩ := hevent.delivery (by simp)
        refine ⟨[delivery], by simp [hstreamed, liquidated], fun table => ?_⟩
        rw [run_cons, hrun]
      | profitDistributed evt => exact ⟨[], rfl, fun _ => rfl⟩
      | other => exact ⟨[], rfl, fun _ => rfl⟩
    · cases hend.2

/-- What the plain loop has to be given for a stream that is handled to its end. -/
lemma LiqDataExtractor.start_deliveries {u : Unit} (h : (start T F items).Trace t (.ok u))
    (hsaved : ∀ record e, (⟨.saveLiquidation record, .error e⟩ : Event (extractorPorts φ)) ∉ t) :
    ∃ deliveries, deliveries.map Delivery.streamed = items.filterMap liquidated ∧
      (∀ delivery ∈ deliveries, delivery.AnsweredIn t) ∧
      ∀ rest table, LiqDataExtractor.run T F (deliveries ++ rest) table =
        LiqDataExtractor.run T F rest (table.insertAll
          ((t.filterMap writtenLiquidation).map (LiquidationRecord.row T))) := by
  induction items generalizing t with
  | nil =>
    obtain ⟨rfl, -⟩ := h
    exact ⟨[], rfl, by simp, fun _ _ => rfl⟩
  | cons item items ih =>
    rw [← List.singleton_append, List.filterMap_append]
    rcases (Program.trace_bind _ _ _ _).mp h with ⟨p, -, hend⟩ | ⟨t₁, t₂, r, rfl, hitem, hrest⟩
    · cases hend
    · obtain ⟨first, hfirst, hanswered, hrun⟩ := handleItem_deliveries hitem
        fun record e hmem => hsaved record e (List.mem_append_left t₂ hmem)
      obtain ⟨later, hlater, hanswered', hrun'⟩ := ih hrest
        fun record e hmem => hsaved record e (List.mem_append_right t₁ hmem)
      refine ⟨first ++ later, by rw [List.map_append, hfirst, hlater], ?_, fun rest table => ?_⟩
      · intro delivery hmem
        rcases List.mem_append.mp hmem with hmem | hmem
        · exact (hanswered delivery hmem).mono (List.subset_append_left t₁ t₂)
        · exact (hanswered' delivery hmem).mono (List.subset_append_right t₁ t₂)
      · rw [List.append_assoc, hrun, hrun', List.filterMap_append, List.map_append,
          insertAll_append]

/-- A panic comes of one item, and all items before it are handled. -/
lemma LiqDataExtractor.start_panics {p : Panic} (h : (start T F items).Trace t (.error p)) :
    ∃ before item after, items = before ++ item :: after ∧
      (start T F before).Trace t (.ok ()) ∧ (handleItem T F item).Trace [] (.error p) := by
  induction items generalizing t with
  | nil => cases h.2
  | cons item items ih =>
    rcases (Program.trace_bind _ _ _ _).mp h with ⟨p', hitem, hend⟩ | ⟨t₁, t₂, r, rfl, hitem, hrest⟩
    · cases hend
      obtain ⟨rfl, -⟩ := handleItem_panics hitem
      exact ⟨[], item, items, rfl, ⟨rfl, rfl⟩, hitem⟩
    · obtain ⟨before, item', after, rfl, hbefore, hpanics⟩ := ih hrest
      refine ⟨item :: before, item', after, rfl, ?_, hpanics⟩
      exact (Program.trace_bind _ _ _ _).mpr (Or.inr ⟨t₁, t₂, r, rfl, hitem, hbefore⟩)

/-- As long as no insertion fails, the table of liquidations is what the plain loop makes of the
liquidations alone, each with the answers that its tokens got. Other events and errors of the stream
leave no mark. A panic is that of one event, the last one that both come to: before it, everything
is as in a run without a panic. -/
theorem history_plain (T : EthersText) (F : AmountText φ) (items : List StreamItem)
    (h h' : History φ) (t : List (Event (extractorPorts φ))) (o : Except Panic Unit)
    (htrace : (start T F items).Trace t o) (hpath : (History.insert T).Path h t h')
    (hsaved : ∀ record e, (⟨.saveLiquidation record, .error e⟩ : Event (extractorPorts φ)) ∉ t) :
    (o = .ok () → ∃ deliveries, deliveries.map Delivery.streamed = items.filterMap liquidated ∧
      (∀ delivery ∈ deliveries, delivery.AnsweredIn t) ∧
      h'.liquidations = LiqDataExtractor.run T F deliveries h.liquidations) ∧
    ∀ p, o = .error p → ∃ before evt logMeta after deliveries last,
      items = before ++ .ok (evt, logMeta) :: after ∧ evt.Panics p ∧
      deliveries.map Delivery.streamed = before.filterMap liquidated ∧
      last.map Delivery.streamed = [.ok (evt, logMeta)].filterMap liquidated ∧
      (∀ delivery ∈ deliveries, delivery.AnsweredIn t) ∧
      h'.liquidations = LiqDataExtractor.run T F (deliveries ++ last) h.liquidations := by
  rw [(History.path_iff.mp hpath).1]
  constructor
  · rintro rfl
    obtain ⟨deliveries, hall, hanswered, hrun⟩ := start_deliveries htrace hsaved
    refine ⟨deliveries, hall, hanswered, ?_⟩
    rw [← List.append_nil deliveries, hrun]
    rfl
  · rintro p rfl
    obtain ⟨before, item, after, hitems, hbefore, hpanic⟩ := start_panics htrace
    obtain ⟨-, evt, logMeta, rfl, hpanics, last, hlast, hstay⟩ := handleItem_panics hpanic
    obtain ⟨deliveries, hall, hanswered, hrun⟩ := start_deliveries hbefore hsaved
    refine ⟨before, evt, logMeta, after, deliveries, last, hitems, hpanics, hall, hlast, hanswered,
      ?_⟩
    rw [hrun, hstay]

/-! ### One event of each kind -/

def sampleAmounts : AmountText ℕ := ⟨fun _ _ => some "5".toList, fun _ => some 5, 0⟩

def sampleItems : List StreamItem :=
  [.ok (.positionLiquidated sampleDelivery.event, ⟨.ofNat 32 77, 70000000⟩), .error "lagged",
    .ok (.profitDistributed ⟨.ofNat 20 2, 3, 7, 1700000000⟩, ⟨.ofNat 32 78, 70000001⟩)]

/-- No symbols, 18 decimals, and a database that works. -/
def sampleAnswer : (op : ExtractorOp ℕ) → op.Reply
  | .getTokenSymbol _ => .error "execution reverted"
  | .getTokenDecimals _ => .ok 18
  | .saveLiquidation _ => .ok ()
  | .saveDistribution _ => .ok ()

omit [Add φ] in
lemma History.exists_path (T : EthersText) (h : History φ) (t : List (Event (extractorPorts φ))) :
    ∃ h', (History.insert T).Path h t h' :=
  ⟨⟨_, _⟩, History.path_iff.mpr ⟨rfl, rfl⟩⟩

lemma exists_sample_run : ∃ (t : List (Event (extractorPorts ℕ))) (h' : History ℕ),
    (start .reference sampleAmounts sampleItems).Trace t (.ok ()) ∧ Smooth t ∧
      (History.insert .reference).Path ⟨.empty, .empty⟩ t h' := by
  obtain ⟨t, htrace, hreplies⟩ := Program.exists_trace_eval sampleAnswer
    (start .reference sampleAmounts sampleItems)
  obtain ⟨h', hpath⟩ := History.exists_path .reference ⟨.empty, .empty⟩ t
  refine ⟨t, h', htrace, ⟨fun record e hmem => ?_, fun record e hmem => ?_, ?_⟩, hpath⟩
  · cases hreplies _ hmem
  · cases hreplies _ hmem
  · intro token d hmem
    cases hreplies _ hmem
    decide

/-- A liquidation past the 64-bit times, and another one after it. -/
def lateItems : List StreamItem :=
  [.ok (.positionLiquidated { sampleDelivery.event with timestamp := 18446744073709551616 },
      ⟨.ofNat 32 79, 70000002⟩),
    .ok (.positionLiquidated sampleDelivery.event, ⟨.ofNat 32 80, 70000003⟩)]

/-- The first stream is handled to its end. With the late liquidations behind it, the plain loop
stops at the first of them as well, and the last one is never handled. -/
theorem history_plain_sample :
    (∃ (h' : History ℕ) (t : List (Event (extractorPorts ℕ))) (deliveries : List Delivery),
      deliveries.map Delivery.streamed = sampleItems.filterMap liquidated ∧
      (∀ delivery ∈ deliveries, delivery.AnsweredIn t) ∧
      h'.liquidations = LiqDataExtractor.run .reference sampleAmounts deliveries .empty) ∧
    ∃ (h' : History ℕ) (before after : List StreamItem) (evt : IFlashLiquidatorEvents)
      (logMeta : LogMeta) (deliveries : List Delivery) (p : Panic),
      sampleItems ++ lateItems = before ++ .ok (evt, logMeta) :: after ∧ evt.Panics p ∧
      h'.liquidations = LiqDataExtractor.run .reference sampleAmounts deliveries .empty := by
  constructor
  · obtain ⟨t, h', htrace, hsmooth, hpath⟩ := exists_sample_run
    obtain ⟨deliveries, hall, hanswered, hrun⟩ := (history_plain .reference sampleAmounts
      sampleItems _ h' t (.ok ()) htrace hpath hsmooth.liquidations).1 rfl
    exact ⟨h', t, deliveries, hall, hanswered, hrun⟩
  · obtain ⟨t, htrace, hreplies⟩ := Program.exists_trace_eval sampleAnswer
      (start .reference sampleAmounts (sampleItems ++ lateItems))
    obtain ⟨h', hpath⟩ := History.exists_path .reference ⟨.empty, .empty⟩ t
    obtain ⟨before, evt, logMeta, after, deliveries, last, hitems, hpanics, -, -, -, hrun⟩ :=
      (history_plain .reference sampleAmounts _ _ h' t _ htrace hpath
        (fun record e hmem => by cases hreplies _ hmem)).2 _ rfl
    exact ⟨h', before, after, evt, logMeta, deliveries ++ last, _, hitems, hpanics, hrun⟩

end LiqRanger
