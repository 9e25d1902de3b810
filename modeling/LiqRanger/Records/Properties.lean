import LiqRanger.Records.Liquidations

/-!
# What profit distribution sees of the recorded liquidations

Addresses are written abbreviated and read back in full, so no recorded text is an address
(`discoverActiveAssets_run`): the distributor sees its own list and nothing else.
-/

namespace LiqRanger

variable {φ : Type} {T : EthersText} {F : AmountText φ}

/-! ### What is written -/

/-- Both asset columns hold displayed addresses. -/
def IsDisplayed (T : EthersText) (table : Liquidations φ) : Prop :=
  ∀ row ∈ table.rows, (∃ asset, row.profitAsset = T.address.display asset) ∧
    ∃ asset, row.collateralAsset = T.address.display asset

lemma isDisplayed_empty : IsDisplayed T (KeyedTable.empty : Liquidations φ) := by
  intro row hrow
  rw [KeyedTable.rows_empty] at hrow
  cases hrow

lemma LiquidationRecord.isDisplayed_save (record : LiquidationRecord φ) {table : Liquidations φ}
    (h : IsDisplayed T table) : IsDisplayed T (record.save T table) := by
  intro row hrow
  rcases KeyedTable.mem_insertOrIgnore hrow with hold | rfl
  · exact h row hold
  · exact ⟨⟨record.profitAsset, rfl⟩, record.collateralAsset, rfl⟩

lemma isDisplayed_handleLiquidationEvent {delivery : Delivery} {table table' : Liquidations φ}
    (h : IsDisplayed T table)
    (hok : handleLiquidationEvent T F delivery table = .ok table') : IsDisplayed T table' := by
  simp only [handleLiquidationEvent, bind, Except.bind, pure, Except.pure] at hok
  split at hok
  · cases hok
  · split at hok
    · cases hok
    · cases hok
      exact LiquidationRecord.isDisplayed_save _ h

/-- However many events are handled, the asset columns hold displayed addresses. -/
lemma isDisplayed_run (deliveries : List Delivery) {table : Liquidations φ}
    (h : IsDisplayed T table) : IsDisplayed T (LiqDataExtractor.run T F deliveries table) := by
  induction deliveries generalizing table with
  | nil => exact h
  | cons delivery rest ih =>
    rw [LiqDataExtractor.run]
    split
    · rename_i table' hok
      exact ih (isDisplayed_handleLiquidationEvent h hok)
    · exact ih h
    · exact h

/-! ### What is read -/

lemma mem_insertParsed {assets : Finset Address} {text : Text} {asset : Address} :
    asset ∈ insertParsed T assets text ↔
      asset ∈ assets ∨ T.address.fromStr text = some asset := by
  rw [insertParsed]
  cases hparse : T.address.fromStr text with
  | none => simp
  | some address => simp [or_comm, eq_comm]

lemma mem_foldl_insertParsed {texts : List Text} {assets : Finset Address} {asset : Address} :
    asset ∈ texts.foldl (insertParsed T) assets ↔
      asset ∈ assets ∨ ∃ text ∈ texts, T.address.fromStr text = some asset := by
  induction texts generalizing assets with
  | nil => simp
  | cons text texts ih =>
    rw [List.foldl_cons, ih, mem_insertParsed, or_assoc, List.exists_mem_cons_iff]

/-- An asset is discovered when it is on the list or the text of a row parses to it. -/
lemma mem_discoverActiveAssets {table : Liquidations φ} {asset : Address} :
    asset ∈ discoverActiveAssets T table ↔ asset ∈ profitDistAssets ∨
      ∃ text ∈ selectAssets table, T.address.fromStr text = some asset := by
  rw [discoverActiveAssets, mem_foldl_insertParsed, List.mem_toFinset]

lemma mem_selectAssets {table : Liquidations φ} {text : Text} :
    text ∈ selectAssets table ↔
      ∃ row ∈ table.rows, row.profitAsset = text ∨ row.collateralAsset = text := by
  simp only [selectAssets, List.mem_dedup, List.mem_append, List.mem_map, ← exists_or,
    ← and_or_left]

/-- Nothing that was written reads back as an address. -/
theorem discoverActiveAssets_of_isDisplayed {table : Liquidations φ} (h : IsDisplayed T table) :
    discoverActiveAssets T table = profitDistAssets.toFinset := by
  ext asset
  rw [mem_discoverActiveAssets, List.mem_toFinset]
  constructor
  · rintro (hlist | ⟨text, htext, hparse⟩)
    · exact hlist
    · obtain ⟨row, hrow, htext⟩ := mem_selectAssets.mp htext
      obtain ⟨⟨profit, hprofit⟩, collateral, hcollateral⟩ := h row hrow
      rcases htext with rfl | rfl
      · rw [hprofit, T.address.fromStr_display (by decide)] at hparse
        cases hparse
      · rw [hcollateral, T.address.fromStr_display (by decide)] at hparse
        cases hparse
  · exact Or.inl

/-! ### Visibility -/

/-- The assets that the events name. -/
def eventAssets (deliveries : List Delivery) : Finset Address :=
  (deliveries.map fun d => d.event.profitAsset).toFinset
    ∪ (deliveries.map fun d => d.event.collateralAsset).toFinset

/-- After any sequence of events the distributor sees its list and the assets of the events
exactly when those assets were on the list anyway. -/
theorem discoverActiveAssets_run (deliveries : List Delivery) :
    discoverActiveAssets T (LiqDataExtractor.run T F deliveries KeyedTable.empty)
        = profitDistAssets.toFinset ∪ eventAssets deliveries ↔
      ∀ delivery ∈ deliveries, delivery.event.profitAsset ∈ profitDistAssets ∧
        delivery.event.collateralAsset ∈ profitDistAssets := by
  rw [discoverActiveAssets_of_isDisplayed (isDisplayed_run deliveries isDisplayed_empty),
    eq_comm, Finset.union_eq_left]
  constructor
  · intro hsub delivery hdelivery
    have hprofit : delivery.event.profitAsset ∈ eventAssets deliveries :=
      Finset.mem_union_left _ (List.mem_toFinset.mpr (List.mem_map_of_mem hdelivery))
    have hcollateral : delivery.event.collateralAsset ∈ eventAssets deliveries :=
      Finset.mem_union_right _ (List.mem_toFinset.mpr (List.mem_map_of_mem hdelivery))
    exact ⟨List.mem_toFinset.mp (hsub hprofit), List.mem_toFinset.mp (hsub hcollateral)⟩
  · intro hall asset hasset
    rw [eventAssets, Finset.mem_union, List.mem_toFinset, List.mem_toFinset, List.mem_map,
      List.mem_map] at hasset
    rw [List.mem_toFinset]
    rcases hasset with ⟨delivery, hdelivery, rfl⟩ | ⟨delivery, hdelivery, rfl⟩
    · exact (hall delivery hdelivery).1
    · exact (hall delivery hdelivery).2

/-- A liquidation of a token that is not on the list. -/
def sampleDelivery : Delivery where
  event :=
    { mode := 1, borrower := .ofNat 20 1001, profitAsset := .ofNat 20 2,
      collateralAsset := .ofNat 20 1, profit := 5, timestamp := 1700000000 }
  transactionHash := .ofNat 32 77
  blockNumber := 70000000
  collateralSymbol := some "AAA".toList
  profitSymbol := some "BBB".toList
  profitDecimals := some 18

/-- Amounts as the text of the raw number. -/
def sampleAmountText : AmountText Text := ⟨fun _ _ => some "5".toList, some, []⟩

/-- The event is recorded, and neither of its assets is discovered. -/
theorem recorded_liquidation_invisible :
    (LiqDataExtractor.run .reference sampleAmountText [sampleDelivery]
      KeyedTable.empty).rows.length = 1 ∧
    discoverActiveAssets .reference
        (LiqDataExtractor.run .reference sampleAmountText [sampleDelivery] KeyedTable.empty)
      ≠ profitDistAssets.toFinset ∪ eventAssets [sampleDelivery] := by
  refine ⟨rfl, fun hvisible => ?_⟩
  have hmem : sampleDelivery.event.profitAsset ∈
      profitDistAssets.toFinset ∪ eventAssets [sampleDelivery] :=
    Finset.mem_union_right _ (Finset.mem_union_left _ (by decide))
  have hdisplayed : IsDisplayed .reference
      (LiqDataExtractor.run .reference sampleAmountText [sampleDelivery] KeyedTable.empty) :=
    isDisplayed_run _ isDisplayed_empty
  rw [← hvisible, discoverActiveAssets_of_isDisplayed hdisplayed, List.mem_toFinset] at hmem
  exact absurd hmem (by decide)

end LiqRanger
