import LiqRanger.Text.FixedHash

/-!
# Position events

The three kinds of log that move a position's debt, on either protocol.
-/

namespace LiqRanger

inductive EventKind where
  | borrow
  | repay
  | liquidation
  deriving DecidableEq

/-- A log with the position it is about. Aave: `reserve` and `on_behalf_of` of a Borrow, `reserve`
and `user` of a Repay, `debt_asset` and `user` of a LiquidationCall. Morpho: `id` and `on_behalf`
of a Borrow or Repay, `id` and `borrower` of a Liquidate. -/
structure PositionLog (κ : Type) where
  kind : EventKind
  market : κ
  borrower : Address
  deriving DecidableEq

/-- The logs of each block. -/
abbrev Chain (κ : Type) := ℕ → List (PositionLog κ)

variable {κ : Type}

/-- What a log filter of one kind returns for a range of blocks, both ends included. -/
def Chain.logs (chain : Chain κ) (kind : EventKind) (fromBlock toBlock : ℕ) :
    List (PositionLog κ) :=
  ((List.range' fromBlock (toBlock + 1 - fromBlock)).flatMap chain).filter fun log =>
    log.kind = kind

lemma Chain.mem_logs {chain : Chain κ} {kind : EventKind} {fromBlock toBlock : ℕ}
    {log : PositionLog κ} :
    log ∈ chain.logs kind fromBlock toBlock ↔
      log.kind = kind ∧ ∃ block, fromBlock ≤ block ∧ block ≤ toBlock ∧ log ∈ chain block := by
  simp only [Chain.logs, List.mem_filter, List.mem_flatMap, List.mem_range'_1, decide_eq_true_eq]
  constructor
  · rintro ⟨⟨block, ⟨hfrom, hto⟩, hlog⟩, hkind⟩
    exact ⟨hkind, block, hfrom, by omega, hlog⟩
  · rintro ⟨hkind, block, hfrom, hto, hlog⟩
    exact ⟨⟨block, ⟨hfrom, by omega⟩, hlog⟩, hkind⟩

end LiqRanger
