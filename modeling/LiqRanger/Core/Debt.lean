import LiqRanger.Core.Types

/-!
# Debt checks

Whether a position has debt, by the contract call that shows it.
-/

namespace LiqRanger

/-- The balance of the variable debt token of a reserve. -/
def hasOutstandingDebt {m : Type → Type} [Monad m] [MonadExcept String m] (T : EthersText)
    (vdebtTokens : Address → Option Address) (balanceOf : Address → Address → m U256)
    (borrower reserve : Address) : m Bool := do
  match vdebtTokens reserve with
  | none =>
    throw ("missing vDebt token for reserve " ++ String.ofList (T.address.debug reserve))
  | some vdebt =>
    let debt ← balanceOf vdebt borrower
    return debt != 0

/-- Of the supply shares, the borrow shares and the collateral of a position, only the borrow shares
count. -/
def hasOutstandingDebtMorpho (position : H256 → Address → Except String (U256 × U128 × U128))
    (borrower : Address) (market : H256) : Except String Bool := do
  let (_, borrowShares, _) ← position market borrower
  return borrowShares != 0

lemma hasOutstandingDebtMorpho_eq_false_iff
    {position : H256 → Address → Except String (U256 × U128 × U128)} {borrower : Address}
    {market : H256} :
    hasOutstandingDebtMorpho position borrower market = .ok false ↔
      ∃ reply, position market borrower = .ok reply ∧ reply.2.1 = 0 := by
  rw [hasOutstandingDebtMorpho]
  cases position market borrower with
  | error e => simp [bind, Except.bind]
  | ok reply => simp [bind, Except.bind, pure, Except.pure]

end LiqRanger
