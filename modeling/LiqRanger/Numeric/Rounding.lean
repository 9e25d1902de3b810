import Mathlib.Algebra.Order.Floor.Div
import Mathlib.Tactic.Common

/-!
# Products divided with a rounding direction

`x * y / d` rounded down and rounded up, over the natural numbers, and the adjunctions between
the two directions. A chain of such divisions is compared with a bound by moving the bound
through the chain one division at a time.
-/

namespace Rounding

/-- `x * y / d`, rounded down. -/
def mulDivDown (x y d : ℕ) : ℕ := x * y / d

/-- `x * y / d`, rounded up. -/
def mulDivUp (x y d : ℕ) : ℕ := x * y ⌈/⌉ d

variable {x y d n : ℕ}

lemma le_mulDivDown_iff (hd : 0 < d) : n ≤ mulDivDown x y d ↔ n * d ≤ x * y :=
  Nat.le_div_iff_mul_le hd

lemma mulDivUp_le_iff (hd : 0 < d) : mulDivUp x y d ≤ n ↔ x * y ≤ n * d := by
  rw [mulDivUp, ceilDiv_le_iff_le_mul hd, mul_comm d n]

lemma mulDivUp_pos (hxy : 0 < x * y) (hd : 0 < d) : 0 < mulDivUp x y d := by
  by_contra h
  have hle : x * y ≤ 0 * d := (mulDivUp_le_iff hd).mp (Nat.le_of_not_lt h)
  simp [Nat.ne_of_gt hxy] at hle

lemma mulDivDown_mul_le : mulDivDown x y d * d ≤ x * y := Nat.div_mul_le_self _ _

/-- By a rate of at most one. -/
lemma mulDivDown_le_left (h : y ≤ d) : mulDivDown x y d ≤ x := by
  refine Nat.div_le_of_le_mul ?_
  rw [Nat.mul_comm x y]
  exact Nat.mul_le_mul_right x h

lemma mulDivDown_le_right (h : x ≤ d) : mulDivDown x y d ≤ y :=
  Nat.div_le_of_le_mul (Nat.mul_le_mul_right y h)

/-- Rounding up by one rate is adjoint to rounding down by the inverse rate. -/
lemma mulDivUp_le_iff_le_mulDivDown (hy : 0 < y) (hd : 0 < d) :
    mulDivUp x y d ≤ n ↔ x ≤ mulDivDown n d y := by
  rw [mulDivUp_le_iff hd, le_mulDivDown_iff hy]

/-- Both directions agree exactly when the division is exact. -/
lemma mulDivUp_le_mulDivDown_iff (hd : 0 < d) :
    mulDivUp x y d ≤ mulDivDown x y d ↔ d ∣ x * y := by
  rw [mulDivUp_le_iff hd, mulDivDown]
  constructor
  · intro h
    exact Dvd.intro_left _ (le_antisymm (Nat.div_mul_le_self _ _) h)
  · intro h
    exact (Nat.div_mul_cancel h).ge

lemma le_mulDivUp_mul (hd : 0 < d) : x * y ≤ mulDivUp x y d * d :=
  (mulDivUp_le_iff hd).mp (Nat.le_refl _)

lemma mulDivDown_le_mulDivUp (hd : 0 < d) : mulDivDown x y d ≤ mulDivUp x y d :=
  Nat.le_of_mul_le_mul_right (mulDivDown_mul_le.trans (le_mulDivUp_mul hd)) hd

lemma mulDivUp_le_mulDivDown_succ (hd : 0 < d) : mulDivUp x y d ≤ mulDivDown x y d + 1 := by
  rw [mulDivUp_le_iff hd, Nat.mul_comm _ d]
  exact (Nat.lt_mul_div_succ _ hd).le

/-- There and back, rounded down both times. -/
lemma mulDivDown_mulDivDown_le : mulDivDown (mulDivDown x y d) d y ≤ x :=
  Nat.div_le_of_le_mul (mulDivDown_mul_le.trans_eq (Nat.mul_comm x y))

/-- There and back, rounded up both times. -/
lemma le_mulDivUp_mulDivUp (hy : 0 < y) (hd : 0 < d) : x ≤ mulDivUp (mulDivUp x y d) d y :=
  Nat.le_of_mul_le_mul_right ((le_mulDivUp_mul hd).trans (le_mulDivUp_mul hy)) hy

/-! ### Monotonicity -/

section
variable {x' y' d' : ℕ}

lemma mulDivDown_mono (hx : x ≤ x') (hy : y ≤ y') (hd : d' ≤ d) (hd' : 0 < d') :
    mulDivDown x y d ≤ mulDivDown x' y' d' :=
  Nat.div_le_div (Nat.mul_le_mul hx hy) hd hd'.ne'

lemma mulDivUp_mono (hx : x ≤ x') (hy : y ≤ y') (hd : d' ≤ d) (hd' : 0 < d') :
    mulDivUp x y d ≤ mulDivUp x' y' d' := by
  rw [mulDivUp_le_iff (hd'.trans_le hd)]
  calc x * y ≤ x' * y' := Nat.mul_le_mul hx hy
    _ ≤ mulDivUp x' y' d' * d' := le_mulDivUp_mul hd'
    _ ≤ mulDivUp x' y' d' * d := Nat.mul_le_mul_left _ hd

end

/-- The remainder-free form of rounding up that avoids a division of zero. -/
lemma mulDivUp_eq_add_pred_div : mulDivUp x y d = (x * y + d - 1) / d := rfl

end Rounding
