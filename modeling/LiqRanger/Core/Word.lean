import LiqRanger.Core.Types
import LiqRanger.Numeric.Checked

/-!
# Words that panic

The arithmetic of 256-bit words as the source uses it where it does not ask for a checked result:
an overflow or a division by zero ends the task.
-/

namespace LiqRanger

/-- The message a task panics with: no error that code could handle. -/
structure Panic where
  message : String
  deriving DecidableEq

namespace U256

def add (x y : U256) : Except Panic U256 :=
  Checked.expect ⟨"arithmetic operation overflow"⟩ (Checked.add x y)

def sub (x y : U256) : Except Panic U256 :=
  Checked.expect ⟨"arithmetic operation overflow"⟩ (Checked.sub x y)

def mul (x y : U256) : Except Panic U256 :=
  Checked.expect ⟨"arithmetic operation overflow"⟩ (Checked.mul x y)

def div (x y : U256) : Except Panic U256 := Checked.expect ⟨"division by zero"⟩ (Checked.div x y)

def exp10 : ℕ → Except Panic U256
  | 0 => return 1
  | n + 1 => do mul 10 (← exp10 n)

/-- The least number of bits that represent `x`. -/
def bits (x : U256) : ℕ := if x = 0 then 0 else x.toNat.log2 + 1

protected def min (a b : U256) : U256 := if a < b then a else b

variable {x y z : U256}

/-- A number that fits is the number of its word. -/
lemma toNat_ofNat_of_lt {n : ℕ} (h : n < 2 ^ 256) : (BitVec.ofNat 256 n).toNat = n := by
  rw [BitVec.toNat_ofNat, Nat.mod_eq_of_lt h]

lemma add_eq_ok_iff : add x y = .ok z ↔ z.toNat = x.toNat + y.toNat := by
  rw [add, Checked.expect_eq_ok_iff, Checked.add_eq_some_iff]

lemma sub_eq_ok_iff : sub x y = .ok z ↔ z.toNat + y.toNat = x.toNat := by
  rw [sub, Checked.expect_eq_ok_iff, Checked.sub_eq_some_iff]

lemma mul_eq_ok_iff : mul x y = .ok z ↔ z.toNat = x.toNat * y.toNat := by
  rw [mul, Checked.expect_eq_ok_iff, Checked.mul_eq_some_iff]

lemma div_eq_ok_iff : div x y = .ok z ↔ 0 < y.toNat ∧ z.toNat = x.toNat / y.toNat := by
  rw [div, Checked.expect_eq_ok_iff, Checked.div_eq_some_iff]

/-- A product divided by a fixed divisor panics only in the product. -/
lemma mul_div_eq_ok_iff {d : U256} (hd : 0 < d.toNat) :
    (mul x y >>= fun n => div n d) = .ok z ↔
      x.toNat * y.toNat < 2 ^ 256 ∧ z.toNat = x.toNat * y.toNat / d.toNat := by
  simp only [Checked.bind_eq_ok_iff, mul_eq_ok_iff, div_eq_ok_iff]
  constructor
  · rintro ⟨n, hn, -, hz⟩
    exact ⟨hn ▸ n.isLt, by rw [hz, hn]⟩
  · rintro ⟨hlt, hz⟩
    have hn : (x * y).toNat = x.toNat * y.toNat := BitVec.toNat_mul_of_lt hlt
    exact ⟨x * y, hn, hd, by rw [hz, hn]⟩

lemma bits_eq (hx : x ≠ 0) : x.bits = x.toNat.log2 + 1 := if_neg hx

lemma bits_le : x.bits ≤ 256 := by
  by_cases hx : x = 0
  · simp [bits, hx]
  · rw [bits_eq hx]
    exact (Nat.log2_lt (BitVec.toNat_pos_of_ne_zero hx).ne').mpr x.isLt

lemma lt_two_pow_bits (hx : x ≠ 0) : x.toNat < 2 ^ x.bits := by
  rw [bits_eq hx]
  exact Nat.lt_log2_self

lemma toNat_min : (U256.min x y).toNat = Min.min x.toNat y.toNat := by
  by_cases h : x < y
  · rw [U256.min, if_pos h, Nat.min_eq_left (Nat.le_of_lt h)]
  · rw [U256.min, if_neg h, Nat.min_eq_right (BitVec.not_lt.mp h)]

end U256

/-! ### Powers of ten -/

lemma U256.exp10_eq_ok_iff {n : ℕ} {x : U256} : U256.exp10 n = .ok x ↔ x.toNat = 10 ^ n := by
  induction n generalizing x with
  | zero =>
    rw [U256.exp10, pow_zero]
    constructor
    · intro h
      obtain rfl := Except.ok.inj h
      rfl
    · intro h
      exact congrArg Except.ok (BitVec.eq_of_toNat_eq h.symm)
  | succ n ih =>
    simp only [U256.exp10, Checked.bind_eq_ok_iff, ih, U256.mul, Checked.expect_eq_ok_iff,
      Checked.mul_eq_some_iff]
    have hten : (10 : U256).toNat = 10 := rfl
    constructor
    · rintro ⟨y, hy, hx⟩
      rw [hx, hy, hten, pow_succ']
    · intro hx
      have hlt : 10 ^ n < 2 ^ 256 := by
        refine lt_of_le_of_lt ?_ x.isLt
        rw [hx]
        exact Nat.pow_le_pow_right (by decide) (Nat.le_succ n)
      have hvalue : (BitVec.ofNat 256 (10 ^ n)).toNat = 10 ^ n := U256.toNat_ofNat_of_lt hlt
      exact ⟨_, hvalue, by rw [hx, hvalue, hten, pow_succ']⟩

/-- A power of ten fits in 256 bits up to the exponent 77. -/
lemma pow_ten_lt_iff {n : ℕ} : 10 ^ n < 2 ^ 256 ↔ n ≤ 77 := by
  constructor
  · intro h
    by_contra hlarge
    have : 10 ^ 78 ≤ 10 ^ n := Nat.pow_le_pow_right (by decide) (by omega)
    omega
  · intro h
    have : 10 ^ n ≤ 10 ^ 77 := Nat.pow_le_pow_right (by decide) h
    omega

lemma U256.exp10_returns {n : ℕ} (h : n ≤ 77) :
    ∃ x, U256.exp10 n = .ok x ∧ x.toNat = 10 ^ n := by
  have hvalue : (BitVec.ofNat 256 (10 ^ n)).toNat = 10 ^ n :=
    U256.toNat_ofNat_of_lt (pow_ten_lt_iff.mpr h)
  exact ⟨_, U256.exp10_eq_ok_iff.mpr hvalue, hvalue⟩

lemma U256.exp10_panics {n : ℕ} (h : 77 < n) : ∃ p, U256.exp10 n = .error p := by
  cases hpow : U256.exp10 n with
  | error p => exact ⟨p, rfl⟩
  | ok x =>
    have hlt := x.isLt
    rw [U256.exp10_eq_ok_iff.mp hpow, pow_ten_lt_iff] at hlt
    omega

end LiqRanger
