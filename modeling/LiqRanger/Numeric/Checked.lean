import Mathlib.Algebra.Group.Nat.Defs
import Mathlib.Tactic.Common

/-!
# Checked arithmetic on machine words

Addition, subtraction, multiplication and division of words that answer nothing instead of
wrapping around. Each operation has one specification: a result is answered exactly when it is
the result over the natural numbers.
-/

namespace Checked

universe u v

variable {w : ℕ} {ε : Type u}

def add (x y : BitVec w) : Option (BitVec w) :=
  if x.toNat + y.toNat < 2 ^ w then some (x + y) else none

def sub (x y : BitVec w) : Option (BitVec w) :=
  if y ≤ x then some (x - y) else none

def mul (x y : BitVec w) : Option (BitVec w) :=
  if x.toNat * y.toNat < 2 ^ w then some (x * y) else none

def div (x y : BitVec w) : Option (BitVec w) :=
  if y = 0 then none else some (x / y)

/-- Unwrap a checked result, or stop with `e`. -/
def expect {α : Type*} (e : ε) : Option α → Except ε α
  | some a => .ok a
  | none => .error e

variable {x y z : BitVec w}

lemma add_eq_some_iff : add x y = some z ↔ z.toNat = x.toNat + y.toNat := by
  constructor
  · intro h
    by_cases hlt : x.toNat + y.toNat < 2 ^ w
    · rw [add, if_pos hlt, Option.some.injEq] at h
      rw [← h, BitVec.toNat_add_of_lt hlt]
    · rw [add, if_neg hlt] at h
      cases h
  · intro h
    have hlt : x.toNat + y.toNat < 2 ^ w := h ▸ z.isLt
    rw [add, if_pos hlt, Option.some.injEq]
    exact BitVec.eq_of_toNat_eq (by rw [BitVec.toNat_add_of_lt hlt, h])

lemma sub_eq_some_iff : sub x y = some z ↔ z.toNat + y.toNat = x.toNat := by
  constructor
  · intro h
    by_cases hle : y ≤ x
    · rw [sub, if_pos hle, Option.some.injEq] at h
      rw [← h, BitVec.toNat_sub_of_le hle]
      exact Nat.sub_add_cancel hle
    · rw [sub, if_neg hle] at h
      cases h
  · intro h
    have hle : y ≤ x := BitVec.le_def.mpr (h ▸ Nat.le_add_left _ _)
    rw [sub, if_pos hle, Option.some.injEq]
    exact BitVec.eq_of_toNat_eq (by rw [BitVec.toNat_sub_of_le hle, ← h, Nat.add_sub_cancel])

lemma mul_eq_some_iff : mul x y = some z ↔ z.toNat = x.toNat * y.toNat := by
  constructor
  · intro h
    by_cases hlt : x.toNat * y.toNat < 2 ^ w
    · rw [mul, if_pos hlt, Option.some.injEq] at h
      rw [← h, BitVec.toNat_mul_of_lt hlt]
    · rw [mul, if_neg hlt] at h
      cases h
  · intro h
    have hlt : x.toNat * y.toNat < 2 ^ w := h ▸ z.isLt
    rw [mul, if_pos hlt, Option.some.injEq]
    exact BitVec.eq_of_toNat_eq (by rw [BitVec.toNat_mul_of_lt hlt, h])

lemma mul_eq_none_iff : mul x y = none ↔ 2 ^ w ≤ x.toNat * y.toNat := by
  rw [mul]
  split
  · next hlt => simp [hlt]
  · next hge => simpa using hge

/-- A product is answered or does not fit. -/
lemma mul_cases (x y : BitVec w) :
    (∃ z, mul x y = some z ∧ z.toNat = x.toNat * y.toNat) ∨
      (mul x y = none ∧ ¬ x.toNat * y.toNat < 2 ^ w) := by
  cases h : mul x y with
  | some z => exact Or.inl ⟨z, rfl, mul_eq_some_iff.mp h⟩
  | none => exact Or.inr ⟨rfl, Nat.not_lt.mpr (mul_eq_none_iff.mp h)⟩

lemma div_eq_some_iff :
    div x y = some z ↔ 0 < y.toNat ∧ z.toNat = x.toNat / y.toNat := by
  by_cases hy : y = 0
  · simp [div, hy]
  · have hpos : 0 < y.toNat :=
      Nat.pos_of_ne_zero fun h => hy (BitVec.eq_of_toNat_eq (by simpa using h))
    rw [div, if_neg hy, Option.some.injEq]
    constructor
    · rintro rfl
      exact ⟨hpos, BitVec.toNat_udiv⟩
    · rintro ⟨-, h⟩
      exact BitVec.eq_of_toNat_eq (by rw [BitVec.toNat_udiv, h])

@[simp] lemma expect_eq_ok_iff {α : Type*} {e : ε} {o : Option α} {a : α} :
    expect e o = .ok a ↔ o = some a := by
  cases o <;> simp [expect]

lemma ok_bind {α β : Type v} (a : α) (f : α → Except ε β) : (Except.ok a >>= f) = f a := rfl

lemma error_bind {α β : Type v} (e : ε) (f : α → Except ε β) :
    (Except.error e >>= f) = .error e := rfl

/-- A computation returns when its first part does and the rest returns on that value. -/
lemma bind_eq_ok_iff {α β : Type v} {p : Except ε α} {f : α → Except ε β} {b : β} :
    (p >>= f) = .ok b ↔ ∃ a, p = .ok a ∧ f a = .ok b := by
  cases p with
  | error e => simp [bind, Except.bind]
  | ok a => simp [bind, Except.bind]

end Checked
