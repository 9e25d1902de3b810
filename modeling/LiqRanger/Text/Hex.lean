import Mathlib.Tactic.Common
import Mathlib.Tactic.IntervalCases

/-!
# Hexadecimal text

Bytes written as two lower-case hexadecimal digits each, and read back.
-/

namespace Hex

/-- The digit of a value below sixteen. -/
def digit (v : ℕ) : Char :=
  if v < 10 then Char.ofNat (48 + v) else Char.ofNat (87 + v)

/-- The value of a digit, upper or lower case. -/
def value (c : Char) : Option ℕ :=
  if '0' ≤ c ∧ c ≤ '9' then some (c.toNat - 48)
  else if 'a' ≤ c ∧ c ≤ 'f' then some (c.toNat - 87)
  else if 'A' ≤ c ∧ c ≤ 'F' then some (c.toNat - 55)
  else none

/-- Two digits for each byte, high half first. -/
def encode : List UInt8 → List Char
  | [] => []
  | b :: bs => digit (b.toNat / 16) :: digit (b.toNat % 16) :: encode bs

/-- Read an even number of digits; anything else is refused. -/
def decode : List Char → Option (List UInt8)
  | [] => some []
  | [_] => none
  | c :: d :: cs => do
    let hi ← value c
    let lo ← value d
    let bs ← decode cs
    return UInt8.ofNat (16 * hi + lo) :: bs

lemma value_digit {v : ℕ} (hv : v < 16) : value (digit v) = some v := by
  interval_cases v <;> decide

lemma digit_ne_colon {v : ℕ} (hv : v < 16) : digit v ≠ ':' := by
  interval_cases v <;> decide

@[simp] lemma length_encode (bs : List UInt8) : (encode bs).length = 2 * bs.length := by
  induction bs with
  | nil => rfl
  | cons b bs ih => simp only [encode, List.length_cons, ih]; omega

lemma colon_not_mem_encode (bs : List UInt8) : ':' ∉ encode bs := by
  induction bs with
  | nil => simp [encode]
  | cons b bs ih =>
    have hb : b.toNat < 256 := b.toNat_lt
    simp only [encode, List.mem_cons, not_or]
    exact ⟨(digit_ne_colon (by omega)).symm, (digit_ne_colon (by omega)).symm, ih⟩

/-- Every character written is a digit. -/
lemma value_isSome_of_mem_encode {bs : List UInt8} {c : Char} (h : c ∈ encode bs) :
    (value c).isSome := by
  induction bs with
  | nil => simp [encode] at h
  | cons b bs ih =>
    have hb : b.toNat < 256 := b.toNat_lt
    simp only [encode, List.mem_cons] at h
    rcases h with rfl | rfl | h
    · rw [value_digit (by omega)]; rfl
    · rw [value_digit (by omega)]; rfl
    · exact ih h

/-- What is written reads back. -/
theorem decode_encode (bs : List UInt8) : decode (encode bs) = some bs := by
  induction bs with
  | nil => rfl
  | cons b bs ih =>
    have hb : b.toNat < 256 := b.toNat_lt
    have hbyte : UInt8.ofNat (16 * (b.toNat / 16) + b.toNat % 16) = b := by
      rw [Nat.div_add_mod]; exact UInt8.ofNat_toNat
    simp only [encode, decode, value_digit (show b.toNat / 16 < 16 by omega),
      value_digit (show b.toNat % 16 < 16 by omega), ih, Option.bind_eq_bind, Option.bind_some,
      Option.pure_def, hbyte]

theorem encode_injective : Function.Injective encode := by
  intro a b h
  have hdecoded := congrArg decode h
  rwa [decode_encode, decode_encode, Option.some.injEq] at hdecoded

/-- Text that reads as bytes has two digits for each of them. -/
lemma length_of_decode {cs : List Char} {bs : List UInt8} (h : decode cs = some bs) :
    cs.length = 2 * bs.length ∧ ∀ c ∈ cs, (value c).isSome := by
  induction cs using decode.induct generalizing bs with
  | case1 => simp only [decode, Option.some.injEq] at h; subst h; simp
  | case2 c => simp [decode] at h
  | case3 c d cs ih =>
    simp only [decode, Option.bind_eq_bind, Option.bind_eq_some_iff, Option.pure_def,
      Option.some.injEq] at h
    obtain ⟨hi, hc, lo, hd, bs', hcs, rfl⟩ := h
    obtain ⟨hlen, hval⟩ := ih hcs
    refine ⟨by simp only [List.length_cons, hlen]; omega, ?_⟩
    intro x hx
    simp only [List.mem_cons] at hx
    rcases hx with rfl | rfl | hx
    · simp [hc]
    · simp [hd]
    · exact hval x hx

end Hex
