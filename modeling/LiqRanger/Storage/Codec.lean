import Mathlib.Data.Nat.Basic
import Mathlib.Tactic.Common
import Mathlib.Tactic.NormNum

/-!
# Self-delimiting encodings

A codec writes values as bytes and reads them back from the front of any bytes that begin so,
whatever follows. Codecs are put together: words of a fixed width, least significant byte first,
values behind a checked change of representation, and lists behind their length.
-/

/-- An encoding that says by itself where it ends. -/
structure Codec (α : Type) where
  write : α → List UInt8
  read : List UInt8 → Option (α × List UInt8)
  read_write_append : ∀ a rest, read (write a ++ rest) = some (a, rest)

namespace Codec

variable {α β : Type}

lemma read_write (C : Codec α) (a : α) : C.read (C.write a) = some (a, []) := by
  have h := C.read_write_append a []
  rwa [List.append_nil] at h

/-- No two values are written alike. -/
theorem write_injective (C : Codec α) : Function.Injective C.write := by
  intro a b h
  have hread := C.read_write a
  rw [h, C.read_write, Option.some.injEq, Prod.mk.injEq] at hread
  exact hread.1.symm

/-! ### Words -/

/-- The `w` low bytes of a number, least significant first. -/
def lowBytes : ℕ → ℕ → List UInt8
  | 0, _ => []
  | w + 1, n => UInt8.ofNat n :: lowBytes w (n / 256)

/-- The number whose bytes these are. -/
def number : List UInt8 → ℕ
  | [] => 0
  | b :: bs => b.toNat + 256 * number bs

@[simp] lemma length_lowBytes (w n : ℕ) : (lowBytes w n).length = w := by
  induction w generalizing n with
  | zero => rfl
  | succ w ih => simp [lowBytes, ih]

/-- A number below `256 ^ w` is the number of its `w` low bytes. -/
lemma number_lowBytes {w n : ℕ} (h : n < 256 ^ w) : number (lowBytes w n) = n := by
  induction w generalizing n with
  | zero =>
    rw [pow_zero, Nat.lt_one_iff] at h
    rw [h]
    rfl
  | succ w ih =>
    have hhigh : n / 256 < 256 ^ w := by
      apply Nat.div_lt_of_lt_mul
      rwa [← pow_succ']
    have hlow : (UInt8.ofNat n).toNat = n % 256 := rfl
    rw [lowBytes, number, ih hhigh, hlow]
    omega

/-- A word of `w` bytes. -/
def word (w : ℕ) : Codec (BitVec (8 * w)) where
  write x := lowBytes w x.toNat
  read bs :=
    if w ≤ bs.length then some (BitVec.ofNat (8 * w) (number (bs.take w)), bs.drop w) else none
  read_write_append x rest := by
    have hx : x.toNat < 256 ^ w := by
      have hlt := x.isLt
      rwa [pow_mul] at hlt
    have htake : (lowBytes w x.toNat ++ rest).take w = lowBytes w x.toNat :=
      List.take_left' (length_lowBytes _ _)
    have hdrop : (lowBytes w x.toNat ++ rest).drop w = rest :=
      List.drop_left' (length_lowBytes _ _)
    rw [if_pos (by simp), htake, hdrop, number_lowBytes hx, BitVec.ofNat_toNat, BitVec.setWidth_eq]

/-! ### Representations -/

/-- The values of `β` written as the values of `α` that stand for them. -/
def via (C : Codec α) (toRep : β → α) (ofRep : α → Option β)
    (h : ∀ b, ofRep (toRep b) = some b) : Codec β where
  write b := C.write (toRep b)
  read bs := do
    let (a, rest) ← C.read bs
    return (← ofRep a, rest)
  read_write_append b rest := by simp [C.read_write_append, h]

/-! ### Lists -/

/-- Read `n` values one after the other. -/
def readMany (C : Codec α) : ℕ → List UInt8 → Option (List α × List UInt8)
  | 0, bs => some ([], bs)
  | n + 1, bs => do
    let (a, bs) ← C.read bs
    let (l, bs) ← readMany C n bs
    return (a :: l, bs)

lemma readMany_flatMap_write (C : Codec α) (l : List α) (rest : List UInt8) :
    C.readMany l.length (l.flatMap C.write ++ rest) = some (l, rest) := by
  induction l with
  | nil => rfl
  | cons a l ih =>
    simp [readMany, List.append_assoc, C.read_write_append, ih]

/-- The lists whose length fits in eight bytes. -/
abbrev Short (α : Type) := { l : List α // l.length < 2 ^ 64 }

/-- The length in eight bytes, then the values. -/
def counted (C : Codec α) : Codec (Short α) where
  write l := (word 8).write (BitVec.ofNat 64 l.val.length) ++ l.val.flatMap C.write
  read bs := do
    let (n, bs) ← (word 8).read bs
    let (l, bs) ← C.readMany n.toNat bs
    if h : l.length < 2 ^ 64 then some (⟨l, h⟩, bs) else none
  read_write_append l rest := by
    have hcount : (BitVec.ofNat 64 l.val.length).toNat = l.val.length := by
      rw [BitVec.toNat_ofNat, Nat.mod_eq_of_lt l.property]
    rw [List.append_assoc, (word 8).read_write_append]
    simp only [Option.bind_eq_bind, Option.bind_some, hcount, readMany_flatMap_write,
      l.property, dif_pos]

end Codec
