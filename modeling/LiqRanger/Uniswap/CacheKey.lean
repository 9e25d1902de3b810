import LiqRanger.Core.Word

/-!
# Keys of the route cache

A key keeps an order of magnitude of the amount, taken from its bit length, and the last digit of
the amount at that scale. The order of magnitude spans three or four bit lengths, so the scaled
amount has two digits, and all but the smallest and the largest keys group amounts that are far
apart (`groupsComparable_iff`).
-/

namespace LiqRanger

@[ext] structure CacheKey where
  srcToken : Address
  destToken : Address
  amountBucket : U64
  deriving DecidableEq

/-- The order of magnitude, from the bit length. -/
def approxMagnitude (amount : U256) : ℕ := amount.bits * 301 / 1000

def CacheKey.asU64 (x : U256) : Except Panic U64 :=
  if x.toNat < 2 ^ 64 then .ok (x.setWidth 64)
  else .error ⟨"Integer overflow when casting to u64"⟩

def CacheKey.new (srcToken destToken : Address) (amount : U256) : Except Panic CacheKey := do
  if amount = 0 then
    return ⟨srcToken, destToken, 0⟩
  let scalingFactor ← U256.exp10 (approxMagnitude amount - 1)
  let mostSignificant : U64 ←
    if scalingFactor = 0 then pure 0 else do
      let quotient ← CacheKey.asU64 (← U256.div amount scalingFactor)
      pure (quotient % 10)
  return ⟨srcToken, destToken, .ofNat 64 (approxMagnitude amount * 10) + mostSignificant⟩

/-! ### Buckets -/

/-- The order of magnitude of a number that is not zero. -/
def magnitude (n : ℕ) : ℕ := (n.log2 + 1) * 301 / 1000

/-- The last digit at the scale of the magnitude. -/
def scaledDigit (n : ℕ) : ℕ := n / 10 ^ (magnitude n - 1) % 10

/-- The bucket of a number that is not zero. -/
def bucket (n : ℕ) : ℕ := magnitude n * 10 + scaledDigit n

lemma scaledDigit_lt (n : ℕ) : scaledDigit n < 10 := Nat.mod_lt _ (by decide)

/-- A bucket has one magnitude and one digit. -/
lemma bucket_eq_iff {m n : ℕ} :
    bucket m = bucket n ↔ magnitude m = magnitude n ∧ scaledDigit m = scaledDigit n := by
  have hm := scaledDigit_lt m
  have hn := scaledDigit_lt n
  simp only [bucket]
  omega

lemma magnitude_mono {m n : ℕ} (hm : m ≠ 0) (h : m ≤ n) : magnitude m ≤ magnitude n := by
  have hn : n ≠ 0 := Nat.ne_of_gt (Nat.lt_of_lt_of_le (Nat.pos_of_ne_zero hm) h)
  have hlog : m.log2 ≤ n.log2 := (Nat.le_log2 hn).mpr ((Nat.log2_self_le hm).trans h)
  exact Nat.div_le_div_right (Nat.mul_le_mul_right _ (Nat.succ_le_succ hlog))

/-- At every scale, the numbers from about eleven units on and below fifty have one magnitude. -/
lemma magnitude_ends : ∀ k < 76,
    magnitude (11 * 10 ^ k - 1) = k + 1 ∧ magnitude (50 * 10 ^ k - 1) = k + 1 := by
  decide

lemma magnitude_eq_of_mem {k n : ℕ} (hk : k < 76) (hlow : 11 * 10 ^ k - 1 ≤ n)
    (hhigh : n ≤ 50 * 10 ^ k - 1) : magnitude n = k + 1 := by
  obtain ⟨hleft, hright⟩ := magnitude_ends k hk
  have hpos : 0 < 10 ^ k := Nat.pow_pos (by decide)
  apply Nat.le_antisymm
  · rw [← hright]
    exact magnitude_mono (by omega) hhigh
  · rw [← hleft]
    exact magnitude_mono (by omega) hlow

/-! ### The key of an amount -/

section
variable {srcToken destToken : Address} {a b : U256}

lemma approxMagnitude_eq (ha : a ≠ 0) : approxMagnitude a = magnitude a.toNat := by
  rw [approxMagnitude, U256.bits_eq ha, magnitude]

/-- No bit length is far above the power of ten of its scale. -/
lemma two_pow_le_scale : ∀ bits ≤ 256, 2 ^ bits ≤ 10 ^ (bits * 301 / 1000 - 1) * 200 := by
  decide +kernel

/-- The scale of an amount fits in a word, and leaves a number of few digits. -/
lemma exists_scale (amount : U256) :
    ∃ scale, U256.exp10 (approxMagnitude amount - 1) = .ok scale ∧ scale ≠ 0 ∧
      scale.toNat = 10 ^ (approxMagnitude amount - 1) ∧ (amount / scale).toNat < 200 := by
  have hbits : amount.bits ≤ 256 := U256.bits_le
  have hmagnitude : approxMagnitude amount ≤ 77 := by
    rw [approxMagnitude]
    omega
  obtain ⟨scale, hscale, hscaleNat⟩ :=
    U256.exp10_returns (n := approxMagnitude amount - 1) (by omega)
  have hne : scale ≠ 0 := by
    rintro rfl
    exact absurd hscaleNat.symm (Nat.pow_pos (by decide)).ne'
  refine ⟨scale, hscale, hne, hscaleNat, ?_⟩
  rw [BitVec.toNat_udiv, hscaleNat]
  by_cases hzero : amount = 0
  · simp [hzero]
  · rw [Nat.div_lt_iff_lt_mul (Nat.pow_pos (by decide)), Nat.mul_comm]
    exact Nat.lt_of_lt_of_le (U256.lt_two_pow_bits hzero) (two_pow_le_scale _ hbits)

/-- No step of a key overflows, and its bucket is the exact one. -/
lemma CacheKey.new_returns (srcToken destToken : Address) (ha : a ≠ 0) :
    ∃ key, CacheKey.new srcToken destToken a = .ok key ∧
    key.srcToken = srcToken ∧ key.destToken = destToken ∧
    key.amountBucket.toNat = bucket a.toNat := by
  obtain ⟨scale, hscale, hne, hscaleNat, hsmall⟩ := exists_scale a
  have hmagnitude : approxMagnitude a ≤ 77 := by
    have hbits : a.bits ≤ 256 := U256.bits_le
    rw [approxMagnitude]
    omega
  have hquotient : (a / scale).toNat = a.toNat / 10 ^ (approxMagnitude a - 1) := by
    rw [BitVec.toNat_udiv, hscaleNat]
  have hfits : (a / scale).toNat < 2 ^ 64 := hsmall.trans (by decide)
  have hdiv : U256.div a scale = .ok (a / scale) :=
    U256.div_eq_ok_iff.mpr ⟨BitVec.toNat_pos_of_ne_zero hne, BitVec.toNat_udiv⟩
  have hdigit : ((a / scale).setWidth 64 % 10 : U64).toNat = scaledDigit a.toNat := by
    rw [BitVec.toNat_umod, BitVec.toNat_setWidth, Nat.mod_eq_of_lt hfits, hquotient,
      approxMagnitude_eq ha]
    rfl
  have htens : (BitVec.ofNat 64 (approxMagnitude a * 10)).toNat = magnitude a.toNat * 10 := by
    rw [BitVec.toNat_ofNat, Nat.mod_eq_of_lt (by omega), approxMagnitude_eq ha]
  refine ⟨⟨srcToken, destToken, .ofNat 64 (approxMagnitude a * 10) + (a / scale).setWidth 64 % 10⟩,
    ?_, rfl, rfl, ?_⟩
  · simp only [CacheKey.new, if_neg ha, hscale, Checked.ok_bind, if_neg hne, hdiv, CacheKey.asU64,
      if_pos hfits]
    rfl
  · have hlt := scaledDigit_lt a.toNat
    rw [approxMagnitude_eq ha] at hmagnitude
    rw [BitVec.toNat_add_of_lt, hdigit, htens, bucket]
    rw [hdigit, htens]
    omega

/-- A key is always there, and it is for its tokens. -/
lemma CacheKey.exists_new (srcToken destToken : Address) (amount : U256) :
    ∃ key, CacheKey.new srcToken destToken amount = .ok key ∧
      key.srcToken = srcToken ∧ key.destToken = destToken := by
  by_cases hzero : amount = 0
  · exact ⟨⟨srcToken, destToken, 0⟩, by rw [CacheKey.new, if_pos hzero]; rfl, rfl, rfl⟩
  · obtain ⟨key, hkey, hsrc, hdest, -⟩ := CacheKey.new_returns srcToken destToken hzero
    exact ⟨key, hkey, hsrc, hdest⟩

/-- Computing a key panics for no amount: the scale fits in a word and is not zero, and the scaled
amount is below 200, which fits in 64 bits. -/
theorem cacheKey_never_panics (srcToken destToken : Address) (amount : U256) :
    (∃ key, CacheKey.new srcToken destToken amount = .ok key) ∧
    ∃ scale, U256.exp10 (approxMagnitude amount - 1) = .ok scale ∧ scale ≠ 0 ∧
      scale.toNat = 10 ^ (approxMagnitude amount - 1) ∧
      (amount / scale).toNat < 200 ∧
      ∃ quotient, CacheKey.asU64 (amount / scale) = .ok quotient := by
  obtain ⟨key, hkey, -⟩ := CacheKey.exists_new srcToken destToken amount
  obtain ⟨scale, hscale, hne, hscaleNat, hsmall⟩ := exists_scale amount
  have hfits : (amount / scale).toNat < 2 ^ 64 := hsmall.trans (by decide)
  exact ⟨⟨key, hkey⟩, scale, hscale, hne, hscaleNat, hsmall, _, if_pos hfits⟩

/-- Two amounts share a key when they share a magnitude and a digit. -/
lemma CacheKey.new_eq_new_iff (ha : a ≠ 0) (hb : b ≠ 0) :
    CacheKey.new srcToken destToken a = CacheKey.new srcToken destToken b ↔
      magnitude a.toNat = magnitude b.toNat ∧ scaledDigit a.toNat = scaledDigit b.toNat := by
  obtain ⟨keyA, hkeyA, hsrcA, hdestA, hbucketA⟩ := CacheKey.new_returns srcToken destToken ha
  obtain ⟨keyB, hkeyB, hsrcB, hdestB, hbucketB⟩ := CacheKey.new_returns srcToken destToken hb
  rw [hkeyA, hkeyB, Except.ok.injEq, ← bucket_eq_iff, ← hbucketA, ← hbucketB, BitVec.toNat_inj]
  constructor
  · rintro rfl
    rfl
  · intro h
    exact CacheKey.ext (hsrcA.trans hsrcB.symm) (hdestA.trans hdestB.symm) h

end

/-! ### Comparable amounts -/

/-- Of two amounts with the key of `amount` the larger is less than twice the smaller. -/
def GroupsComparable (srcToken destToken : Address) (amount : U256) : Prop :=
  ∀ a b : U256, a ≠ 0 → a ≤ b →
    CacheKey.new srcToken destToken a = CacheKey.new srcToken destToken amount →
    CacheKey.new srcToken destToken b = CacheKey.new srcToken destToken amount →
    b.toNat < 2 * a.toNat

/-- Below eight the magnitude is zero. -/
lemma magnitude_eq_zero_iff {n : ℕ} (hn : n ≠ 0) : magnitude n = 0 ↔ n < 8 := by
  have hlog : n.log2 < 3 ↔ n < 2 ^ 3 := Nat.log2_lt hn
  rw [magnitude]
  omega

/-- From the top bit on the magnitude is 77. -/
lemma le_magnitude_iff {n : ℕ} (hn : n ≠ 0) : 77 ≤ magnitude n ↔ 2 ^ 255 ≤ n := by
  have hlog : 255 ≤ n.log2 ↔ 2 ^ 255 ≤ n := Nat.le_log2 hn
  rw [magnitude, ← hlog]
  omega

/-- Below eight the digit is the number. -/
lemma scaledDigit_of_lt {n : ℕ} (hn : n ≠ 0) (h : n < 8) : scaledDigit n = n := by
  rw [scaledDigit, (magnitude_eq_zero_iff hn).mpr h, Nat.zero_sub, Nat.pow_zero, Nat.div_one]
  exact Nat.mod_eq_of_lt (by omega)

lemma scaledDigit_eq {k n q : ℕ} (hmagnitude : magnitude n = k + 1) (hlow : q * 10 ^ k ≤ n)
    (hhigh : n < (q + 1) * 10 ^ k) : scaledDigit n = q % 10 := by
  rw [scaledDigit, hmagnitude, Nat.add_sub_cancel, Nat.div_eq_of_lt_le hlow hhigh]

/-- Every digit of a magnitude between has two numbers, one of at least twice the other. -/
lemma exists_far_apart {k digit : ℕ} (hk : k < 76) (hdigit : digit < 10) :
    ∃ m n, m ≠ 0 ∧ 2 * m ≤ n ∧ n < 2 ^ 256 ∧
      (magnitude m = k + 1 ∧ scaledDigit m = digit) ∧
      magnitude n = k + 1 ∧ scaledDigit n = digit := by
  have hpos : 0 < 10 ^ k := Nat.pow_pos (by decide)
  have hscale : 10 ^ k ≤ 10 ^ 75 := Nat.pow_le_pow_right (by decide) (Nat.le_of_lt_succ hk)
  have hdigits : digit * 10 ^ k ≤ 9 * 10 ^ k := Nat.mul_le_mul_right _ (Nat.le_of_lt_succ hdigit)
  -- just below eleven units and the digit, and forty units and the digit
  have heleven : (11 + digit) * 10 ^ k = 11 * 10 ^ k + digit * 10 ^ k := Nat.add_mul ..
  have hforty : (40 + digit) * 10 ^ k = 40 * 10 ^ k + digit * 10 ^ k := Nat.add_mul ..
  have hlow : magnitude ((11 + digit) * 10 ^ k - 1) = k + 1 :=
    magnitude_eq_of_mem hk (by omega) (by omega)
  have hhigh : magnitude ((40 + digit) * 10 ^ k) = k + 1 :=
    magnitude_eq_of_mem hk (by omega) (by omega)
  have hlowDigit : scaledDigit ((11 + digit) * 10 ^ k - 1) = (10 + digit) % 10 := by
    have hten : (10 + digit) * 10 ^ k = 10 * 10 ^ k + digit * 10 ^ k := Nat.add_mul ..
    have hnext : (10 + digit + 1) * 10 ^ k = (11 + digit) * 10 ^ k := by
      rw [Nat.add_right_comm]
    exact scaledDigit_eq hlow (by omega) (by omega)
  have hhighDigit : scaledDigit ((40 + digit) * 10 ^ k) = (40 + digit) % 10 := by
    have hnext : (40 + digit + 1) * 10 ^ k = (40 + digit) * 10 ^ k + 10 ^ k := Nat.succ_mul ..
    exact scaledDigit_eq hhigh (Nat.le_refl _) (by omega)
  refine ⟨(11 + digit) * 10 ^ k - 1, (40 + digit) * 10 ^ k, by omega, by omega, by omega,
    ⟨hlow, ?_⟩, hhigh, ?_⟩
  · rw [hlowDigit, Nat.add_mod_left, Nat.mod_eq_of_lt hdigit]
  · rw [hhighDigit, show 40 + digit = 10 * 4 + digit from rfl, Nat.mul_add_mod,
      Nat.mod_eq_of_lt hdigit]

/-- Two such amounts share the key of an amount of that magnitude. -/
lemma exists_far_apart_key (srcToken destToken : Address) {amount : U256} (hamount : amount ≠ 0)
    (hpos : 0 < magnitude amount.toNat) (hlt : magnitude amount.toNat < 77) :
    ∃ a b : U256, a ≠ 0 ∧ 2 * a.toNat ≤ b.toNat ∧
      CacheKey.new srcToken destToken a = CacheKey.new srcToken destToken amount ∧
      CacheKey.new srcToken destToken b = CacheKey.new srcToken destToken amount := by
  obtain ⟨m, n, hm, hapart, hn, hkeyM, hkeyN⟩ := exists_far_apart
    (k := magnitude amount.toNat - 1) (by omega) (scaledDigit_lt amount.toNat)
  rw [Nat.sub_add_cancel hpos] at hkeyM hkeyN
  have hmNat : (BitVec.ofNat 256 m).toNat = m := U256.toNat_ofNat_of_lt (by omega)
  have hnNat : (BitVec.ofNat 256 n).toNat = n := U256.toNat_ofNat_of_lt hn
  have hne : ∀ x : U256, x.toNat ≠ 0 → x ≠ 0 := by
    rintro x hx rfl
    exact hx rfl
  have hmne := hne (.ofNat 256 m) (by omega)
  have hnne := hne (.ofNat 256 n) (by omega)
  refine ⟨.ofNat 256 m, .ofNat 256 n, hmne, by omega, ?_, ?_⟩
  · rw [CacheKey.new_eq_new_iff hmne hamount, hmNat]
    exact hkeyM
  · rw [CacheKey.new_eq_new_iff hnne hamount, hnNat]
    exact hkeyN

/-- A key groups comparable amounts exactly when its amounts have at most three bits, or all of
them. -/
theorem groupsComparable_iff (srcToken destToken : Address) {amount : U256} (hamount : amount ≠ 0) :
    GroupsComparable srcToken destToken amount ↔
      amount.toNat < 8 ∨ 2 ^ 255 ≤ amount.toNat := by
  have hamount' := (BitVec.toNat_pos_of_ne_zero hamount).ne'
  constructor
  · intro hgroups
    by_contra hbetween
    rw [not_or, Nat.not_lt, Nat.not_le] at hbetween
    have hzero := magnitude_eq_zero_iff hamount'
    have htop := le_magnitude_iff hamount'
    obtain ⟨a, b, ha, hapart, hkeyA, hkeyB⟩ :=
      exists_far_apart_key srcToken destToken hamount (by omega) (by omega)
    have hclose := hgroups a b ha (BitVec.le_def.mpr (by omega)) hkeyA hkeyB
    omega
  · intro hend a b ha hle hkeyA hkeyB
    have hb : b ≠ 0 := by
      rintro rfl
      exact ha (BitVec.eq_of_toNat_eq (Nat.le_zero.mp (BitVec.le_def.mp hle)))
    have ha' := (BitVec.toNat_pos_of_ne_zero ha).ne'
    have hb' := (BitVec.toNat_pos_of_ne_zero hb).ne'
    rw [CacheKey.new_eq_new_iff ha hamount] at hkeyA
    rw [CacheKey.new_eq_new_iff hb hamount] at hkeyB
    rcases hend with hsmall | hlarge
    · -- the digit is the amount
      have hzero := (magnitude_eq_zero_iff hamount').mpr hsmall
      have hsmallA := (magnitude_eq_zero_iff ha').mp (hkeyA.1.trans hzero)
      have hsmallB := (magnitude_eq_zero_iff hb').mp (hkeyB.1.trans hzero)
      have hdigits := hkeyA.2.trans hkeyB.2.symm
      rw [scaledDigit_of_lt ha' hsmallA, scaledDigit_of_lt hb' hsmallB] at hdigits
      omega
    · -- both have the top bit
      have htop := (le_magnitude_iff hamount').mpr hlarge
      have hlargeA := (le_magnitude_iff ha').mp (htop.trans_eq hkeyA.1.symm)
      have hlt := b.isLt
      omega

/-- The key of 7 groups comparable amounts. -/
theorem groupsComparable_iff_sample : GroupsComparable (.ofNat 20 1) (.ofNat 20 2) 7 :=
  (groupsComparable_iff _ _ (by decide)).mpr (Or.inl (by decide))

/-- The amounts 10 and 60 share a key. -/
theorem cacheKey_shared :
    ¬ ∀ (srcToken destToken : Address) (a b : U256), a ≠ 0 → a ≤ b →
      CacheKey.new srcToken destToken a = CacheKey.new srcToken destToken b →
      b.toNat < 2 * a.toNat := by
  intro h
  have hclose := h (.ofNat 20 1) (.ofNat 20 2) 10 60 (by decide) (by decide)
    ((CacheKey.new_eq_new_iff (by decide) (by decide)).mpr (by decide))
  exact absurd hclose (by decide)

end LiqRanger
