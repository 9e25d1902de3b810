import LiqRanger.Uniswap.Adapter

/-!
# Paths

A path has no separators: its reader counts twenty bytes for a token and three for a fee. What it
reads back are the tokens and the fees with their highest byte cleared
(`decodeV3Path_encodeV3Path`), so that routes whose fees need no more than three bytes have
different paths.
-/

namespace LiqRanger

/-! ### Reading a path -/

def readToken (data : Bytes) : Option (Address × Bytes) :=
  if h : (data.take 20).length = 20 then some (⟨data.take 20, h⟩, data.drop 20) else none

/-- Three bytes, the most significant first. -/
def readFee : Bytes → Option (UInt32 × Bytes)
  | high :: mid :: low :: rest =>
    some (.ofNat (high.toNat * 65536 + mid.toNat * 256 + low.toNat), rest)
  | _ => none

/-- A token and, while bytes are left, a fee and the next token; at most `hops` fees. -/
def readPath : ℕ → Bytes → Option (List Address × List UInt32)
  | 0, data => do
    let (token, rest) ← readToken data
    if rest = [] then return ([token], []) else none
  | hops + 1, data => do
    let (token, rest) ← readToken data
    if rest = [] then return ([token], []) else
      let (fee, rest) ← readFee rest
      let (tokens, fees) ← readPath hops rest
      return (token :: tokens, fee :: fees)

/-- A path has fewer fees than bytes. -/
def decodeV3Path (path : Bytes) : Option (List Address × List UInt32) :=
  readPath path.length path

/-! ### What is written -/

section
variable {token : Address} {tokens : List Address} {fee : UInt32} {fees : List UInt32}
  {rest : Bytes} {hops : ℕ}

lemma encodeV3Path_singleton (hlength : [token].length = ([] : List UInt32).length + 1) :
    encodeV3Path [token] [] hlength = token.bytes := by
  simp [encodeV3Path]

lemma encodeV3Path_cons (hlength : (token :: tokens).length = (fee :: fees).length + 1) :
    encodeV3Path (token :: tokens) (fee :: fees) hlength
      = token.bytes ++ ((beBytes fee).extract 1 4
        ++ encodeV3Path tokens fees (Nat.succ.inj hlength)) := by
  have hne : tokens ≠ [] := List.ne_nil_of_length_eq_add_one (Nat.succ.inj hlength)
  simp [encodeV3Path, List.getLast_cons hne]

lemma length_extract_beBytes (fee : UInt32) : ((beBytes fee).extract 1 4).length = 3 := rfl

lemma length_encodeV3Path (hlength : tokens.length = fees.length + 1) :
    (encodeV3Path tokens fees hlength).length = 20 * tokens.length + 3 * fees.length := by
  induction fees generalizing tokens with
  | nil =>
    obtain ⟨token, rfl⟩ := List.length_eq_one_iff.mp hlength
    rw [encodeV3Path_singleton, token.length_bytes]
    rfl
  | cons fee fees ih =>
    cases tokens with
    | nil => cases hlength
    | cons token tokens =>
      rw [encodeV3Path_cons, List.length_append, List.length_append, token.length_bytes,
        length_extract_beBytes, ih]
      simp only [List.length_cons]
      omega

/-! ### What is read back -/

lemma readToken_append : readToken (token.bytes ++ rest) = some (token, rest) := by
  have htake : (token.bytes ++ rest).take 20 = token.bytes :=
    List.take_left' token.length_bytes
  have hdrop : (token.bytes ++ rest).drop 20 = rest := List.drop_left' token.length_bytes
  have hlength : ((token.bytes ++ rest).take 20).length = 20 := by
    rw [htake, token.length_bytes]
  rw [readToken, dif_pos hlength, hdrop]
  exact congrArg (fun token => some (token, rest)) (FixedHash.ext htake)

/-- The three bytes of a fee are the fee without its highest byte. -/
lemma readFee_append :
    readFee ((beBytes fee).extract 1 4 ++ rest) = some (fee % 16777216, rest) := by
  have hbytes : (beBytes fee).extract 1 4 ++ rest
      = (fee >>> 16).toUInt8 :: (fee >>> 8).toUInt8 :: fee.toUInt8 :: rest := rfl
  have hfee : UInt32.ofNat ((fee >>> 16).toUInt8.toNat * 65536 + (fee >>> 8).toUInt8.toNat * 256
      + fee.toUInt8.toNat) = fee % 16777216 := by
    apply UInt32.toNat_inj.mp
    have hlt := fee.toNat_lt
    simp [UInt32.toNat_mod, Nat.shiftRight_eq_div_pow]
    omega
  rw [hbytes, readFee, hfee]

lemma readPath_encodeV3Path (hlength : tokens.length = fees.length + 1)
    (hhops : fees.length ≤ hops) :
    readPath hops (encodeV3Path tokens fees hlength)
      = some (tokens, fees.map fun fee => fee % 16777216) := by
  induction fees generalizing tokens hops with
  | nil =>
    obtain ⟨token, rfl⟩ := List.length_eq_one_iff.mp hlength
    have hread : readToken (token.bytes ++ []) = some (token, []) := readToken_append
    rw [List.append_nil] at hread
    rw [encodeV3Path_singleton]
    cases hops <;> simp [readPath, hread]
  | cons fee fees ih =>
    cases tokens with
    | nil => cases hlength
    | cons token tokens =>
      cases hops with
      | zero => cases hhops
      | succ hops =>
        have hrest := ih (Nat.succ.inj hlength) (Nat.le_of_succ_le_succ hhops)
        have hne : (beBytes fee).extract 1 4 ++ encodeV3Path tokens fees (Nat.succ.inj hlength)
            ≠ [] := fun h => by cases h
        simp only [encodeV3Path_cons, readPath, readToken_append, Option.bind_eq_bind,
          Option.bind_some, if_neg hne, readFee_append, hrest, List.map_cons, Option.pure_def]

/-- The tokens come back, and the fees modulo `2 ^ 24`. -/
lemma decodeV3Path_encodeV3Path (hlength : tokens.length = fees.length + 1) :
    decodeV3Path (encodeV3Path tokens fees hlength)
      = some (tokens, fees.map fun fee => fee % 16777216) := by
  apply readPath_encodeV3Path
  rw [length_encodeV3Path]
  omega

lemma fee_mod_eq_self_iff : fee % 16777216 = fee ↔ fee.toNat < 2 ^ 24 := by
  rw [← UInt32.toNat_inj, UInt32.toNat_mod]
  exact Nat.mod_eq_iff_lt (by decide)

/-- Exactly the fees of three bytes come back. -/
lemma decodeV3Path_eq_iff (hlength : tokens.length = fees.length + 1) :
    decodeV3Path (encodeV3Path tokens fees hlength) = some (tokens, fees) ↔
      ∀ fee ∈ fees, fee.toNat < 2 ^ 24 := by
  have hmap : (fees.map fun fee => fee % 16777216) = fees ↔
      ∀ fee ∈ fees, fee.toNat < 2 ^ 24 := by
    conv_lhs => rw [← List.map_id fees, List.map_map, List.map_inj_left]
    simp only [Function.comp_apply, id, fee_mod_eq_self_iff]
  rw [decodeV3Path_encodeV3Path, Option.some.injEq, Prod.mk.injEq, hmap, and_iff_right rfl]

end

/-- A path has the length of its tokens and fees and gives both back, so no other route has it. -/
theorem encodeV3Path_lossless (tokens : List Address) (fees : List UInt32)
    (hlength : tokens.length = fees.length + 1) (hfees : ∀ fee ∈ fees, fee.toNat < 2 ^ 24) :
    (encodeV3Path tokens fees hlength).length = 20 * tokens.length + 3 * fees.length ∧
    decodeV3Path (encodeV3Path tokens fees hlength) = some (tokens, fees) ∧
    ∀ (tokens' : List Address) (fees' : List UInt32) (hlength' : tokens'.length = fees'.length + 1),
      (∀ fee ∈ fees', fee.toNat < 2 ^ 24) →
      encodeV3Path tokens' fees' hlength' = encodeV3Path tokens fees hlength →
      tokens' = tokens ∧ fees' = fees := by
  have hback := (decodeV3Path_eq_iff hlength).mpr hfees
  refine ⟨length_encodeV3Path hlength, hback, ?_⟩
  intro tokens' fees' hlength' hfees' hpath
  have hback' := (decodeV3Path_eq_iff hlength').mpr hfees'
  rw [hpath, hback, Option.some.injEq, Prod.mk.injEq] at hback'
  exact ⟨hback'.1.symm, hback'.2.symm⟩

/-- A route over one hub. -/
theorem encodeV3Path_lossless_sample :
    (encodeV3Path [.ofNat 20 1, .ofNat 20 2, .ofNat 20 3] [500, 3000] rfl).length = 66 ∧
    decodeV3Path (encodeV3Path [.ofNat 20 1, .ofNat 20 2, .ofNat 20 3] [500, 3000] rfl)
      = some ([.ofNat 20 1, .ofNat 20 2, .ofNat 20 3], [500, 3000]) := by
  have hfees : ∀ fee ∈ ([500, 3000] : List UInt32), fee.toNat < 2 ^ 24 := by simp
  obtain ⟨hlength, hback, -⟩ := encodeV3Path_lossless [.ofNat 20 1, .ofNat 20 2, .ofNat 20 3]
    [500, 3000] rfl hfees
  exact ⟨hlength, hback⟩

end LiqRanger
