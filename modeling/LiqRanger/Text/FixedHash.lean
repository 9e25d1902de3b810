import LiqRanger.Text.Hex

/-!
# Hashes and their text

Addresses and 32-byte hashes, and what the code relies on of the library that prints and parses
them. The conversions themselves are not part of this repository: `HashText` takes them as
given together with their documented behaviour, and `HashText.reference` is one conversion that
behaves so.
-/

namespace LiqRanger

/-- A string, as its Unicode scalar values. -/
abbrev Text := List Char

/-- A hash of `n` bytes. -/
structure FixedHash (n : ℕ) where
  bytes : List UInt8
  length_bytes : bytes.length = n
  deriving DecidableEq

abbrev Address := FixedHash 20

abbrev H256 := FixedHash 32

namespace FixedHash

@[ext] lemma ext {n : ℕ} {h k : FixedHash n} (heq : h.bytes = k.bytes) : h = k := by
  cases h; cases k; cases heq; rfl

/-- The low `n` bytes of a number, most significant first. -/
def ofNat (n v : ℕ) : FixedHash n :=
  ⟨(List.range n).reverse.map fun i => UInt8.ofNat (v / 256 ^ i), by simp⟩

/-- The hash all of whose bytes are zero. -/
def zero (n : ℕ) : FixedHash n := ⟨List.replicate n 0, by simp⟩

end FixedHash

/-- Text without a leading `0x`. -/
def stripMarker : Text → Text
  | '0' :: 'x' :: cs => cs
  | cs => cs

/-- The number of hexadecimal digits in a text. -/
def hexDigitCount (s : Text) : ℕ := s.countP fun c => (Hex.value c).isSome

/-- All bytes of a hash, in lower case behind `0x`. -/
def FixedHash.hexText {n : ℕ} (h : FixedHash n) : Text := '0' :: 'x' :: Hex.encode h.bytes

/-- The text conversions of a hash of `n` bytes: `{:?}`, `{:#x}`, `{}` and `from_str`. -/
structure HashText (n : ℕ) where
  debug : FixedHash n → Text
  lowerHex : FixedHash n → Text
  display : FixedHash n → Text
  fromStr : Text → Option (FixedHash n)
  debug_eq : ∀ h, debug h = h.hexText
  lowerHex_eq : ∀ h, lowerHex h = h.hexText
  /-- The first two and the last two bytes, with an ellipsis between them. -/
  display_eq : ∀ h, display h =
    '0' :: 'x' :: Hex.encode (h.bytes.take 2) ++ '…' :: Hex.encode (h.bytes.drop (n - 2))
  fromStr_hexText : ∀ h, fromStr h.hexText = some h
  /-- Text is accepted only with exactly `n` bytes of digits. -/
  digits_of_fromStr : ∀ s h, fromStr s = some h → hexDigitCount (stripMarker s) = 2 * n

/-- The text conversions the code uses: one for addresses, one for 32-byte hashes. -/
structure EthersText where
  address : HashText 20
  h256 : HashText 32

@[simp] lemma stripMarker_hexText {n : ℕ} (h : FixedHash n) :
    stripMarker h.hexText = Hex.encode h.bytes := rfl

lemma colon_not_mem_hexText {n : ℕ} (h : FixedHash n) : ':' ∉ h.hexText := by
  simp only [FixedHash.hexText, List.mem_cons, not_or]
  exact ⟨by decide, by decide, Hex.colon_not_mem_encode h.bytes⟩

lemma hexDigitCount_encode (bs : List UInt8) : hexDigitCount (Hex.encode bs) = 2 * bs.length := by
  rw [hexDigitCount, List.countP_eq_length.mpr fun c hc => Hex.value_isSome_of_mem_encode hc,
    Hex.length_encode]

namespace HashText

/-- The hexadecimal text of a hash of another length is refused. -/
lemma fromStr_hexText_of_ne {n m : ℕ} (T : HashText n) (h : FixedHash m) (hne : m ≠ n) :
    T.fromStr h.hexText = none := by
  by_contra hsome
  obtain ⟨k, hk⟩ := Option.ne_none_iff_exists'.mp hsome
  have hdigits := T.digits_of_fromStr _ _ hk
  rw [stripMarker_hexText, hexDigitCount_encode, h.length_bytes] at hdigits
  omega

/-- The abbreviated text of a hash of more than four bytes is refused. -/
lemma fromStr_display {n : ℕ} (T : HashText n) (hn : 4 < n) (h : FixedHash n) :
    T.fromStr (T.display h) = none := by
  by_contra hsome
  obtain ⟨k, hk⟩ := Option.ne_none_iff_exists'.mp hsome
  have hdigits := T.digits_of_fromStr _ _ hk
  have hell : (Hex.value '…').isSome = false := by decide
  have htake := hexDigitCount_encode (h.bytes.take 2)
  have hdrop := hexDigitCount_encode (h.bytes.drop (n - 2))
  rw [T.display_eq, List.cons_append, List.cons_append, stripMarker] at hdigits
  simp only [hexDigitCount, List.countP_append, List.countP_cons, hell] at hdigits htake hdrop
  rw [htake, hdrop, List.length_take, List.length_drop, h.length_bytes] at hdigits
  simp only [Bool.false_eq_true, if_false] at hdigits
  omega

/-- Conversions that read the digits behind the marker and check the length. -/
def reference (n : ℕ) : HashText n where
  debug := FixedHash.hexText
  lowerHex := FixedHash.hexText
  display h :=
    '0' :: 'x' :: Hex.encode (h.bytes.take 2) ++ '…' :: Hex.encode (h.bytes.drop (n - 2))
  fromStr s :=
    match Hex.decode (stripMarker s) with
    | some bs => if hlen : bs.length = n then some ⟨bs, hlen⟩ else none
    | none => none
  debug_eq _ := rfl
  lowerHex_eq _ := rfl
  display_eq _ := rfl
  fromStr_hexText h := by
    simp only [stripMarker_hexText, Hex.decode_encode, h.length_bytes, dif_pos]
  digits_of_fromStr s h hs := by
    split at hs
    · rename_i bs hbs
      obtain ⟨hlen, hval⟩ := Hex.length_of_decode hbs
      split at hs
      · rename_i hn
        rw [hexDigitCount, List.countP_eq_length.mpr hval, hlen, hn]
      · cases hs
    · cases hs

end HashText

/-- Reference conversions for both kinds of hash. -/
def EthersText.reference : EthersText := ⟨.reference 20, .reference 32⟩

end LiqRanger
