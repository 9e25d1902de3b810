import LiqRanger.Uniswap.Adapter
import Mathlib.Tactic.Ring

/-!
# Revert reasons

`parseRevertMessage` looks for an ABI-encoded reason behind the first `0x` of an error. It cuts the
digits off at the first character that is no hexadecimal digit, which is the `x` of the marker
itself: the text always comes back unchanged (`parseRevertMessage_eq_self`).
-/

namespace LiqRanger

open Effect
open UniswapAbi (word padded wordAt)

/-! ### Reasons and their encoding -/

def utf8 (message : Text) : Bytes := message.flatMap String.utf8EncodeChar

/-- The ABI encoding of one string: where it starts, its length, and its bytes in whole words. -/
def encodeString (message : Text) : Bytes := word 32 ++ padded (utf8 message)

/-- The generated decoding of one string, each token as its text. -/
structure RevertAbi where
  decodeString : Bytes → Option (List Text)
  decode_encode : ∀ message, (utf8 message).length < 2 ^ 256 →
    decodeString (encodeString message) = some [message]

/-- The selector of `Error(string)`. -/
def errorSelector : Bytes := [0x08, 0xc3, 0x79, 0xa0]

/-! ### The parser -/

/-- The text from the first occurrence of the pattern on. -/
def findFrom (pattern : Text) : Text → Option Text
  | [] => if pattern = [] then some [] else none
  | c :: cs => if pattern.isPrefixOf (c :: cs) then some (c :: cs) else findFrom pattern cs

/-- `trim_start_matches("0x")`. -/
def trimMarkers : Text → Text
  | '0' :: 'x' :: cs => trimMarkers cs
  | cs => cs

def parseRevertMessage (abi : RevertAbi) (errStr : Text) : Text :=
  let reason : Option Text := do
    let rawHex ← findFrom ['0', 'x'] errStr
    let cleanHex := (rawHex.splitOnP fun c => !c.isHexDigit).head?.getD rawHex
    let bytes ← Hex.decode (trimMarkers cleanHex)
    guard (errorSelector.isPrefixOf bytes ∧ 4 ≤ bytes.length)
    let decoded ← abi.decodeString (bytes.drop 4)
    decoded.head?
  reason.getD errStr

/-! ### The calls behind it -/

structure TransactionRequest where
  sender : Address
  target : Address
  data : Bytes
  value : U256

structure SimResult where
  success : Bool
  returnData : Bytes
  gasUsed : U256
  revertReason : Option Text
  deriving DecidableEq

inductive AnvilOp where
  | call (tx : TransactionRequest) (blockNumber : U64)
  | estimateGas (tx : TransactionRequest) (blockNumber : U64)

/-- An error comes with its text. -/
def AnvilOp.Reply : AnvilOp → Type
  | .call .. => Except Text Bytes
  | .estimateGas .. => Except Text U256

abbrev anvilPorts : Interface := ⟨AnvilOp, AnvilOp.Reply⟩

/-- `simulate_tx_stateless`; it returns on every outcome of its calls. -/
def simulateTxStateless (abi : RevertAbi) (tx : TransactionRequest) (blockNumber : U64) :
    Program anvilPorts Empty SimResult :=
  .call (.call tx blockNumber) fun reply => match reply with
    | .ok returnData => .call (.estimateGas tx blockNumber) fun reply =>
        let gasUsed := match reply with
          | .ok gasUsed => gasUsed
          | .error _ => 500000
        .ret ⟨true, returnData, gasUsed, none⟩
    | .error err => .ret ⟨false, [], 0, some (parseRevertMessage abi err)⟩

/-! ### What the parser returns -/

lemma exists_of_findFrom {c d : Char} {text rawHex : Text}
    (h : findFrom [c, d] text = some rawHex) : ∃ rest, rawHex = c :: d :: rest := by
  induction text with
  | nil => simp [findFrom] at h
  | cons x xs ih =>
    rw [findFrom] at h
    split_ifs at h with hprefix
    · cases h
      obtain ⟨rest, hrest⟩ := List.isPrefixOf_iff_prefix.mp hprefix
      exact ⟨rest, hrest.symm⟩
    · exact ih h

/-- Of the digits only the one before the `x` is left. -/
lemma head?_splitOnP_marker (rest : Text) :
    (('0' :: 'x' :: rest).splitOnP fun c => !c.isHexDigit).head? = some ['0'] := by
  have hzero : (! '0'.isHexDigit) = false := by decide
  have hx : (! 'x'.isHexDigit) = true := by decide
  rw [List.splitOnP_cons_eq_if_modifyHead, hzero, List.splitOnP_cons_eq_if_modifyHead, hx]
  rfl

/-- No text is ever parsed. -/
lemma parseRevertMessage_eq_self (abi : RevertAbi) (errStr : Text) :
    parseRevertMessage abi errStr = errStr := by
  rw [parseRevertMessage]
  cases hfind : findFrom ['0', 'x'] errStr with
  | none => rfl
  | some rawHex =>
    obtain ⟨rest, rfl⟩ := exists_of_findFrom hfind
    simp only [Option.bind_eq_bind, Option.bind_some, head?_splitOnP_marker, Option.getD_some]
    rfl

/-- The reason of a simulation that fails is the text of the error. -/
theorem simulateTxStateless_reason (abi : RevertAbi) (tx : TransactionRequest) (blockNumber : U64)
    {t : List (Event anvilPorts)} {result : SimResult}
    (h : (simulateTxStateless abi tx blockNumber).Trace t (.ok result)) :
    (result.success = true ∧ result.revertReason = none) ∨
      ∃ err : Text, t = [⟨.call tx blockNumber, .error err⟩] ∧
        result = ⟨false, [], 0, some err⟩ := by
  obtain ⟨reply, t', rfl, h⟩ := h
  cases reply with
  | ok returnData =>
    obtain ⟨gasReply, t'', rfl, rfl, hresult⟩ := h
    cases hresult
    exact Or.inl ⟨rfl, rfl⟩
  | error err =>
    obtain ⟨rfl, hresult⟩ := h
    cases hresult
    exact Or.inr ⟨err, rfl, by rw [parseRevertMessage_eq_self]⟩

/-! ### A decoder -/

lemma foldl_bytes_ofNat (k n acc : ℕ) :
    ((FixedHash.ofNat k n).bytes.foldl (fun m byte => m * 256 + byte.toNat) acc)
      = acc * 256 ^ k + n % 256 ^ k := by
  induction k generalizing acc with
  | zero => simp [FixedHash.ofNat, Nat.mod_one]
  | succ k ih =>
    have hbytes : (FixedHash.ofNat (k + 1) n).bytes
        = UInt8.ofNat (n / 256 ^ k) :: (FixedHash.ofNat k n).bytes := by
      simp [FixedHash.ofNat, List.range_succ]
    have hbyte : (UInt8.ofNat (n / 256 ^ k)).toNat = n / 256 ^ k % 256 := UInt8.toNat_ofNat'
    rw [hbytes, List.foldl_cons, ih, hbyte, Nat.mod_pow_succ]
    ring

lemma length_word (n : ℕ) : (word n).length = 32 := FixedHash.length_bytes _

/-- A word of data is read back. -/
lemma wordAt_word_append {n : ℕ} (hn : n < 2 ^ 256) (rest : Bytes) :
    (wordAt (word n ++ rest) 0).toNat = n := by
  have htake : (word n ++ rest).take 32 = word n := List.take_left' (length_word n)
  have hpow : 256 ^ 32 = 2 ^ 256 := by decide
  rw [wordAt, Nat.mul_zero, List.drop_zero, htake, word, foldl_bytes_ofNat, Nat.zero_mul,
    Nat.zero_add, hpow, Nat.mod_eq_of_lt hn, U256.toNat_ofNat_of_lt hn]

lemma utf8Decode_utf8 (message : Text) :
    (utf8 message).toByteArray.utf8Decode? = some message.toArray :=
  List.utf8Decode?_utf8Encode

/-- Read the bytes of the string where the first word says. -/
def RevertAbi.decodeReference (data : Bytes) : Option (List Text) := do
  let tail := data.drop (wordAt data 0).toNat
  let length := (wordAt tail 0).toNat
  guard (32 + length ≤ tail.length)
  let message ← ((tail.drop 32).take length).toByteArray.utf8Decode?
  return [message.toList]

def RevertAbi.reference : RevertAbi where
  decodeString := decodeReference
  decode_encode := by
    intro message hlt
    have hdrop : (encodeString message).drop 32 = padded (utf8 message) :=
      List.drop_left' (length_word 32)
    have hlength : (wordAt (padded (utf8 message)) 0).toNat = (utf8 message).length := by
      rw [padded, List.append_assoc, wordAt_word_append hlt]
    have htail : ((padded (utf8 message)).drop 32).take (utf8 message).length = utf8 message := by
      rw [padded, List.append_assoc, List.drop_left' (length_word _), List.take_left]
    have hfits : 32 + (utf8 message).length ≤ (padded (utf8 message)).length := by
      simp only [padded, List.length_append, length_word]
      omega
    have hoffset : (wordAt (encodeString message) 0).toNat = 32 :=
      wordAt_word_append (by decide) _
    simp [decodeReference, hoffset, hdrop, hlength, hfits, htail, utf8Decode_utf8, guard]

/-! ### Recovered reasons -/

/-- A text with the encoded message behind the marker. -/
def revertText (before message after : Text) : Text :=
  before ++ '0' :: 'x' :: Hex.encode (errorSelector ++ encodeString message) ++ after

/-- The first marker of the text is followed by the encoded message, and that by no digit. -/
def Carries (text message : Text) : Prop :=
  ∃ before after, ¬ ['0', 'x'] <:+: before ∧ (∀ c ∈ after.head?, ¬ c.isHexDigit) ∧
    text = revertText before message after

/-- A message that the text carries is returned, and a text without one unchanged. -/
structure RecoversReason (abi : RevertAbi) (text : Text) : Prop where
  returned : ∀ message, Carries text message → parseRevertMessage abi text = message
  unchanged : (¬ ∃ message, Carries text message) → parseRevertMessage abi text = text

lemma length_le_utf8 (message : Text) : message.length ≤ (utf8 message).length := by
  induction message with
  | nil => exact Nat.le_refl _
  | cons c cs ih =>
    have hpos : 0 < (String.utf8EncodeChar c).length := by
      rw [String.length_utf8EncodeChar]
      exact c.utf8Size_pos
    simp only [utf8, List.flatMap_cons, List.length_append, List.length_cons] at ih ⊢
    omega

/-- A message is shorter than a text that carries it. -/
lemma length_lt_of_carries {text message : Text} (h : Carries text message) :
    message.length < text.length := by
  obtain ⟨before, after, -, -, rfl⟩ := h
  have hle := length_le_utf8 message
  simp only [revertText, encodeString, padded, List.length_append, List.length_cons,
    Hex.length_encode]
  omega

/-- The parser does what it is for exactly on the texts that carry no reason. -/
theorem recoversReason_iff (abi : RevertAbi) (text : Text) :
    RecoversReason abi text ↔ ¬ ∃ message, Carries text message := by
  constructor
  · rintro hrecovers ⟨message, hcarries⟩
    have hmessage := hrecovers.returned message hcarries
    rw [parseRevertMessage_eq_self] at hmessage
    exact absurd (congrArg List.length hmessage) (length_lt_of_carries hcarries).ne'
  · intro hnone
    exact ⟨fun message hcarries => absurd ⟨message, hcarries⟩ hnone,
      fun _ => parseRevertMessage_eq_self abi text⟩

/-- The reason `STF` behind the marker is not returned. -/
theorem recoversReason_fails :
    ¬ ∀ (abi : RevertAbi) (text : Text), RecoversReason abi text := by
  intro h
  have hcarries : Carries (revertText ['e', 'r', 'r', ':', ' '] ['S', 'T', 'F'] [])
      ['S', 'T', 'F'] := ⟨_, [], by decide, by simp, rfl⟩
  have hreturned := (h .reference _).returned _ hcarries
  rw [parseRevertMessage_eq_self] at hreturned
  exact absurd (congrArg List.length hreturned) (length_lt_of_carries hcarries).ne'

end LiqRanger
