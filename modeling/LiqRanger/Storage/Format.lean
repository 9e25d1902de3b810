import Mathlib.Data.Finset.Dedup
import LiqRanger.Core.Types
import LiqRanger.Storage.Codec

/-!
# The bytes of the stores

What the stores rely on of the library that turns their values into bytes. That library is not
part of this repository: `RowFormat` and `Bincode` take its conversions as given together with
their documented behaviour, and `Bincode.reference` writes what the library documents: numbers
least significant byte first, an enumeration as the index of its variant, a text or a set behind
its length in eight bytes, and a hash as its text.
-/

namespace LiqRanger

/-- The conversions of a set, which is written in the order in which an iteration visits it. -/
structure RowFormat (κ : Type) [DecidableEq κ] where
  serialize : List κ → Bytes
  deserialize : Bytes → Except String (Finset κ)
  deserialize_serialize : ∀ l, l.Nodup → l.length < 2 ^ 64 →
    deserialize (serialize l) = .ok l.toFinset

/-- The conversions the stores use. -/
structure Bincode where
  aaveRow : RowFormat Address
  morphoRow : RowFormat H256
  serializeProtocol : Protocol → Bytes
  serializeBlock : U64 → Bytes
  deserializeBlock : Bytes → Except String U64
  serializeProtocol_injective : Function.Injective serializeProtocol
  deserializeBlock_serializeBlock : ∀ block,
    deserializeBlock (serializeBlock block) = .ok block

/-! ### The documented format -/

/-- What `deserialize` makes of a codec: bytes behind the value do not matter. -/
def Codec.deserialize {α : Type} (C : Codec α) (bs : Bytes) : Except String α :=
  match C.read bs with
  | some (a, _) => .ok a
  | none => .error "unexpected end of input"

@[simp] lemma Codec.deserialize_write {α : Type} (C : Codec α) (a : α) :
    Codec.deserialize C (C.write a) = .ok a := by
  rw [Codec.deserialize, C.read_write]

/-- A set as the list of its elements, behind their number. -/
def RowFormat.ofCodec {κ : Type} [DecidableEq κ] (C : Codec κ) : RowFormat κ where
  serialize l := if h : l.length < 2 ^ 64 then C.counted.write ⟨l, h⟩ else []
  deserialize bs := (Codec.deserialize C.counted bs).map fun l => l.val.toFinset
  deserialize_serialize l _ hlen := by
    simp only [hlen, dif_pos, Codec.deserialize_write]
    rfl

/-- The byte of a character below 256. -/
def asciiByte (c : Char) : BitVec 8 := BitVec.ofNat 8 c.toNat

def asciiChar (b : BitVec 8) : Char := Char.ofNat b.toNat

lemma asciiChar_asciiByte {c : Char} (h : c.toNat < 2 ^ 8) : asciiChar (asciiByte c) = c := by
  rw [asciiChar, asciiByte, BitVec.toNat_ofNat, Nat.mod_eq_of_lt h, Char.ofNat_toNat]

lemma toNat_lt_of_mem_hexText {n : ℕ} {h : FixedHash n} {c : Char} (hc : c ∈ h.hexText) :
    c.toNat < 2 ^ 8 := by
  simp only [FixedHash.hexText, List.mem_cons] at hc
  rcases hc with rfl | rfl | hc
  · decide
  · decide
  · have hdigit := Hex.value_isSome_of_mem_encode hc
    rw [Hex.value] at hdigit
    split_ifs at hdigit with h₁ h₂ h₃
    · exact lt_of_le_of_lt h₁.2 (by decide)
    · exact lt_of_le_of_lt h₂.2 (by decide)
    · exact lt_of_le_of_lt h₃.2 (by decide)
    · cases hdigit

lemma map_asciiChar_hexText {n : ℕ} (h : FixedHash n) :
    (h.hexText.map asciiByte).map asciiChar = h.hexText := by
  rw [List.map_map]
  conv_rhs => rw [← List.map_id h.hexText]
  apply List.map_congr_left
  intro c hc
  exact asciiChar_asciiByte (toNat_lt_of_mem_hexText hc)

lemma length_map_asciiByte_hexText {n : ℕ} (h : FixedHash n) :
    (h.hexText.map asciiByte).length = 2 + 2 * n := by
  rw [List.length_map, FixedHash.hexText, List.length_cons, List.length_cons, Hex.length_encode,
    h.length_bytes, Nat.add_comm 2]

/-- A hash is parsed from the characters of its bytes. -/
lemma fromStr_map_asciiChar {n : ℕ} (h : FixedHash n) :
    (HashText.reference n).fromStr ((h.hexText.map asciiByte).map asciiChar) = some h := by
  rw [map_asciiChar_hexText, (HashText.reference n).fromStr_hexText]

/-- A hash as its text, behind the length of the text. -/
def Codec.hash (n : ℕ) (hn : 2 + 2 * n < 2 ^ 64) : Codec (FixedHash n) :=
  (Codec.word 1).counted.via
    (fun h => ⟨h.hexText.map asciiByte, (length_map_asciiByte_hexText h).trans_lt hn⟩)
    (fun l => (HashText.reference n).fromStr (l.val.map asciiChar))
    fromStr_map_asciiChar

/-- The index of a variant, in the order of the declaration. -/
def Protocol.index : Protocol → BitVec 32
  | .morpho => 0
  | .aave => 1

/-- The format that the library documents. -/
def Bincode.reference : Bincode where
  aaveRow := .ofCodec (Codec.hash 20 (by norm_num))
  morphoRow := .ofCodec (Codec.hash 32 (by norm_num))
  serializeProtocol protocol := (Codec.word 4).write protocol.index
  serializeBlock block := (Codec.word 8).write block
  deserializeBlock := Codec.deserialize (Codec.word 8)
  serializeProtocol_injective p q h := by
    have hindex := (Codec.word 4).write_injective h
    cases p <;> cases q <;> first | rfl | exact absurd hindex (by decide)
  deserializeBlock_serializeBlock block := Codec.deserialize_write _ block

end LiqRanger
