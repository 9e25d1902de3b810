import LiqRanger.Numeric.Checked
import LiqRanger.Text.FixedHash

/-!
# Tracker identities

A tracked position as a value and as the text that the watchlists, the readers and the pipeline
exchange.
-/

namespace LiqRanger

inductive TrackerIdentity where
  | aaveV3 (borrower reserve : Address)
  | morphoBlue (marketId : H256) (borrower : Address)
  | compound3 (borrower : Address)
  deriving DecidableEq

/-- Why a text is no identity: the message of this code, or an error of the hash parser. -/
inductive IdentityError where
  | message (text : Text)
  | hash
  deriving DecidableEq

/-- The parts of an identity, joined with colons. -/
def joinColon (parts : List Text) : Text := [':'].intercalate parts

namespace TrackerIdentity

variable (T : EthersText)

def toStringId : TrackerIdentity → Text
  | .aaveV3 borrower reserve =>
    joinColon ["aave".toList, T.address.lowerHex borrower, T.address.lowerHex reserve]
  | .morphoBlue marketId borrower =>
    joinColon ["morpho".toList, T.h256.lowerHex marketId, T.address.lowerHex borrower]
  | .compound3 borrower => joinColon ["comet".toList, T.address.lowerHex borrower]

/-- A parsed hash, or the error of its parser. -/
def parseHash {n : ℕ} (H : HashText n) (s : Text) : Except IdentityError (FixedHash n) :=
  match H.fromStr s with
  | some h => .ok h
  | none => .error .hash

def fromStr (s : Text) : Except IdentityError TrackerIdentity :=
  match s.splitOn ':' with
  | [] => .error (.message "Empty identity string".toList)
  | protocol :: parts =>
    if protocol = "aave".toList then
      match parts with
      | [borrower, reserve] => do
        return .aaveV3 (← parseHash T.address borrower) (← parseHash T.address reserve)
      | _ => .error (.message "Invalid Aave string layout".toList)
    else if protocol = "morpho".toList then
      match parts with
      | [marketId, borrower] => do
        return .morphoBlue (← parseHash T.h256 marketId) (← parseHash T.address borrower)
      | _ => .error (.message "Invalid Morpho string layout".toList)
    else if protocol = "comet".toList then
      match parts with
      | [borrower] => do
        return .compound3 (← parseHash T.address borrower)
      | _ => .error (.message "Invalid Compound string layout".toList)
    else
      .error (.message ("Unknown protocol prefix signature: ".toList ++ protocol))

variable {T}

open Checked (bind_eq_ok_iff)

/-! ### Splitting what was joined -/

lemma splitOn_joinColon {parts : List Text} (hparts : parts ≠ [])
    (hcolon : ∀ part ∈ parts, ':' ∉ part) : (joinColon parts).splitOn ':' = parts :=
  List.splitOn_intercalate ':' hcolon hparts

@[simp] lemma parseHash_hexText {n : ℕ} (H : HashText n) (h : FixedHash n) :
    parseHash H h.hexText = .ok h := by
  rw [parseHash, H.fromStr_hexText]

/-- A hash of another length is an error. -/
lemma parseHash_hexText_of_ne {n m : ℕ} (H : HashText n) (h : FixedHash m) (hne : m ≠ n) :
    parseHash H h.hexText = .error .hash := by
  rw [parseHash, H.fromStr_hexText_of_ne h hne]

/-- A keyword and two hashes come apart again. -/
lemma splitOn_pair {n m : ℕ} {keyword : Text} (hkeyword : ':' ∉ keyword) (h : FixedHash n)
    (k : FixedHash m) :
    (joinColon [keyword, h.hexText, k.hexText]).splitOn ':' = [keyword, h.hexText, k.hexText] := by
  refine splitOn_joinColon (List.cons_ne_nil _ _) fun part hpart => ?_
  simp only [List.mem_cons, List.not_mem_nil, or_false] at hpart
  rcases hpart with rfl | rfl | rfl
  · exact hkeyword
  · exact colon_not_mem_hexText h
  · exact colon_not_mem_hexText k

/-! ### What the parser accepts -/

/-- Every identity reads back from its own text. -/
theorem fromStr_toStringId (identity : TrackerIdentity) :
    fromStr T (identity.toStringId T) = .ok identity := by
  cases identity with
  | aaveV3 borrower reserve =>
    rw [toStringId, T.address.lowerHex_eq, T.address.lowerHex_eq, fromStr,
      splitOn_pair (by decide)]
    simp [bind, Except.bind, pure, Except.pure]
  | morphoBlue marketId borrower =>
    rw [toStringId, T.address.lowerHex_eq, T.h256.lowerHex_eq, fromStr, splitOn_pair (by decide)]
    simp [bind, Except.bind, pure, Except.pure]
  | compound3 borrower =>
    rw [toStringId, T.address.lowerHex_eq, fromStr, splitOn_joinColon (List.cons_ne_nil _ _)]
    · simp [bind, Except.bind, pure, Except.pure]
    · intro part hpart
      simp only [List.mem_cons, List.not_mem_nil, or_false] at hpart
      rcases hpart with rfl | rfl
      · decide
      · exact colon_not_mem_hexText borrower

/-- The prefix of a text. -/
def keyword : TrackerIdentity → Text
  | .aaveV3 .. => "aave".toList
  | .morphoBlue .. => "morpho".toList
  | .compound3 .. => "comet".toList

/-- The number of parts, the prefix included. -/
def partCount : TrackerIdentity → ℕ
  | .aaveV3 .. => 3
  | .morphoBlue .. => 3
  | .compound3 .. => 2

/-- The prefix and the number of parts of an accepted text are those of its variant. -/
lemma parts_of_fromStr {s : Text} {identity : TrackerIdentity} (h : fromStr T s = .ok identity) :
    (s.splitOn ':').head? = some identity.keyword ∧
      (s.splitOn ':').length = identity.partCount := by
  rw [fromStr] at h
  split at h
  · cases h
  · next protocol parts hsplit =>
    rw [hsplit]
    split at h
    · next haave =>
      split at h
      · next borrower reserve =>
        obtain ⟨b, -, h⟩ := bind_eq_ok_iff.mp h
        obtain ⟨r, -, h⟩ := bind_eq_ok_iff.mp h
        cases h
        exact ⟨congrArg some haave, rfl⟩
      · cases h
    · split at h
      · next hmorpho =>
        split at h
        · next marketId borrower =>
          obtain ⟨m, -, h⟩ := bind_eq_ok_iff.mp h
          obtain ⟨b, -, h⟩ := bind_eq_ok_iff.mp h
          cases h
          exact ⟨congrArg some hmorpho, rfl⟩
        · cases h
      · split at h
        · next hcomet =>
          split at h
          · next borrower =>
            obtain ⟨b, -, h⟩ := bind_eq_ok_iff.mp h
            cases h
            exact ⟨congrArg some hcomet, rfl⟩
          · cases h
        · cases h

/-- Different identities have different texts. -/
lemma toStringId_injective : Function.Injective (toStringId T) := by
  intro identity identity' h
  have hread := fromStr_toStringId (T := T) identity
  rw [h, fromStr_toStringId, Except.ok.injEq] at hread
  exact hread.symm

/-- A Morpho text with the borrower in front of the market is refused: an address is too short
to be a market id. -/
lemma fromStr_morpho_swapped (borrower : Address) (marketId : H256) :
    fromStr T (joinColon ["morpho".toList, T.address.debug borrower, T.h256.debug marketId])
      = .error .hash := by
  rw [T.address.debug_eq, T.h256.debug_eq, fromStr, splitOn_pair (by decide)]
  simp [parseHash_hexText_of_ne T.h256 borrower (by decide), bind, Except.bind]

end TrackerIdentity

end LiqRanger
