import Mathlib.Data.Finmap
import Mathlib.Data.Finset.Basic

/-!
# Maps to finite sets

A finite map from keys to finite sets, as the set of pairs it stands for. An entry is taken out
in two moves: the value leaves its set, then a set left empty loses its key.
-/

/-- Finitely many keys, each with a finite set of values. -/
abbrev MultiMap (α κ : Type*) := Finmap fun _ : α => Finset κ

namespace MultiMap

variable {α κ : Type*} [DecidableEq α] [DecidableEq κ]

def contains (m : MultiMap α κ) (a : α) (x : κ) : Bool :=
  match m.lookup a with
  | some set => decide (x ∈ set)
  | none => false

/-- Put `x` into the set of `a`, which is empty before the first value. The flag says whether
`x` is new there. -/
def insertPair (m : MultiMap α κ) (a : α) (x : κ) : MultiMap α κ × Bool :=
  let set := (m.lookup a).getD ∅
  (m.insert a (insert x set), decide (x ∉ set))

/-- Take `x` out of the set of `a`. The flags say whether it was there, and whether the set is
empty without it. -/
def removePair (m : MultiMap α κ) (a : α) (x : κ) : MultiMap α κ × Bool × Bool :=
  match m.lookup a with
  | some set =>
    if x ∈ set then (m.insert a (set.erase x), true, decide (set.erase x = ∅))
    else (m, false, false)
  | none => (m, false, false)

/-- Drop the key `a` if its set is empty. -/
def removeIfEmpty (m : MultiMap α κ) (a : α) : MultiMap α κ :=
  if m.lookup a = some ∅ then m.erase a else m

/-- Take out a pair, and its key if the set is left empty. -/
def dropPair (m : MultiMap α κ) (a : α) (x : κ) : MultiMap α κ :=
  let (m', _, isEmpty) := m.removePair a x
  if isEmpty then m'.removeIfEmpty a else m'

variable {m : MultiMap α κ} {a b : α} {x y : κ}

lemma contains_iff : m.contains a x = true ↔ ∃ set, m.lookup a = some set ∧ x ∈ set := by
  rw [contains]
  cases h : m.lookup a with
  | none => simp
  | some set => simp

lemma contains_iff_getD : m.contains a x = true ↔ x ∈ (m.lookup a).getD ∅ := by
  rw [contains_iff]
  cases m.lookup a with
  | none => simp
  | some set => simp

@[simp] lemma not_contains_empty : (∅ : MultiMap α κ).contains a x = false := by
  rw [contains, Finmap.lookup_empty]

lemma contains_insert {set : Finset κ} :
    MultiMap.contains (m.insert a set) b y = true ↔
      (b = a ∧ y ∈ set) ∨ (b ≠ a ∧ m.contains b y = true) := by
  by_cases h : b = a
  · subst h
    simp [contains_iff, Finmap.lookup_insert]
  · simp [contains_iff, Finmap.lookup_insert_of_ne m h, h]

/-! ### Inserting -/

/-- After inserting a pair the map holds that pair and what it held. -/
theorem contains_insertPair :
    (m.insertPair a x).1.contains b y = true ↔ (b = a ∧ y = x) ∨ m.contains b y = true := by
  rw [insertPair, contains_insert]
  by_cases h : b = a
  · subst h
    simp [contains_iff_getD]
  · simp [h]

/-- A pair that is there already changes nothing. -/
lemma insertPair_of_contains (h : m.contains a x = true) : m.insertPair a x = (m, false) := by
  obtain ⟨set, hset, hx⟩ := contains_iff.mp h
  have hmap : m.insert a set = m := by
    apply Finmap.ext_lookup
    intro b
    by_cases hb : b = a
    · rw [hb, Finmap.lookup_insert, hset]
    · rw [Finmap.lookup_insert_of_ne m hb]
  simp [insertPair, hset, hx, hmap]

lemma insertPair_flag : (m.insertPair a x).2 = !m.contains a x := by
  rw [Bool.eq_iff_iff, Bool.not_eq_true', ← Bool.not_eq_true, contains_iff_getD]
  simp [insertPair]

/-! ### Removing -/

/-- After removing a pair the map holds what it held, less that pair. -/
lemma contains_removePair :
    (m.removePair a x).1.contains b y = true ↔ ¬ (b = a ∧ y = x) ∧ m.contains b y = true := by
  rw [removePair]
  cases hset : m.lookup a with
  | none =>
    have hnot : ¬ m.contains a x = true := by simp [contains_iff, hset]
    constructor
    · intro h
      refine ⟨?_, h⟩
      rintro ⟨rfl, rfl⟩
      exact hnot h
    · exact And.right
  | some set =>
    by_cases hx : x ∈ set
    · simp only [if_pos hx, contains_insert, Finset.mem_erase]
      by_cases hb : b = a
      · subst hb
        simp [contains_iff, hset]
      · simp [hb]
    · have hnot : ¬ m.contains a x = true := by simp [contains_iff, hset, hx]
      simp only [if_neg hx]
      constructor
      · intro h
        refine ⟨?_, h⟩
        rintro ⟨rfl, rfl⟩
        exact hnot h
      · exact And.right

/-- Dropping an empty set loses no pair. -/
lemma contains_removeIfEmpty :
    (m.removeIfEmpty a).contains b y = true ↔ m.contains b y = true := by
  rw [removeIfEmpty]
  by_cases h : m.lookup a = some ∅
  · rw [if_pos h]
    by_cases hb : b = a
    · subst hb
      simp [contains_iff, Finmap.lookup_erase, h]
    · simp [contains_iff, Finmap.lookup_erase_ne hb]
  · rw [if_neg h]

/-! ### One key -/

lemma lookup_insertPair_of_ne (h : b ≠ a) : (m.insertPair a x).1.lookup b = m.lookup b :=
  Finmap.lookup_insert_of_ne m h

lemma removePair_flag : (m.removePair a x).2.1 = m.contains a x := by
  rw [removePair, contains]
  cases m.lookup a with
  | none => rfl
  | some set =>
    by_cases hx : x ∈ set
    · simp [hx]
    · simp [hx]

/-- Taking out a pair that is not there changes nothing. -/
lemma removePair_of_not_contains (h : m.contains a x = false) :
    m.removePair a x = (m, false, false) := by
  rw [contains] at h
  rw [removePair]
  cases hset : m.lookup a with
  | none => rfl
  | some set =>
    rw [hset] at h
    simp only [if_neg (of_decide_eq_false h)]

lemma lookup_removePair_of_ne (h : b ≠ a) : (m.removePair a x).1.lookup b = m.lookup b := by
  rw [removePair]
  cases m.lookup a with
  | none => rfl
  | some set =>
    by_cases hx : x ∈ set
    · simp only [if_pos hx]
      exact Finmap.lookup_insert_of_ne m h
    · simp only [if_neg hx]

lemma lookup_removeIfEmpty_of_ne (h : b ≠ a) : (m.removeIfEmpty a).lookup b = m.lookup b := by
  rw [removeIfEmpty]
  by_cases hempty : m.lookup a = some ∅
  · rw [if_pos hempty, Finmap.lookup_erase_ne h]
  · rw [if_neg hempty]

/-! ### Empty sets -/

/-- No key has an empty set. -/
def NoEmptySets (m : MultiMap α κ) : Prop := ∀ a, m.lookup a ≠ some ∅

omit [DecidableEq κ] in
lemma noEmptySets_empty : (∅ : MultiMap α κ).NoEmptySets := by
  intro a h
  rw [Finmap.lookup_empty] at h
  cases h

lemma lookup_insertPair_ne_empty : (m.insertPair a x).1.lookup a ≠ some ∅ := by
  rw [insertPair, Finmap.lookup_insert]
  intro h
  exact Finset.insert_ne_empty _ _ (Option.some.inj h)

lemma lookup_removeIfEmpty_ne_empty : (m.removeIfEmpty a).lookup a ≠ some ∅ := by
  rw [removeIfEmpty]
  by_cases hempty : m.lookup a = some ∅
  · rw [if_pos hempty, Finmap.lookup_erase]
    exact (Option.some_ne_none ∅).symm
  · rwa [if_neg hempty]

/-- Taking out a pair leaves an empty set only if it says so, or if the set was empty before. -/
lemma removePair_lookup_empty (h : (m.removePair a x).1.lookup a = some ∅) :
    (m.removePair a x).2 = (true, true) ∨ (m.removePair a x).1 = m := by
  rw [removePair] at h ⊢
  cases hset : m.lookup a with
  | none => exact Or.inr rfl
  | some set =>
    by_cases hx : x ∈ set
    · simp only [hset, if_pos hx, Finmap.lookup_insert, Option.some.injEq] at h
      simp [hx, h]
    · simp [hx]

lemma NoEmptySets.insertPair (h : m.NoEmptySets) : (m.insertPair a x).1.NoEmptySets := by
  intro b hb
  by_cases hba : b = a
  · subst hba
    exact lookup_insertPair_ne_empty hb
  · rw [lookup_insertPair_of_ne hba] at hb
    exact h b hb

/-! ### Dropping -/

lemma dropPair_of_not_contains (h : m.contains a x = false) : m.dropPair a x = m := by
  rw [dropPair, removePair_of_not_contains h]
  rfl

/-- After dropping a pair the map holds what it held, less that pair. -/
theorem contains_dropPair :
    (m.dropPair a x).contains b y = true ↔ ¬ (b = a ∧ y = x) ∧ m.contains b y = true := by
  rw [dropPair]
  by_cases hempty : (m.removePair a x).2.2
  · simp only [hempty, if_true, contains_removeIfEmpty]
    exact contains_removePair
  · simp only [hempty, Bool.false_eq_true, if_false]
    exact contains_removePair

lemma lookup_dropPair_of_ne (h : b ≠ a) : (m.dropPair a x).lookup b = m.lookup b := by
  rw [dropPair]
  by_cases hempty : (m.removePair a x).2.2
  · simp only [hempty, if_true]
    rw [lookup_removeIfEmpty_of_ne h, lookup_removePair_of_ne h]
  · simp only [hempty, Bool.false_eq_true, if_false]
    exact lookup_removePair_of_ne h

lemma NoEmptySets.dropPair (h : m.NoEmptySets) : (m.dropPair a x).NoEmptySets := by
  intro b hb
  by_cases hba : b = a
  · subst hba
    rw [MultiMap.dropPair] at hb
    by_cases hempty : (m.removePair b x).2.2
    · simp only [hempty, if_true] at hb
      exact lookup_removeIfEmpty_ne_empty hb
    · simp only [hempty, Bool.false_eq_true, if_false] at hb
      rcases removePair_lookup_empty hb with hflags | hsame
      · exact hempty (congrArg Prod.snd hflags)
      · rw [hsame] at hb
        exact h b hb
  · rw [lookup_dropPair_of_ne hba] at hb
    exact h b hb

end MultiMap
