import Mathlib.Data.List.Nodup

/-!
# Tables with a unique key

A table is a list of rows of which no two have the same key. `insertOrIgnore` is
`INSERT OR IGNORE`: a row whose key is taken changes nothing. So after any number of insertions each
key has the row that it had, or else the first one that was inserted for it (`lookup_insertAll`).
-/

/-- Rows of type `α`, distinct under `key`. -/
structure KeyedTable {α κ : Type*} (key : α → κ) where
  rows : List α
  unique : (rows.map key).Nodup

namespace KeyedTable

variable {α κ : Type*} {key : α → κ}

def empty : KeyedTable key := ⟨[], List.nodup_nil⟩

@[simp] lemma rows_empty : (empty : KeyedTable key).rows = [] := rfl

variable [DecidableEq κ]

def insertOrIgnore (row : α) (t : KeyedTable key) : KeyedTable key :=
  if h : key row ∈ t.rows.map key then t
  else ⟨t.rows ++ [row], by
    rw [List.map_append, List.map_singleton, ← List.concat_eq_append]
    exact List.Nodup.concat h t.unique⟩

/-- A row of the table after the insertion was there before, or is the inserted one. -/
lemma mem_insertOrIgnore {row x : α} {t : KeyedTable key}
    (h : x ∈ (t.insertOrIgnore row).rows) : x ∈ t.rows ∨ x = row := by
  by_cases htaken : key row ∈ t.rows.map key
  · rw [insertOrIgnore, dif_pos htaken] at h
    exact Or.inl h
  · rw [insertOrIgnore, dif_neg htaken, List.mem_append, List.mem_singleton] at h
    exact h

/-! ### Rows by key -/

/-- The row with a key. -/
def lookup (k : κ) (t : KeyedTable key) : Option α := t.rows.find? fun row => key row = k

def insertAll (rows : List α) (t : KeyedTable key) : KeyedTable key :=
  rows.foldl (fun t row => t.insertOrIgnore row) t

lemma lookup_eq_none_iff {k : κ} {t : KeyedTable key} :
    t.lookup k = none ↔ k ∉ t.rows.map key := by
  simp [lookup, List.find?_eq_none]

@[simp] lemma lookup_empty (k : κ) : (empty : KeyedTable key).lookup k = none := rfl

lemma lookup_insertOrIgnore (k : κ) (row : α) (t : KeyedTable key) :
    (t.insertOrIgnore row).lookup k = (t.lookup k).or (if key row = k then some row else none) := by
  by_cases htaken : key row ∈ t.rows.map key
  · rw [insertOrIgnore, dif_pos htaken]
    split
    · next hk =>
      -- The row of the table is found first.
      rw [hk, ← not_not (a := k ∈ _), ← lookup_eq_none_iff] at htaken
      obtain ⟨found, hfound⟩ := Option.ne_none_iff_exists.mp htaken
      rw [← hfound, Option.some_or]
    · rw [Option.or_none]
  · rw [insertOrIgnore, dif_neg htaken, lookup, List.find?_append]
    congr 1
    by_cases hk : key row = k <;> simp [hk]

/-- The first row for a key counts. -/
theorem lookup_insertAll (k : κ) (rows : List α) (t : KeyedTable key) :
    (t.insertAll rows).lookup k = (t.lookup k).or (rows.find? fun row => key row = k) := by
  induction rows generalizing t with
  | nil => exact (Option.or_none).symm
  | cons row rows ih =>
    rw [insertAll, List.foldl_cons, ← insertAll, ih, lookup_insertOrIgnore, Option.or_assoc,
      List.find?_cons]
    by_cases hk : key row = k <;> simp [hk]

/-- The key of a row that was inserted is taken. -/
lemma mem_keys_insertAll {row : α} {rows : List α} (h : row ∈ rows) (t : KeyedTable key) :
    key row ∈ (t.insertAll rows).rows.map key := by
  by_contra hnone
  rw [← lookup_eq_none_iff, lookup_insertAll, Option.or_eq_none_iff, List.find?_eq_none] at hnone
  exact hnone.2 row h (by simp)

/-- Rows whose keys are taken change nothing. -/
lemma insertAll_of_taken {rows : List α} {t : KeyedTable key}
    (h : ∀ row ∈ rows, key row ∈ t.rows.map key) : t.insertAll rows = t := by
  induction rows with
  | nil => rfl
  | cons row rows ih =>
    rw [List.forall_mem_cons] at h
    rw [insertAll, List.foldl_cons, insertOrIgnore, dif_pos h.1]
    exact ih h.2

end KeyedTable
