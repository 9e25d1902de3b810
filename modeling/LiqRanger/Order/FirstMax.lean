import Mathlib.Data.List.MinMax
import Mathlib.Data.List.Sort

/-!
# The first of the greatest

Some entries of a list have a value, and `argmax` picks a greatest one, the first among equals. A
stable sort in descending order puts it in front (`head?_insertionSort`), a loop that keeps the best
so far ends with it (`argmax_cons_filterMap`), and it is found at some position of the list
(`exists_isFirstMax`).
-/

namespace List

variable {α β γ : Type*} [LinearOrder β] {f : α → β} {g : γ → Option α} {l : List γ} {x y : α}
  {c : γ} {i : ℕ}

/-- The entry at position `i` has the value `x`, no value is greater, and those before are
smaller. -/
structure IsFirstMax (g : γ → Option α) (f : α → β) (l : List γ) (i : ℕ) (x : α) : Prop where
  value : ∃ c, l[i]? = some c ∧ g c = some x
  le : ∀ (j : ℕ) c y, l[j]? = some c → g c = some y → f y ≤ f x
  lt : ∀ (j : ℕ) c y, j < i → l[j]? = some c → g c = some y → f y < f x

/-- In front of an entry without a value, or with a smaller one, it stays the first. -/
lemma IsFirstMax.cons (h : IsFirstMax g f l i x) (hc : ∀ y, g c = some y → f y < f x) :
    IsFirstMax g f (c :: l) (i + 1) x where
  value := h.value
  le := by
    intro j d y hd hy
    cases j with
    | zero =>
      obtain rfl : c = d := by simpa using hd
      exact (hc y hy).le
    | succ j => exact h.le j d y hd hy
  lt := by
    intro j d y hj hd hy
    cases j with
    | zero =>
      obtain rfl : c = d := by simpa using hd
      exact hc y hy
    | succ j => exact h.lt j d y (Nat.lt_of_succ_lt_succ hj) hd hy

/-- An entry at the front that no later value exceeds is the first. -/
lemma isFirstMax_cons_self (hc : g c = some x)
    (hle : ∀ y ∈ l.filterMap g, f y ≤ f x) : IsFirstMax g f (c :: l) 0 x where
  value := ⟨c, rfl, hc⟩
  le := by
    intro j d y hd hy
    cases j with
    | zero =>
      obtain rfl : c = d := by simpa using hd
      rw [hc, Option.some.injEq] at hy
      exact (congrArg f hy).ge
    | succ j => exact hle y (mem_filterMap.mpr ⟨d, mem_of_getElem? hd, hy⟩)
  lt := fun j d y hj => absurd hj (Nat.not_lt_zero j)

theorem exists_isFirstMax (h : argmax f (l.filterMap g) = some x) :
    ∃ i, IsFirstMax g f l i x := by
  induction l generalizing x with
  | nil => simp at h
  | cons c l ih =>
    cases hc : g c with
    | none =>
      rw [filterMap_cons_none hc] at h
      obtain ⟨i, hi⟩ := ih h
      exact ⟨i + 1, hi.cons (by simp [hc])⟩
    | some y =>
      rw [filterMap_cons_some hc, argmax_cons] at h
      cases hrest : argmax f (l.filterMap g) with
      | none =>
        obtain rfl : y = x := by simpa [hrest] using h
        refine ⟨0, isFirstMax_cons_self hc ?_⟩
        simp [argmax_eq_none.mp hrest]
      | some z =>
        by_cases hlt : f y < f z
        · obtain rfl : z = x := by simpa [hrest, hlt] using h
          obtain ⟨i, hi⟩ := ih hrest
          exact ⟨i + 1, hi.cons (by simpa [hc] using hlt)⟩
        · obtain rfl : y = x := by simpa [hrest, hlt] using h
          refine ⟨0, isFirstMax_cons_self hc fun w hw => ?_⟩
          exact (le_of_mem_argmax hw hrest).trans (not_lt.mp hlt)

/-- The first of a stable sort in descending order. -/
theorem head?_insertionSort {r : α → α → Prop} [DecidableRel r] (hr : ∀ a b, r a b ↔ f b ≤ f a)
    (l : List α) : (l.insertionSort r).head? = argmax f l := by
  induction l with
  | nil => rfl
  | cons a l ih =>
    rw [insertionSort_cons, argmax_cons, ← ih]
    cases l.insertionSort r with
    | nil => rfl
    | cons b rest =>
      by_cases hlt : f a < f b
      · simp [orderedInsert, hr, hlt, not_le.mpr hlt]
      · simp [orderedInsert, hr, hlt, not_lt.mp hlt]

/-- A loop that takes an entry over if its value exceeds the best so far. -/
theorem argmax_cons_filterMap (step : α → γ → α) (hnone : ∀ best c, g c = none → step best c = best)
    (hsome : ∀ best c x, g c = some x → step best c = if f best < f x then x else best)
    (l : List γ) (a : α) : argmax f (a :: l.filterMap g) = some (l.foldl step a) := by
  induction l using reverseRecOn with
  | nil => exact argmax_singleton
  | append_singleton l c ih =>
    rw [foldl_append, foldl_cons, foldl_nil, filterMap_append]
    cases hc : g c with
    | none => rw [filterMap_cons_none hc, filterMap_nil, append_nil, ih, hnone _ c hc]
    | some x =>
      rw [filterMap_cons_some hc, filterMap_nil, ← cons_append, argmax_concat, ih, hsome _ c x hc]
      exact (apply_ite some _ _ _).symm

/-- A value greater than the first entry's is that of a later entry. -/
lemma argmax_of_argmax_cons {a : α} {l : List α} (h : argmax f (a :: l) = some x)
    (hlt : f a < f x) : argmax f l = some x := by
  rw [argmax_cons] at h
  cases hrest : argmax f l with
  | none =>
    obtain rfl : a = x := by simpa [hrest] using h
    exact absurd hlt (lt_irrefl _)
  | some z =>
    by_cases hz : f a < f z
    · simpa [hrest, hz] using h
    · obtain rfl : a = x := by simpa [hrest, hz] using h
      exact absurd hlt (lt_irrefl _)

end List
