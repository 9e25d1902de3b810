import Mathlib.Logic.Relation
import Mathlib.Data.Nat.Init

/-!
# Transition systems

A system is a step relation on states, and a run is any number of its steps. What every step
preserves holds along every run. When the steps that satisfy a condition preserve a property and
every other step spoils it for good, the property holds after a run exactly when all the steps of
the run satisfied the condition (`run_restrict_iff`). What holds of every part of a system still
does when the part that takes a step keeps it (`forall_mem_of_part`). A system whose steps are met
by steps of another has its runs met by runs of the other (`Simulates.run`). A state is inevitable
when every run comes to it, which steps that only go down show (`Inevitable.of_wellFounded`).
-/

namespace Transition

variable {σ : Type*} {Step : σ → σ → Prop} {Inv : σ → Prop} {Cond : σ → σ → Prop} {s s' : σ}

/-- Every step from a state in `Inv` leads to a state in `Inv`. -/
def Preserves (Step : σ → σ → Prop) (Inv : σ → Prop) : Prop :=
  ∀ ⦃s s'⦄, Step s s' → Inv s → Inv s'

/-- Any number of steps. -/
abbrev Run (Step : σ → σ → Prop) : σ → σ → Prop := Relation.ReflTransGen Step

/-- The steps that satisfy a condition. -/
def Restrict (Step Cond : σ → σ → Prop) (s s' : σ) : Prop := Step s s' ∧ Cond s s'

/-- What every step preserves holds along every run. -/
theorem Preserves.run (h : Preserves Step Inv) (hrun : Run Step s s') (hs : Inv s) : Inv s' := by
  induction hrun with
  | refl => exact hs
  | tail _ hstep ih => exact h hstep ih

lemma Run.of_restrict (hrun : Run (Restrict Step Cond) s s') : Run Step s s' :=
  Relation.ReflTransGen.mono (fun _ _ h => h.1) _ _ hrun

/-- A property that the steps in `Cond` preserve, relative to an invariant of all steps. -/
lemma run_restrict {Good : σ → Prop} (hinv : Preserves Step Inv)
    (hkeep : ∀ ⦃s s'⦄, Inv s → Step s s' → Cond s s' → Good s → Good s')
    (hs : Inv s) (hgood : Good s) (hrun : Run (Restrict Step Cond) s s') : Good s' := by
  induction hrun with
  | refl => exact hgood
  | tail hrun hstep ih => exact hkeep (hinv.run (Run.of_restrict hrun) hs) hstep.1 hstep.2 ih

/-- A property that the steps in `Cond` preserve and that, once lost, stays lost: it holds after
a run exactly when all steps of the run are in `Cond`. -/
theorem run_restrict_iff {Good : σ → Prop} (hinv : Preserves Step Inv)
    (hkeep : ∀ ⦃s s'⦄, Inv s → Step s s' → Cond s s' → Good s → Good s')
    (hback : ∀ ⦃s s'⦄, Inv s → Step s s' → Good s' → Good s ∧ Cond s s')
    (hs : Inv s) (hgood : Good s) (hrun : Run Step s s') :
    Good s' ↔ Run (Restrict Step Cond) s s' := by
  refine ⟨fun h => ?_, run_restrict hinv hkeep hs hgood⟩
  induction hrun with
  | refl => exact Relation.ReflTransGen.refl
  | tail hrun hstep ih =>
    obtain ⟨hbefore, hcond⟩ := hback (hinv.run hrun hs) hstep h
    exact (ih hbefore).tail ⟨hstep, hcond⟩

/-! ### Systems of parts -/

/-- One part takes a step, and the others stay as they are. -/
lemma forall_mem_of_part {P : σ → Prop} {before after : List σ}
    (h : ∀ x ∈ before ++ s :: after, P x) (hstep : P s → P s') :
    ∀ x ∈ before ++ s' :: after, P x := by
  rw [List.forall_mem_append, List.forall_mem_cons] at h ⊢
  exact ⟨h.1, hstep h.2.1, h.2.2⟩

/-! ### Simulation -/

section
variable {τ : Type*} {Step' : τ → τ → Prop}

/-- Related states stay related when each step of the first system is met by some steps of the
second. -/
def Simulates (Step : σ → σ → Prop) (Step' : τ → τ → Prop) (R : σ → τ → Prop) : Prop :=
  ∀ ⦃s s' t⦄, Step s s' → R s t → ∃ t', Run Step' t t' ∧ R s' t'

/-- Then each run of the first is met by a run of the second. -/
theorem Simulates.run {R : σ → τ → Prop} {t : τ} (h : Simulates Step Step' R)
    (hrun : Run Step s s') (hR : R s t) : ∃ t', Run Step' t t' ∧ R s' t' := by
  induction hrun with
  | refl => exact ⟨t, .refl, hR⟩
  | tail _ hstep ih =>
    obtain ⟨t₁, hrun₁, hR₁⟩ := ih
    obtain ⟨t', hrun', hR'⟩ := h hstep hR₁
    exact ⟨t', hrun₁.trans hrun', hR'⟩

end

/-! ### What every run comes to -/

/-- Every run comes to a state in `P`. -/
inductive Inevitable (Step : σ → σ → Prop) (P : σ → Prop) : σ → Prop where
  | now {s : σ} (h : P s) : Inevitable Step P s
  | later {s : σ} (hmove : ∃ s', Step s s') (h : ∀ s', Step s s' → Inevitable Step P s') :
      Inevitable Step P s

variable {P Q : σ → Prop}

lemma Inevitable.mono (h : Inevitable Step P s) (hPQ : ∀ s, P s → Q s) : Inevitable Step Q s := by
  induction h with
  | now h => exact .now (hPQ _ h)
  | later hmove _ ih => exact .later hmove ih

/-- Some run comes to it. -/
lemma Inevitable.exists_run (h : Inevitable Step P s) : ∃ s', Run Step s s' ∧ P s' := by
  induction h with
  | now h => exact ⟨_, .refl, h⟩
  | later hmove _ ih =>
    obtain ⟨s₁, hstep⟩ := hmove
    obtain ⟨s', hrun, hs'⟩ := ih s₁ hstep
    exact ⟨s', .head hstep hrun, hs'⟩

/-- A state that no step leaves is the last of its runs. -/
lemma Inevitable.of_stuck (h : Inevitable Step P s) (hstuck : ∀ s', ¬ Step s s') : P s := by
  cases h with
  | now h => exact h
  | later hmove _ =>
    obtain ⟨s', hstep⟩ := hmove
    exact absurd hstep (hstuck s')

/-- What every step preserves still holds there. -/
lemma Inevitable.and_preserved (h : Inevitable Step P s) (hinv : Preserves Step Inv)
    (hs : Inv s) : Inevitable Step (fun s => P s ∧ Inv s) s := by
  induction h with
  | now h => exact .now ⟨h, hs⟩
  | later hmove _ ih => exact .later hmove fun s' hstep => ih s' hstep (hinv hstep hs)

/-- Steps that go down in a well-founded order and stop nowhere but in `P` come to `P`. -/
theorem Inevitable.of_wellFounded {γ : Type*} {r : γ → γ → Prop} (hr : WellFounded r) (m : σ → γ)
    (hprogress : ∀ s, P s ∨ ∃ s', Step s s') (hdown : ∀ ⦃s s'⦄, Step s s' → r (m s') (m s))
    (s : σ) : Inevitable Step P s := by
  induction hm : m s using hr.induction generalizing s with
  | _ x ih =>
    rcases hprogress s with hP | hmove
    · exact .now hP
    · exact .later hmove fun s' hstep => ih (m s') (hm ▸ hdown hstep) s' rfl

/-- So do steps that lower a measure. -/
theorem Inevitable.of_measure (m : σ → ℕ) (hprogress : ∀ s, P s ∨ ∃ s', Step s s')
    (hmeasure : ∀ ⦃s s'⦄, Step s s' → m s' < m s) (s : σ) : Inevitable Step P s :=
  .of_wellFounded Nat.lt_wfRel.wf m hprogress hmeasure s

end Transition
