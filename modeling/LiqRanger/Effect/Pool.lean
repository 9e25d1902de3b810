import LiqRanger.Effect.Log
import LiqRanger.Transition.System
import Mathlib.Logic.Hydra
import Mathlib.Data.List.Nodup

/-!
# Pools of programs

One program for each input, at most so many of them under way at a time, their calls in any
interleaving and their results collected in the order in which they come. A program that ends with
an error ends the pool. Every run of a pool ends (`Pool.inevitable`), every input is taken at most
once (`Pool.started_nodup`), and a pool that returns has taken every input and holds one result of
each (`Pool.inputs_of_returned`, `Pool.trace_of_finished`).
-/

namespace Effect

open Transition Relation

universe u v

/-- The inputs that wait, the programs under way, the results that came, and the program that ended
the pool, if one did. -/
structure Pool (I : Interface.{u}) (ε α β : Type u) where
  waiting : List α
  running : List (α × Program I ε β)
  finished : List (α × β)
  failed : Option (α × ε)

variable {I : Interface.{u}} {W : Type v} {ε α β : Type u}

namespace Pool

def start (order : List α) : Pool I ε α β := ⟨order, [], [], none⟩

/-- One move of a pool of `n` programs: an input is taken, a program makes a call, or one ends. -/
inductive Step (H : Handler I W) (body : α → Program I ε β) (n : ℕ) :
    Pool I ε α β × W → Pool I ε α β × W → Prop where
  | take (a : α) (waiting : List α) (running : List (α × Program I ε β)) (finished : List (α × β))
      (w : W) (hroom : running.length < n) :
      Step H body n (⟨a :: waiting, running, finished, none⟩, w)
        (⟨waiting, running ++ [(a, body a)], finished, none⟩, w)
  | call (a : α) (op : I.Op) (next : I.Reply op → Program I ε β) (r : I.Reply op)
      (waiting : List α) (before after : List (α × Program I ε β)) (finished : List (α × β))
      (w w' : W) (hreply : H w op r w') :
      Step H body n (⟨waiting, before ++ (a, .call op next) :: after, finished, none⟩, w)
        (⟨waiting, before ++ (a, next r) :: after, finished, none⟩, w')
  | finish (a : α) (b : β) (waiting : List α) (before after : List (α × Program I ε β))
      (finished : List (α × β)) (w : W) :
      Step H body n (⟨waiting, before ++ (a, .ret b) :: after, finished, none⟩, w)
        (⟨waiting, before ++ after, finished ++ [(a, b)], none⟩, w)
  | fail (a : α) (e : ε) (waiting : List α) (before after : List (α × Program I ε β))
      (finished : List (α × β)) (w : W) :
      Step H body n (⟨waiting, before ++ (a, .fail e) :: after, finished, none⟩, w)
        (⟨waiting, before ++ after, finished, some (a, e)⟩, w)

/-- Every input was taken and every program has ended with a result. -/
def Returned (pool : Pool I ε α β) : Prop :=
  pool.waiting = [] ∧ pool.running = [] ∧ pool.failed = none

/-- The inputs that were taken. -/
def started (pool : Pool I ε α β) : List α :=
  pool.finished.map Prod.fst ++ pool.running.map Prod.fst ++ (pool.failed.map Prod.fst).toList

variable {H : Handler I W} {body : α → Program I ε β} {n : ℕ} {s s' : Pool I ε α β × W}
  {order : List α} {pool : Pool I ε α β} {w w' : W}

/-! ### The end -/

/-- One program goes on from another with a reply. -/
def Goes (p' p : Program I ε β) : Prop := ∃ op next r, p = .call op next ∧ p' = next r

lemma goes_wellFounded : WellFounded (Goes : Program I ε β → Program I ε β → Prop) := by
  constructor
  intro p
  induction p with
  | ret b => exact ⟨_, fun p' ⟨_, _, _, h, _⟩ => nomatch h⟩
  | fail e => exact ⟨_, fun p' ⟨_, _, _, h, _⟩ => nomatch h⟩
  | call op next ih =>
    refine ⟨_, ?_⟩
    rintro p' ⟨op', next', r, hcall, rfl⟩
    cases hcall
    exact ih r

/-- The work that is left: the inputs that wait, then the programs under way. -/
def left (pool : Pool I ε α β) : ℕ × Multiset (Program I ε β) :=
  (pool.waiting.length, (pool.running.map Prod.snd : List (Program I ε β)))

lemma left_running (before after : List (α × Program I ε β)) (a : α) (p : Program I ε β) :
    (((before ++ (a, p) :: after).map Prod.snd : List (Program I ε β)) : Multiset (Program I ε β))
      = {p} + ((before ++ after).map Prod.snd : List (Program I ε β)) := by
  rw [List.map_append, List.map_cons, Multiset.singleton_add, Multiset.cons_coe,
    List.map_append, Multiset.coe_eq_coe]
  exact List.perm_middle

/-- A program that ends is work done. -/
lemma cutExpand_drop (p : Program I ε β) (m : Multiset (Program I ε β)) :
    CutExpand Goes m ({p} + m) := by
  simpa only [zero_add] using (cutExpand_add_right m).mpr (cutExpand_zero (r := Goes) (x := p))

/-- Every move leaves less of it. -/
lemma left_step (hstep : Step H body n s s') :
    Prod.Lex (· < ·) (CutExpand Goes) s'.1.left s.1.left := by
  cases hstep with
  | take a waiting running finished w hroom => exact .left _ _ (Nat.lt_succ_self _)
  | call a op next r waiting before after finished w w' hreply =>
    apply Prod.Lex.right
    simp only [left_running]
    exact cutExpand_single_add ⟨op, next, r, rfl, rfl⟩ _
  | finish a b waiting before after finished w =>
    apply Prod.Lex.right
    simp only [left_running]
    exact cutExpand_drop _ _
  | fail a e waiting before after finished w =>
    apply Prod.Lex.right
    simp only [left_running]
    exact cutExpand_drop _ _

/-- When every call is answered, a pool that has neither returned nor failed has a move. -/
lemma progress (hn : 0 < n) (hanswer : ∀ w op, ∃ r w', H w op r w') (s : Pool I ε α β × W) :
    (s.1.Returned ∨ s.1.failed ≠ none) ∨ ∃ s', Step H body n s s' := by
  obtain ⟨⟨waiting, running, finished, failed⟩, w⟩ := s
  cases failed with
  | some failure => exact Or.inl (Or.inr (Option.some_ne_none _))
  | none =>
    cases running with
    | cons entry after =>
      obtain ⟨a, p⟩ := entry
      cases p with
      | ret b => exact Or.inr ⟨_, .finish a b waiting [] after finished w⟩
      | fail e => exact Or.inr ⟨_, .fail a e waiting [] after finished w⟩
      | call op next =>
        obtain ⟨r, w', hreply⟩ := hanswer w op
        exact Or.inr ⟨_, .call a op next r waiting [] after finished w w' hreply⟩
    | nil =>
      cases waiting with
      | cons a waiting => exact Or.inr ⟨_, .take a waiting [] finished w hn⟩
      | nil => exact Or.inl (Or.inl ⟨rfl, rfl, rfl⟩)

/-- Every run of a pool comes to its end: it has returned, or a program has ended it. -/
theorem inevitable (hn : 0 < n) (hanswer : ∀ w op, ∃ r w', H w op r w')
    (s : Pool I ε α β × W) :
    Inevitable (Step H body n) (fun s => s.1.Returned ∨ s.1.failed ≠ none) s :=
  .of_wellFounded (Nat.lt_wfRel.wf.prod_lex goes_wellFounded.cutExpand) (fun s => s.1.left)
    (progress hn hanswer) (fun _ _ => left_step) s

/-! ### Inputs -/

/-- The inputs taken and those that wait. -/
def inputs (pool : Pool I ε α β) : List α := pool.started ++ pool.waiting

/-- No move adds an input or loses one. -/
lemma inputs_step (hstep : Step H body n s s') : s'.1.inputs.Perm s.1.inputs := by
  cases hstep with
  | take a waiting running finished w hroom => simp [inputs, started]
  | call => simp [inputs, started]
  | finish a b waiting before after finished w =>
    apply List.Perm.append_right
    simp only [started, List.map_append, List.map_cons, List.map_nil, Option.map_none,
      Option.toList_none, List.append_nil, List.append_assoc, List.singleton_append]
    exact List.perm_middle.symm.append_left _
  | fail a e waiting before after finished w =>
    apply List.Perm.append_right
    simp only [started, List.map_append, List.map_cons, Option.map_none, Option.map_some,
      Option.toList_none, Option.toList_some, List.append_nil, List.append_assoc]
    refine List.Perm.append_left _ (List.Perm.append_left _ ?_)
    exact List.perm_append_singleton a _

theorem inputs_run (hrun : Run (Step H body n) (.start order, w) (pool, w')) :
    pool.inputs.Perm order := by
  have hinv : Preserves (Step H body n) fun s => s.1.inputs.Perm order :=
    fun _ _ hstep h => (inputs_step hstep).trans h
  exact hinv.run hrun (.refl _)

/-- Inputs that differ are taken at most once each. -/
theorem started_nodup (hrun : Run (Step H body n) (.start order, w) (pool, w'))
    (horder : order.Nodup) : pool.started.Nodup :=
  ((inputs_run hrun).nodup_iff.mpr horder).sublist (List.sublist_append_left _ _)

/-- And nothing else is taken. -/
theorem mem_of_mem_started (hrun : Run (Step H body n) (.start order, w) (pool, w')) {a : α}
    (ha : a ∈ pool.started) : a ∈ order :=
  (inputs_run hrun).mem_iff.mp (List.mem_append_left _ ha)

/-- A pool that returns holds one result of each input. -/
theorem inputs_of_returned (hrun : Run (Step H body n) (.start order, w) (pool, w'))
    (hend : pool.Returned) : (pool.finished.map Prod.fst).Perm order := by
  obtain ⟨hwaiting, hrunning, hfailed⟩ := hend
  simpa [inputs, started, hwaiting, hrunning, hfailed] using inputs_run hrun

/-! ### Results -/

/-- Each program under way, and each result as the program that returns it, is in a relation to its
input. -/
structure Each (R : α → Program I ε β → Prop) (pool : Pool I ε α β) : Prop where
  running : ∀ a p, (a, p) ∈ pool.running → R a p
  finished : ∀ a b, (a, b) ∈ pool.finished → R a (.ret b)

lemma each_start {R : α → Program I ε β → Prop} : Each R (.start order) := ⟨nofun, nofun⟩

/-- What each input's program satisfies and every reply preserves, holds along every run. -/
lemma each_step (Inv : W → Prop) {R : α → Program I ε β → Prop} (hbody : ∀ a, R a (body a))
    (hcall : ∀ a op next r w w', Inv w → H w op r w' → R a (.call op next) →
      Inv w' ∧ R a (next r)) :
    Preserves (Step H body n) fun s => Inv s.2 ∧ Each R s.1 := by
  rintro s s' hstep ⟨hinv, h⟩
  cases hstep with
  | take a waiting running finished w hroom =>
    refine ⟨hinv, fun a' p hmem => ?_, h.finished⟩
    rcases List.mem_append.mp hmem with hmem | hmem
    · exact h.running a' p hmem
    · obtain ⟨rfl, rfl⟩ := Prod.mk.inj (List.mem_singleton.mp hmem)
      exact hbody _
  | call a op next r waiting before after finished w w' hreply =>
    have hnow := h.running a _ (List.mem_append_right _ List.mem_cons_self)
    obtain ⟨hinv', hnext⟩ := hcall a op next r w w' hinv hreply hnow
    refine ⟨hinv', fun a' p hmem => ?_, h.finished⟩
    rcases List.mem_append.mp hmem with hmem | hmem
    · exact h.running a' p (List.mem_append_left _ hmem)
    · rcases List.mem_cons.mp hmem with hpair | hmem
      · obtain ⟨rfl, rfl⟩ := Prod.mk.inj hpair
        exact hnext
      · exact h.running a' p (List.mem_append_right _ (List.mem_cons_of_mem _ hmem))
  | finish a b waiting before after finished w =>
    have hrest := (List.sublist_cons_self (a, Program.ret b) after).append_left before
    refine ⟨hinv, fun a' p hmem => h.running a' p (hrest.subset hmem), fun a' b' hmem => ?_⟩
    rcases List.mem_append.mp hmem with hmem | hmem
    · exact h.finished a' b' hmem
    · obtain ⟨rfl, rfl⟩ := Prod.mk.inj (List.mem_singleton.mp hmem)
      exact h.running _ _ (List.mem_append_right _ List.mem_cons_self)
  | fail a e waiting before after finished w =>
    have hrest := (List.sublist_cons_self (a, Program.fail e) after).append_left before
    exact ⟨hinv, fun a' p hmem => h.running a' p (hrest.subset hmem), h.finished⟩

/-- A result is what its input's program ended with. -/
theorem trace_of_finished (hrun : Run (Step H body n) (.start order, w) (pool, w')) {a : α} {b : β}
    (hmem : (a, b) ∈ pool.finished) : ∃ t, (body a).Trace t (.ok b) := by
  let R : α → Program I ε β → Prop := fun a p =>
    ∃ t, ∀ t' o, p.Trace t' o → (body a).Trace (t ++ t') o
  have hinv : Preserves (Step H body n) fun s => True ∧ Each R s.1 := by
    apply each_step (fun _ => True) fun a => ⟨[], fun _ _ ht => ht⟩
    rintro a op next r w w' - - ⟨t, ht⟩
    refine ⟨trivial, t ++ [⟨op, r⟩], fun t' o ho => ?_⟩
    rw [List.append_assoc]
    exact ht _ o ⟨r, t', rfl, ho⟩
  obtain ⟨t, ht⟩ := (hinv.run hrun ⟨trivial, each_start⟩).2.finished a b hmem
  exact ⟨t ++ [], ht [] _ ⟨rfl, rfl⟩⟩

/-- And what holds of every answer, holds of the answers that it got. -/
theorem trace_of_finished_forall {P : (op : I.Op) → I.Reply op → Prop}
    (hP : ∀ w op r w', H w op r w' → P op r)
    (hrun : Run (Step H body n) (.start order, w) (pool, w')) {a : α} {b : β}
    (hmem : (a, b) ∈ pool.finished) :
    ∃ t, (body a).Trace t (.ok b) ∧ ∀ e ∈ t, P e.op e.reply := by
  let R : α → Program I ε β → Prop := fun a p =>
    ∃ t, (∀ t' o, p.Trace t' o → (body a).Trace (t ++ t') o) ∧ ∀ e ∈ t, P e.op e.reply
  have hinv : Preserves (Step H body n) fun s => True ∧ Each R s.1 := by
    apply each_step (fun _ => True) fun a => ⟨[], fun _ _ ht => ht, nofun⟩
    rintro a op next r w w' - hreply ⟨t, ht, hall⟩
    refine ⟨trivial, t ++ [⟨op, r⟩], fun t' o ho => ?_, ?_⟩
    · rw [List.append_assoc]
      exact ht _ o ⟨r, t', rfl, ho⟩
    · rw [List.forall_mem_append, List.forall_mem_singleton]
      exact ⟨hall, hP w op r w' hreply⟩
  obtain ⟨t, ht, hall⟩ := (hinv.run hrun ⟨trivial, each_start⟩).2.finished a b hmem
  exact ⟨t, by simpa using ht [] _ ⟨rfl, rfl⟩, hall⟩

/-- A move under one handler is a move under any other that lets its reply through. -/
lemma Step.of_reply {H' : Handler I W} (hstep : Step H body n s s')
    (hreply : ∀ op r, H s.2 op r s'.2 → H' s.2 op r s'.2) : Step H' body n s s' := by
  cases hstep with
  | take a waiting running finished w hroom => exact .take a waiting running finished w hroom
  | call a op next r waiting before after finished w w' h =>
    exact .call a op next r waiting before after finished w w' (hreply op r h)
  | finish a b waiting before after finished w => exact .finish a b waiting before after finished w
  | fail a e waiting before after finished w => exact .fail a e waiting before after finished w

/-- The log only grows. -/
lemma Step.log_subset {s s' : Pool I ε α β × List (Event I)} (hstep : Step (.log I) body n s s') :
    s.2 ⊆ s'.2 := by
  cases hstep with
  | call a op next r waiting before after finished w w' hreply =>
    rw [show w' = w ++ [⟨op, r⟩] from hreply]
    exact List.subset_append_left w _
  | _ => exact List.Subset.refl _

/-- And so do the results. -/
lemma Step.finished_subset (hstep : Step H body n s s') : s.1.finished ⊆ s'.1.finished := by
  cases hstep with
  | finish => exact List.subset_append_left _ _
  | _ => exact List.Subset.refl _

/-- When every call is entered in a log, each reply of a run is in its last log. -/
lemma run_log {s s' : Pool I ε α β × List (Event I)} (hrun : Run (Step (.log I) body n) s s') :
    Run (Step (fun _ op r _ => (⟨op, r⟩ : Event I) ∈ s'.2) body n) s s' := by
  induction hrun with
  | refl => exact .refl
  | tail _ hstep ih =>
    refine .tail (ReflTransGen.mono ?_ _ _ ih) (hstep.of_reply ?_)
    · intro s s' h
      exact h.of_reply fun _ _ hmem => hstep.log_subset hmem
    · intro op r hreply
      rw [show _ = _ ++ [(⟨op, r⟩ : Event I)] from hreply]
      exact List.mem_append_right _ List.mem_cons_self

/-- Then the calls of a result are in the log. -/
theorem trace_of_finished_log {calls : List (Event I)}
    (hrun : Run (Step (.log I) body n) (.start order, []) (pool, calls)) {a : α} {b : β}
    (hmem : (a, b) ∈ pool.finished) : ∃ t, (body a).Trace t (.ok b) ∧ t ⊆ calls := by
  obtain ⟨t, ht, hall⟩ := trace_of_finished_forall
    (P := fun op r => (⟨op, r⟩ : Event I) ∈ calls) (fun _ _ _ _ h => h) (run_log hrun) hmem
  exact ⟨t, ht, hall⟩

/-- While the others wait, a program runs along any of its traces. -/
lemma run_of_trace {a : α} {b : β} {p : Program I ε β} {t : List (Event I)}
    (h : p.Trace t (.ok b)) (hpath : H.Path w t w') (waiting : List α)
    (before after : List (α × Program I ε β)) (finished : List (α × β)) :
    Run (Step H body n) (⟨waiting, before ++ (a, p) :: after, finished, none⟩, w)
      (⟨waiting, before ++ after, finished ++ [(a, b)], none⟩, w') := by
  induction p generalizing w t with
  | ret b' =>
    obtain ⟨rfl, hb⟩ := h
    cases hb
    cases hpath
    exact .single (.finish a b waiting before after finished _)
  | fail e => cases h.2
  | call op next ih =>
    obtain ⟨r, t, rfl, h⟩ := h
    obtain ⟨w₁, hreply, hpath⟩ := hpath
    exact .head (.call a op next r waiting before after finished w w₁ hreply) (ih r h hpath)

end Pool

end Effect
