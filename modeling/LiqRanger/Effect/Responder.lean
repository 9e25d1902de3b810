import LiqRanger.Effect.Pool

/-!
# Worlds that answer in one way

A responder gives each call one answer and one next world. It is stable when no call changes the
answer to another: then a program ends as if every call had a fixed answer (`exec_fst`), and so does
every program of a pool, whatever the interleaving and whatever else happens in between that keeps
the answers (`Pool.eval_of_finished`).
-/

namespace Effect

open Transition

universe u v

/-- The answer to a call in a world, and the next world. -/
abbrev Responder (I : Interface.{u}) (W : Type v) := (op : I.Op) → W → I.Reply op × W

variable {I : Interface.{u}} {W : Type v} {ε α β : Type u}

namespace Responder

variable (respond : Responder I W)

def handler : Handler I W := fun w op r w' => respond op w = (r, w')

/-- The answers that a world would give now. -/
def answer (w : W) (op : I.Op) : I.Reply op := (respond op w).1

/-- Nothing that happens to the world changes an answer. -/
def Keeps (happens : W → W → Prop) : Prop :=
  ∀ ⦃w w'⦄, happens w w' → respond.answer w' = respond.answer w

/-- No call changes the answer to another. -/
def Stable : Prop := ∀ op, respond.Keeps fun w w' => w' = (respond op w).2

variable {respond} {happens : W → W → Prop} {w w' : W}

lemma Keeps.run (h : respond.Keeps happens) (hrun : Run happens w w') :
    respond.answer w' = respond.answer w := by
  have hinv : Preserves happens fun w' => respond.answer w' = respond.answer w :=
    fun _ _ hstep heq => (h hstep).trans heq
  exact hinv.run hrun rfl

end Responder

/-- Run a program in a world. -/
def Program.exec (respond : Responder I W) : Program I ε α → W → Except ε α × W
  | .ret a, w => (.ok a, w)
  | .fail e, w => (.error e, w)
  | .call op next, w => (next (respond op w).1).exec respond (respond op w).2

/-- In a stable world a program ends as with the answers it would get at its start. -/
theorem exec_fst {respond : Responder I W} (h : respond.Stable) (p : Program I ε α) (w : W) :
    (p.exec respond w).1 = p.eval (respond.answer w) := by
  induction p generalizing w with
  | ret a => rfl
  | fail e => rfl
  | call op next ih =>
    rw [Program.exec, ih, h op rfl]
    rfl

/-- A run in a world is one of the traces that a handler with these answers admits. -/
lemma exists_trace_of_exec {H : Handler I W} {respond : Responder I W}
    (h : ∀ op w, H w op (respond op w).1 (respond op w).2) (p : Program I ε α) (w : W) :
    ∃ t, p.Trace t (p.exec respond w).1 ∧ H.Path w t (p.exec respond w).2 := by
  induction p generalizing w with
  | ret a => exact ⟨[], ⟨rfl, rfl⟩, rfl⟩
  | fail e => exact ⟨[], ⟨rfl, rfl⟩, rfl⟩
  | call op next ih =>
    obtain ⟨t, htrace, hpath⟩ := ih (respond op w).1 (respond op w).2
    exact ⟨⟨op, (respond op w).1⟩ :: t, ⟨_, t, rfl, htrace⟩, _, h op w, hpath⟩

namespace Pool

variable {respond : Responder I W} {happens : W → W → Prop} {body : α → Program I ε β} {n : ℕ}
  {order : List α} {pool : Pool I ε α β} {w w' : W}

/-- A move of the pool, or something that happens outside of it. -/
def SharedStep (respond : Responder I W) (happens : W → W → Prop) (body : α → Program I ε β)
    (n : ℕ) (s s' : Pool I ε α β × W) : Prop :=
  Step respond.handler body n s s' ∨ (s'.1 = s.1 ∧ happens s.2 s'.2)

/-- A result is how its input's program ends with the answers from before the first move. -/
theorem eval_of_finished (h : respond.Stable) (hkeeps : respond.Keeps happens)
    (hrun : Run (SharedStep respond happens body n) (.start order, w) (pool, w')) :
    respond.answer w' = respond.answer w ∧
      ∀ a b, (a, b) ∈ pool.finished → (body a).eval (respond.answer w) = .ok b := by
  let R : α → Program I ε β → Prop := fun a p =>
    p.eval (respond.answer w) = (body a).eval (respond.answer w)
  have hstep : Preserves (Step respond.handler body n) fun s =>
      respond.answer s.2 = respond.answer w ∧ Each R s.1 := by
    apply each_step (fun w' => respond.answer w' = respond.answer w) (R := R) fun _ => rfl
    rintro a op next r w₁ w₂ hanswer hreply heq
    obtain ⟨rfl, rfl⟩ := Prod.mk.inj hreply.symm
    have hop : (respond op w₁).1 = respond.answer w op := congrFun hanswer op
    refine ⟨(h op rfl).trans hanswer, ?_⟩
    rw [hop]
    exact heq
  have hinv : Preserves (SharedStep respond happens body n) fun s =>
      respond.answer s.2 = respond.answer w ∧ Each R s.1 := by
    rintro ⟨pool, w₁⟩ ⟨pool', w₂⟩ (hmove | ⟨hsame, hhappens⟩) hs
    · exact hstep hmove hs
    · dsimp only at hsame
      rw [hsame]
      exact ⟨(hkeeps hhappens).trans hs.1, hs.2⟩
  obtain ⟨hanswer, hpool⟩ := hinv.run hrun ⟨rfl, each_start⟩
  exact ⟨hanswer, fun a b hmem => (hpool.finished a b hmem).symm⟩

/-- A program that is alone in a pool runs to its end. -/
lemma run_alone {a : α} {b : β} {p : Program I ε β} (h : p.exec respond w = (.ok b, w')) :
    Run (Step respond.handler body n) (⟨[], [(a, p)], [], none⟩, w) (⟨[], [], [(a, b)], none⟩, w')
    := by
  induction p generalizing w with
  | ret b' =>
    obtain ⟨hb, rfl⟩ := Prod.mk.inj h
    cases hb
    exact .single (.finish a b [] [] [] [] w)
  | fail e => cases (Prod.mk.inj h).1
  | call op next ih => exact .head (.call a op next _ [] [] [] [] w _ rfl) (ih _ h)

/-- So a pool of one input returns what its program does. -/
lemma run_single {a : α} {b : β} (hn : 0 < n) (h : (body a).exec respond w = (.ok b, w')) :
    Run (SharedStep respond happens body n) (.start [a], w) (⟨[], [], [(a, b)], none⟩, w') :=
  Relation.ReflTransGen.mono (fun _ _ => Or.inl) _ _
    (.head (.take a [] [] [] w hn) (run_alone h))

end Pool

end Effect
