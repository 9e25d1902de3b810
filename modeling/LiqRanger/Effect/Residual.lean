import LiqRanger.Effect.Program

/-!
# Programs part of the way

What is left of a program after some of its calls. Where every call can be answered, the calls made
so far are the beginning of a whole trace (`Program.After.exists_trace`): what holds of every trace,
as far as it is about what was called, holds of a program that is still under way.
-/

namespace Effect

universe u

variable {I : Interface.{u}} {ε α : Type u}

namespace Program

/-- Of `p` the program `q` is left after the events `t`. -/
inductive After (p : Program I ε α) : List (Event I) → Program I ε α → Prop where
  | start : After p [] p
  | call {t : List (Event I)} {op : I.Op} {next : I.Reply op → Program I ε α}
      (h : After p t (.call op next)) (r : I.Reply op) : After p (t ++ [⟨op, r⟩]) (next r)

variable {p q : Program I ε α} {t u : List (Event I)} {o : Except ε α}

/-- The events so far, and then those of what is left. -/
lemma After.trace (h : After p t q) (hq : q.Trace u o) : p.Trace (t ++ u) o := by
  induction h generalizing u with
  | start => exact hq
  | @call t op next _ r ih =>
    rw [List.append_assoc]
    exact ih ⟨r, u, rfl, hq⟩

lemma After.append (h : After p t q) (hq : q.Trace u o) : After p (t ++ u) (ofExcept o) := by
  induction q generalizing t u with
  | ret a =>
    obtain ⟨rfl, rfl⟩ := hq
    rwa [List.append_nil]
  | fail e =>
    obtain ⟨rfl, rfl⟩ := hq
    rwa [List.append_nil]
  | call op next ih =>
    obtain ⟨r, u, rfl, hq⟩ := hq
    have hrest := ih r (h.call r) hq
    rwa [List.append_assoc, List.singleton_append] at hrest

/-- A whole trace is a part of the way. -/
lemma After.of_trace (h : p.Trace u o) : After p u (ofExcept o) := After.append .start h

lemma After.exists_trace [∀ op, Nonempty (I.Reply op)] (h : After p t q) :
    ∃ u o, p.Trace (t ++ u) o := by
  obtain ⟨u, hu, -⟩ := exists_trace_eval (fun op => Classical.arbitrary (I.Reply op)) q
  exact ⟨u, _, h.trace hu⟩

end Program

end Effect
