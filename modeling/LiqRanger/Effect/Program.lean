import Mathlib.Tactic.Common

/-!
# Programs that call the outside

A program makes calls to an interface and goes on with the replies; it ends with a value or
with an error. Nothing is assumed of the replies: `Program.Trace` is every sequence of calls
and replies a program can go through, and `Program.eval` runs a program against one fixed
answer for each call.
-/

namespace Effect

universe u

/-- The calls a program can make: the operations, and the type of the reply to each. -/
structure Interface where
  Op : Type u
  Reply : Op → Type u

/-- A program over the interface `I`, with errors in `ε` and results in `α`. -/
inductive Program (I : Interface.{u}) (ε α : Type u) : Type u where
  | ret (a : α)
  | fail (e : ε)
  | call (op : I.Op) (next : I.Reply op → Program I ε α)

/-- One call together with the reply it got. -/
structure Event (I : Interface.{u}) where
  op : I.Op
  reply : I.Reply op

variable {I : Interface.{u}} {ε α β γ : Type u}

namespace Program

/-- Run `p`, then `f` on its value; an error ends the whole program. -/
def bind : Program I ε α → (α → Program I ε β) → Program I ε β
  | .ret a, f => f a
  | .fail e, _ => .fail e
  | .call op next, f => .call op fun r => (next r).bind f

instance : Monad (Program I ε) where
  pure := .ret
  bind := Program.bind

@[simp] lemma pure_eq_ret (a : α) : (pure a : Program I ε α) = .ret a := rfl

@[simp] lemma ret_bind (a : α) (f : α → Program I ε β) : (.ret a >>= f) = f a := rfl

@[simp] lemma fail_bind (e : ε) (f : α → Program I ε β) : (.fail e >>= f) = .fail e := rfl

@[simp] lemma call_bind (op : I.Op) (next : I.Reply op → Program I ε α)
    (f : α → Program I ε β) : (.call op next >>= f) = .call op fun r => next r >>= f := rfl

lemma bind_ret (p : Program I ε α) : (p >>= .ret) = p := by
  induction p with
  | ret a => rfl
  | fail e => rfl
  | call op next ih => exact congrArg (Program.call op) (funext ih)

lemma bind_assoc (p : Program I ε α) (f : α → Program I ε β) (g : β → Program I ε γ) :
    (p >>= f) >>= g = p >>= fun a => f a >>= g := by
  induction p with
  | ret a => rfl
  | fail e => rfl
  | call op next ih => exact congrArg (Program.call op) (funext ih)

instance : LawfulMonad (Program I ε) :=
  LawfulMonad.mk' _ bind_ret (fun _ _ => rfl) bind_assoc

/-- Run a program that may fail and hand its outcome to a caller that matches on it. -/
def attempt {ε' : Type u} : Program I ε α → Program I ε' (Except ε α)
  | .ret a => .ret (.ok a)
  | .fail e => .ret (.error e)
  | .call op next => .call op fun r => (next r).attempt

section
variable {ε' : Type u}

@[simp] lemma attempt_ret (a : α) :
    (Program.ret a : Program I ε α).attempt = (.ret (.ok a) : Program I ε' _) := rfl

@[simp] lemma attempt_fail (e : ε) :
    (Program.fail e : Program I ε α).attempt = (.ret (.error e) : Program I ε' _) := rfl

@[simp] lemma attempt_call (op : I.Op) (next : I.Reply op → Program I ε α) :
    (Program.call op next).attempt
      = (.call op fun r => (next r).attempt : Program I ε' (Except ε α)) := rfl

end

/-- Unwrap a fallible reply, ending the program on an error. -/
def ofExcept : Except ε α → Program I ε α
  | .ok a => .ret a
  | .error e => .fail e

@[simp] lemma ofExcept_ok (a : α) : (ofExcept (.ok a) : Program I ε α) = .ret a := rfl

@[simp] lemma ofExcept_error (e : ε) : (ofExcept (.error e) : Program I ε α) = .fail e := rfl

/-! ### Traces -/

/-- `p.Trace t o`: with the replies recorded in `t` the program makes exactly the calls of `t`
and ends with `o`. -/
def Trace : Program I ε α → List (Event I) → Except ε α → Prop
  | .ret a, t, o => t = [] ∧ o = .ok a
  | .fail e, t, o => t = [] ∧ o = .error e
  | .call op next, t, o => ∃ r t', t = ⟨op, r⟩ :: t' ∧ (next r).Trace t' o

@[simp] lemma trace_ret (a : α) (t : List (Event I)) (o : Except ε α) :
    (Program.ret a).Trace t o ↔ t = [] ∧ o = .ok a := Iff.rfl

@[simp] lemma trace_fail (e : ε) (t : List (Event I)) (o : Except ε α) :
    (Program.fail e).Trace t o ↔ t = [] ∧ o = .error e := Iff.rfl

@[simp] lemma trace_call (op : I.Op) (next : I.Reply op → Program I ε α)
    (t : List (Event I)) (o : Except ε α) :
    (Program.call op next).Trace t o ↔ ∃ r t', t = ⟨op, r⟩ :: t' ∧ (next r).Trace t' o :=
  Iff.rfl

/-- A trace of `p >>= f` is a trace of `p` that fails, or one that returns followed by a trace
of the continuation. -/
lemma trace_bind (p : Program I ε α) (f : α → Program I ε β) (t : List (Event I))
    (o : Except ε β) :
    (p >>= f).Trace t o ↔
      (∃ e, p.Trace t (.error e) ∧ o = .error e) ∨
      ∃ t₁ t₂ a, t = t₁ ++ t₂ ∧ p.Trace t₁ (.ok a) ∧ (f a).Trace t₂ o := by
  induction p generalizing t with
  | ret a =>
    simp only [ret_bind, trace_ret]
    constructor
    · intro h
      exact Or.inr ⟨[], t, a, rfl, ⟨rfl, rfl⟩, h⟩
    · rintro (⟨e, ⟨-, he⟩, -⟩ | ⟨t₁, t₂, b, rfl, ⟨rfl, hb⟩, h⟩)
      · cases he
      · cases hb; exact h
  | fail e =>
    simp only [fail_bind, trace_fail]
    constructor
    · rintro ⟨rfl, rfl⟩
      exact Or.inl ⟨e, ⟨rfl, rfl⟩, rfl⟩
    · rintro (⟨e', ⟨rfl, he⟩, rfl⟩ | ⟨t₁, t₂, b, rfl, ⟨rfl, hb⟩, h⟩)
      · cases he; exact ⟨rfl, rfl⟩
      · cases hb
  | call op next ih =>
    simp only [call_bind, trace_call, ih]
    constructor
    · rintro ⟨r, t', rfl, (⟨e, he, rfl⟩ | ⟨t₁, t₂, a, rfl, h₁, h₂⟩)⟩
      · exact Or.inl ⟨e, ⟨r, t', rfl, he⟩, rfl⟩
      · exact Or.inr ⟨⟨op, r⟩ :: t₁, t₂, a, rfl, ⟨r, t₁, rfl, h₁⟩, h₂⟩
    · rintro (⟨e, ⟨r, t', rfl, he⟩, rfl⟩ | ⟨_, t₂, a, rfl, ⟨r, t₁, rfl, h₁⟩, h₂⟩)
      · exact ⟨r, t', rfl, Or.inl ⟨e, he, rfl⟩⟩
      · exact ⟨r, t₁ ++ t₂, rfl, Or.inr ⟨t₁, t₂, a, rfl, h₁, h₂⟩⟩

/-- A caught program goes through the same calls, and its outcome is returned. -/
lemma trace_attempt {ε' : Type u} (p : Program I ε α) (t : List (Event I))
    (o : Except ε' (Except ε α)) :
    p.attempt.Trace t o ↔ ∃ o', p.Trace t o' ∧ o = .ok o' := by
  induction p generalizing t with
  | ret a => simp [and_assoc]
  | fail e => simp [and_assoc]
  | call op next ih =>
    simp only [attempt_call, trace_call, ih]
    constructor
    · rintro ⟨r, t', rfl, o', h, rfl⟩
      exact ⟨o', ⟨r, t', rfl, h⟩, rfl⟩
    · rintro ⟨o', ⟨r, t', rfl, h⟩, rfl⟩
      exact ⟨r, t', rfl, o', h, rfl⟩

/-- A caught program whose outcome is turned into another one. -/
lemma trace_attempt_ofExcept {ε' : Type u} {p : Program I ε α}
    {f : Except ε α → Except ε' β} {t : List (Event I)} {o : Except ε' β} :
    (p.attempt >>= fun outcome => ofExcept (f outcome)).Trace t o ↔
      ∃ o', p.Trace t o' ∧ o = f o' := by
  have hlast (o' : Except ε α) (t' : List (Event I)) :
      (ofExcept (f o')).Trace t' o ↔ t' = [] ∧ o = f o' := by
    cases f o' <;> exact Iff.rfl
  rw [trace_bind]
  constructor
  · rintro (⟨e, hattempt, -⟩ | ⟨t₁, t₂, o', rfl, hattempt, hend⟩)
    · obtain ⟨o', -, ho⟩ := (trace_attempt _ _ _).mp hattempt
      cases ho
    · obtain ⟨rfl, rfl⟩ := (hlast o' t₂).mp hend
      obtain ⟨o'', hp, ho⟩ := (trace_attempt _ _ _).mp hattempt
      cases ho
      exact ⟨o', by rwa [List.append_nil], rfl⟩
  · rintro ⟨o', hp, rfl⟩
    exact Or.inr ⟨t, [], o', (List.append_nil t).symm,
      (trace_attempt _ _ _).mpr ⟨o', hp, rfl⟩, (hlast o' []).mpr ⟨rfl, rfl⟩⟩

/-- A loop that returns runs its body on each element in turn. -/
lemma trace_mapM_ok (f : α → Program I ε β) (l : List α) (t : List (Event I)) (bs : List β) :
    (l.mapM f).Trace t (.ok bs) ↔ ∃ runs : List (List (Event I) × β),
      t = (runs.map Prod.fst).flatten ∧ bs = runs.map Prod.snd ∧
      List.Forall₂ (fun a run => (f a).Trace run.1 (.ok run.2)) l runs := by
  induction l generalizing t bs with
  | nil =>
    simp only [List.mapM_nil, pure_eq_ret, trace_ret, Except.ok.injEq]
    constructor
    · rintro ⟨rfl, rfl⟩
      exact ⟨[], rfl, rfl, .nil⟩
    · rintro ⟨runs, rfl, rfl, hruns⟩
      cases hruns
      exact ⟨rfl, rfl⟩
  | cons a l ih =>
    simp only [List.mapM_cons, trace_bind, ih]
    constructor
    · rintro (⟨e, -, he⟩ | ⟨t₁, t₂, b, rfl, hfirst, ⟨e, -, he⟩ | ⟨t₃, t₄, _, rfl,
        ⟨runs, rfl, rfl, hruns⟩, hret⟩⟩)
      · cases he
      · cases he
      · obtain ⟨rfl, hbs⟩ := hret
        cases hbs
        exact ⟨(t₁, b) :: runs, by simp, rfl, .cons hfirst hruns⟩
    · rintro ⟨runs, rfl, rfl, hruns⟩
      cases hruns with
      | cons hfirst hrest =>
        rename_i run runs
        exact Or.inr ⟨run.1, (runs.map Prod.fst).flatten, run.2, by simp, hfirst,
          Or.inr ⟨_, [], _, (List.append_nil _).symm, ⟨runs, rfl, rfl, hrest⟩, rfl, rfl⟩⟩

/-- A loop that fails fails in its body. -/
lemma exists_of_trace_mapM_error {f : α → Program I ε β} {l : List α} {t : List (Event I)} {e : ε}
    (h : (l.mapM f).Trace t (.error e)) :
    ∃ a ∈ l, ∃ t', t' <:+: t ∧ (f a).Trace t' (.error e) := by
  induction l generalizing t with
  | nil => cases h.2
  | cons a l ih =>
    simp only [List.mapM_cons, trace_bind] at h
    rcases h with ⟨e', he, heq⟩ | ⟨t₁, t₂, b, rfl, -, ⟨e', he, heq⟩ | ⟨t₃, t₄, _, -, -, hret⟩⟩
    · cases heq
      exact ⟨a, List.mem_cons_self, t, List.infix_rfl, he⟩
    · cases heq
      obtain ⟨a', ha', t', ht', hfail⟩ := ih he
      have hinfix := ht'.trans (List.suffix_append t₁ t₂).isInfix
      exact ⟨a', List.mem_cons_of_mem a ha', t', hinfix, hfail⟩
    · cases hret.2

/-! ### Running against fixed answers -/

/-- Run a program when every call `op` is answered by `answer op`. -/
def eval (answer : (op : I.Op) → I.Reply op) : Program I ε α → Except ε α
  | .ret a => .ok a
  | .fail e => .error e
  | .call op next => (next (answer op)).eval answer

section
variable (answer : (op : I.Op) → I.Reply op)

@[simp] lemma eval_ret (a : α) : (Program.ret a : Program I ε α).eval answer = .ok a := rfl

@[simp] lemma eval_fail (e : ε) : (Program.fail e : Program I ε α).eval answer = .error e := rfl

@[simp] lemma eval_call (op : I.Op) (next : I.Reply op → Program I ε α) :
    (Program.call op next).eval answer = (next (answer op)).eval answer := rfl

@[simp] lemma eval_ofExcept (r : Except ε α) :
    (ofExcept r : Program I ε α).eval answer = r := by
  cases r <;> rfl

/-- A sequence evaluates its parts one after the other. -/
lemma eval_bind (p : Program I ε α) (f : α → Program I ε β) :
    (p >>= f).eval answer = p.eval answer >>= fun a => (f a).eval answer := by
  induction p with
  | ret a => rfl
  | fail e => rfl
  | call op next ih => exact ih (answer op)

/-- It is one of the traces. -/
lemma exists_trace_eval (p : Program I ε α) : ∃ t : List (Event I),
    p.Trace t (p.eval answer) ∧ ∀ e ∈ t, e.reply = answer e.op := by
  induction p with
  | ret a => exact ⟨[], ⟨rfl, rfl⟩, by simp⟩
  | fail e => exact ⟨[], ⟨rfl, rfl⟩, by simp⟩
  | call op next ih =>
    obtain ⟨t, htrace, hreplies⟩ := ih (answer op)
    refine ⟨⟨op, answer op⟩ :: t, ⟨answer op, t, rfl, htrace⟩, ?_⟩
    rintro e (_ | ⟨_, he⟩)
    · rfl
    · exact hreplies e he

variable {answer}

/-- It returns when its first part does and the rest returns on that value. -/
lemma eval_bind_eq_ok_iff {p : Program I ε α} {f : α → Program I ε β} {b : β} :
    (p >>= f).eval answer = .ok b ↔ ∃ a, p.eval answer = .ok a ∧ (f a).eval answer = .ok b := by
  rw [eval_bind]
  cases p.eval answer with
  | error e => simp [Bind.bind, Except.bind]
  | ok a => simp [Bind.bind, Except.bind]

end

end Program

end Effect
