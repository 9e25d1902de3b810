import LiqRanger.Effect.Interpret
import LiqRanger.Effect.Pool
import Mathlib.Logic.Function.Basic

/-!
# Shared caches

A lookup takes a value from a cache, or asks the source and then enters the answer. Programs that
run at the same time and share the cache do so with no lock: between the calls of a lookup anything
may happen. Still every run of a pool of such programs is met by a run in which each lookup is one
call to the source (`Pool.memoise_refines`): there is nothing that a cached value could be but an
answer.
-/

namespace Effect

open Transition

universe u v

variable {κ : Type u} {ν : κ → Type u} {δ ε ε' α β : Type u} {J : Interface.{u}}

/-- Each key is asked for its value. -/
abbrev sourcePorts (ν : κ → Type u) (δ : Type u) : Interface.{u} := ⟨κ, fun k => Except δ (ν k)⟩

inductive MemoOp (ν : κ → Type u) : Type u where
  | cached (k : κ)
  | ask (k : κ)
  | store (k : κ) (v : ν k)

def MemoOp.Reply (δ : Type u) : MemoOp ν → Type u
  | .cached k => Option (ν k)
  | .ask k => Except δ (ν k)
  | .store .. => PUnit

/-- The source and the cache. -/
abbrev memoPorts (ν : κ → Type u) (δ : Type u) : Interface.{u} := ⟨MemoOp ν, MemoOp.Reply δ⟩

/-! ### Lookups -/

/-- The end of a lookup that has asked: only values are entered. -/
def enter (k : κ) : Except δ (ν k) → Program (memoPorts ν δ) ε (Except δ (ν k))
  | .ok v => .call (.store k v) fun _ => .ret (.ok v)
  | .error e => .ret (.error e)

def askAndEnter (k : κ) : Program (memoPorts ν δ) ε (Except δ (ν k)) := .call (.ask k) (enter k)

/-- A value from the cache, or else from the source. -/
def memo (k : κ) : Program (memoPorts ν δ) ε (Except δ (ν k)) :=
  .call (.cached k) fun
    | some v => .ret (.ok v)
    | none => askAndEnter k

namespace Program

/-- The same program, with lookups in place of the calls to the source. -/
def memoise : Program (J.sum (sourcePorts ν δ)) ε α → Program (J.sum (memoPorts ν δ)) ε α
  | .ret a => .ret a
  | .fail e => .fail e
  | .call (.inl op) next => .call (.inl op) fun r => (next r).memoise
  | .call (.inr k) next => (memo k).right J >>= fun r => (next r).memoise

/-- A call to the source alone becomes a lookup. -/
lemma memoise_source (k : κ) :
    (Program.call (.inr k) .ret : Program (J.sum (sourcePorts ν δ)) ε _).memoise =
      (memo k).right J := by
  rw [memoise]
  exact bind_ret _

lemma memoise_bind (p : Program (J.sum (sourcePorts ν δ)) ε α)
    (f : α → Program (J.sum (sourcePorts ν δ)) ε β) :
    (p >>= f).memoise = p.memoise >>= fun a => (f a).memoise := by
  induction p with
  | ret a => rfl
  | fail e => rfl
  | call op next ih =>
    cases op with
    | inl op => exact congrArg (Program.call (I := J.sum (memoPorts ν δ)) (.inl op)) (funext ih)
    | inr k =>
      have hnext : (fun r => (next r >>= f).memoise) =
          fun r => (next r).memoise >>= fun a => (f a).memoise := funext ih
      exact (congrArg ((memo k).right J >>= ·) hnext).trans (bind_assoc _ _ _).symm

lemma memoise_interpret {I : Interface.{u}}
    (impl : (op : I.Op) → Program (J.sum (sourcePorts ν δ)) ε' (I.Reply op)) (p : Program I ε α) :
    (p.interpret impl).memoise = p.interpret fun op => (impl op).memoise := by
  induction p with
  | ret a => rfl
  | fail e => rfl
  | call op next ih =>
    rw [interpret, interpret, memoise_bind]
    exact congrArg _ (funext ih)

end Program

/-! ### The cache in a world -/

/-- What is entered for each key. -/
abbrev Cache (ν : κ → Type u) := (k : κ) → Option (ν k)

section
variable {W : Type v} (H : Handler J W) (Answers : (k : κ) → Except δ (ν k) → Prop)

/-- The source gives any of the answers for a key, and different ones at different times. -/
def Handler.withSource : Handler (J.sum (sourcePorts ν δ)) W
  | w, .inl op, r, w' => H w op r w'
  | w, .inr k, r, w' => Answers k r ∧ w' = w

def Handler.withMemo [DecidableEq κ] : Handler (J.sum (memoPorts ν δ)) (W × Cache ν)
  | w, .inl op, r, w' => H w.1 op r w'.1 ∧ w'.2 = w.2
  | w, .inr (.cached k), r, w' => r = w.2 k ∧ w' = w
  | w, .inr (.ask k), r, w' => Answers k r ∧ w' = w
  | w, .inr (.store k v), _, w' => w' = (w.1, Function.update w.2 k (some v))

/-- What is entered is an answer. -/
def Cache.Sound (c : Cache ν) : Prop := ∀ k v, c k = some v → Answers k (.ok v)

variable {Answers}

lemma Cache.Sound.update [DecidableEq κ] {c : Cache ν} (h : c.Sound Answers) {k : κ} {v : ν k}
    (hv : Answers k (.ok v)) : Cache.Sound Answers (Function.update c k (some v)) := by
  intro k' v' hv'
  by_cases hk : k' = k
  · subst hk
    rw [Function.update_self, Option.some.injEq] at hv'
    exact hv' ▸ hv
  · rw [Function.update_of_ne hk] at hv'
    exact h k' v' hv'

end

/-! ### Programs under way -/

/-- The second program is the first with lookups, perhaps in the middle of one: after an empty
cache, where the call to the source is still to come, or after the call, with its answer to be
entered. -/
inductive Tracks (Answers : (k : κ) → Except δ (ν k) → Prop) :
    Program (J.sum (sourcePorts ν δ)) ε α → Program (J.sum (memoPorts ν δ)) ε α → Prop where
  | same (p : Program (J.sum (sourcePorts ν δ)) ε α) : Tracks Answers p p.memoise
  | asking (k : κ) (next : Except δ (ν k) → Program (J.sum (sourcePorts ν δ)) ε α) :
      Tracks Answers (.call (.inr k) next)
        ((askAndEnter k).right J >>= fun r => (next r).memoise)
  | entering (k : κ) (v : ν k) (hv : Answers k (.ok v))
      (next : Except δ (ν k) → Program (J.sum (sourcePorts ν δ)) ε α) :
      Tracks Answers (next (.ok v)) ((enter k (.ok v)).right J >>= fun r => (next r).memoise)

section
variable {W : Type v} {H : Handler J W} {Answers : (k : κ) → Except δ (ν k) → Prop}

lemma Tracks.ret_inv {p : Program (J.sum (sourcePorts ν δ)) ε α} {a : α}
    (h : Tracks Answers p (.ret a)) : p = .ret a := by
  generalize hq : Program.ret a = q at h
  cases h with
  | same =>
    cases p with
    | ret a' => cases hq; rfl
    | fail e => cases hq
    | call op next => cases op <;> cases hq
  | asking k next => cases hq
  | entering k v hv next => cases hq

lemma Tracks.fail_inv {p : Program (J.sum (sourcePorts ν δ)) ε α} {e : ε}
    (h : Tracks Answers p (.fail e)) : p = .fail e := by
  generalize hq : Program.fail e = q at h
  cases h with
  | same =>
    cases p with
    | ret a' => cases hq
    | fail e => cases hq; rfl
    | call op next => cases op <;> cases hq
  | asking k next => cases hq
  | entering k v hv next => cases hq

/-- A call is one of the first program, with the same reply and the same effect, or none. -/
lemma Tracks.call [DecidableEq κ] {p : Program (J.sum (sourcePorts ν δ)) ε α}
    {op : (J.sum (memoPorts ν δ)).Op}
    {next : (J.sum (memoPorts ν δ)).Reply op → Program (J.sum (memoPorts ν δ)) ε α}
    {r : (J.sum (memoPorts ν δ)).Reply op} {w w' : W × Cache ν}
    (h : Tracks Answers p (.call op next)) (hreply : H.withMemo Answers w op r w')
    (hsound : w.2.Sound Answers) :
    w'.2.Sound Answers ∧
      ((w'.1 = w.1 ∧ Tracks Answers p (next r)) ∨
        ∃ op' next' r', p = .call op' next' ∧ H.withSource Answers w.1 op' r' w'.1 ∧
          Tracks Answers (next' r') (next r)) := by
  generalize hq : Program.call op next = q at h
  cases h with
  | same =>
    cases p with
    | ret a => cases hq
    | fail e => cases hq
    | call op' next' =>
      cases op' with
      | inl op' =>
        cases hq
        obtain ⟨hH, hcache⟩ := hreply
        exact ⟨hcache ▸ hsound, Or.inr ⟨.inl op', next', r, rfl, hH, .same _⟩⟩
      | inr k =>
        cases hq
        obtain ⟨rfl, rfl⟩ := hreply
        refine ⟨hsound, ?_⟩
        -- A value in the cache is the answer to the call.
        cases hvalue : w'.2 k with
        | none => exact Or.inl ⟨rfl, .asking k next'⟩
        | some v =>
          exact Or.inr ⟨.inr k, next', Except.ok v, rfl, ⟨hsound k v hvalue, rfl⟩, .same _⟩
  | asking k next' =>
    cases hq
    obtain ⟨hanswer, rfl⟩ := hreply
    refine ⟨hsound, Or.inr ⟨.inr k, next', r, rfl, ⟨hanswer, rfl⟩, ?_⟩⟩
    cases r with
    | ok v => exact .entering k v hanswer next'
    | error e => exact .same _
  | entering k v hv next' =>
    cases hq
    obtain rfl := hreply
    exact ⟨hsound.update hv, Or.inl ⟨rfl, .same _⟩⟩

end

/-! ### Pools -/

namespace Pool

/-- Up to lookups that are under way, the same state. -/
structure Matches (Answers : (k : κ) → Except δ (ν k) → Prop)
    (pool' : Pool (J.sum (memoPorts ν δ)) ε α β)
    (pool : Pool (J.sum (sourcePorts ν δ)) ε α β) : Prop where
  waiting : pool'.waiting = pool.waiting
  running : List.Forall₂ (fun x y => x.1 = y.1 ∧ Tracks Answers y.2 x.2) pool'.running pool.running
  finished : pool'.finished = pool.finished
  failed : pool'.failed = pool.failed

variable [DecidableEq κ] {W : Type v} {H : Handler J W}
  {Answers : (k : κ) → Except δ (ν k) → Prop}
  {body : α → Program (J.sum (sourcePorts ν δ)) ε β} {n : ℕ}

omit [DecidableEq κ] in
/-- One program under way, and what matches it. -/
lemma Matches.split {pool' : Pool (J.sum (memoPorts ν δ)) ε α β}
    {pool : Pool (J.sum (sourcePorts ν δ)) ε α β} (h : Matches Answers pool' pool)
    {before' after' : List (α × Program (J.sum (memoPorts ν δ)) ε β)} {a : α}
    {q : Program (J.sum (memoPorts ν δ)) ε β} (hq : pool'.running = before' ++ (a, q) :: after') :
    ∃ before p after, pool.running = before ++ (a, p) :: after ∧ Tracks Answers p q ∧
      ∀ pairs' pairs, List.Forall₂ (fun x y => x.1 = y.1 ∧ Tracks Answers y.2 x.2) pairs' pairs →
        List.Forall₂ (fun x y => x.1 = y.1 ∧ Tracks Answers y.2 x.2)
          (before' ++ pairs' ++ after') (before ++ pairs ++ after) := by
  have hrunning := h.running
  rw [hq] at hrunning
  clear hq
  generalize pool.running = running at hrunning
  induction before' generalizing running with
  | nil =>
    cases hrunning with
    | cons hhead hafter =>
      obtain ⟨rfl, htracks⟩ := hhead
      exact ⟨[], _, _, rfl, htracks, fun _ _ hpairs => List.rel_append hpairs hafter⟩
  | cons x before' ih =>
    cases hrunning with
    | cons hhead hrest =>
      obtain ⟨before, p, after, rfl, htracks, hreplace⟩ := ih _ hrest
      refine ⟨_ :: before, p, after, rfl, htracks, fun pairs' pairs hpairs => ?_⟩
      exact .cons hhead (hreplace pairs' pairs hpairs)

lemma memoise_simulates : Simulates
    (Step (H.withMemo Answers) (fun a => (body a).memoise) n) (Step (H.withSource Answers) body n)
    fun s' s => Matches Answers s'.1 s.1 ∧ s'.2.1 = s.2 ∧ s'.2.2.Sound Answers := by
  rintro s₁ s₁' ⟨⟨waiting', running', finished', failed'⟩, w⟩ hstep ⟨h, rfl, hsound⟩
  obtain ⟨hw, hr, hfin, hfail⟩ := id h
  dsimp only at hw hr hfin hfail
  cases hstep with
  | take a waiting running finished w hroom =>
    subst hw hfin hfail
    have hstep : Step (H.withSource Answers) body n _ _ :=
      .take a waiting running' finished w.1 (hr.length_eq ▸ hroom)
    refine ⟨_, .single hstep, ⟨rfl, ?_, rfl, rfl⟩, rfl, hsound⟩
    exact List.rel_append hr (.cons ⟨rfl, .same _⟩ .nil)
  | call a op next r waiting before after finished w w' hreply =>
    subst hw hfin hfail
    obtain ⟨before', p, after', rfl, htracks, hreplace⟩ := h.split rfl
    obtain ⟨hsound', ⟨hworld, hnext⟩ | ⟨op', next', r', rfl, hreply', hnext⟩⟩ :=
      htracks.call hreply hsound
    · refine ⟨_, .refl, ⟨rfl, ?_, rfl, rfl⟩, hworld, hsound'⟩
      simpa using hreplace _ _ (.cons ⟨rfl, hnext⟩ .nil)
    · have hstep : Step (H.withSource Answers) body n _ _ :=
        .call a op' next' r' waiting before' after' finished w.1 w'.1 hreply'
      refine ⟨_, .single hstep, ⟨rfl, ?_, rfl, rfl⟩, rfl, hsound'⟩
      simpa using hreplace _ _ (.cons ⟨rfl, hnext⟩ .nil)
  | finish a b waiting before after finished w =>
    subst hw hfin hfail
    obtain ⟨before', p, after', rfl, htracks, hreplace⟩ := h.split rfl
    obtain rfl := htracks.ret_inv
    have hstep : Step (H.withSource Answers) body n _ _ :=
      .finish a b waiting before' after' finished w.1
    refine ⟨_, .single hstep, ⟨rfl, ?_, rfl, rfl⟩, rfl, hsound⟩
    simpa using hreplace _ _ .nil
  | fail a e waiting before after finished w =>
    subst hw hfin hfail
    obtain ⟨before', p, after', rfl, htracks, hreplace⟩ := h.split rfl
    obtain rfl := htracks.fail_inv
    have hstep : Step (H.withSource Answers) body n _ _ :=
      .fail a e waiting before' after' finished w.1
    refine ⟨_, .single hstep, ⟨rfl, ?_, rfl, rfl⟩, rfl, hsound⟩
    simpa using hreplace _ _ .nil

/-- Programs that share a cache run as if each lookup were one call to the source. -/
theorem memoise_refines {order : List α} {pool' : Pool (J.sum (memoPorts ν δ)) ε α β} {w : W}
    {w' : W × Cache ν}
    (hrun : Run (Step (H.withMemo Answers) (fun a => (body a).memoise) n)
      (.start order, (w, fun _ => none)) (pool', w')) :
    ∃ pool, Run (Step (H.withSource Answers) body n) (.start order, w) (pool, w'.1) ∧
      Matches Answers pool' pool ∧ w'.2.Sound Answers := by
  obtain ⟨⟨pool, w₁⟩, hrun', hmatches, rfl, hsound⟩ := memoise_simulates.run hrun
    (t := (.start order, w)) ⟨⟨rfl, .nil, rfl, rfl⟩, rfl, nofun⟩
  exact ⟨pool, hrun', hmatches, hsound⟩

end Pool

end Effect
