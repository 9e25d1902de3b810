import LiqRanger.Effect.Program

/-!
# Programs in a world

A handler says which replies the world may give to a call and how the call changes the world.
`Program.Holds` is the weakest precondition of a program against a handler: every world met on
the way satisfies an invariant, and the outcome satisfies a postcondition. It is computed by
recursion on the program, composes through `>>=` and through loops over a list, and is sound
for every trace the handler admits.
-/

namespace Effect

universe u v

variable {I : Interface.{u}} {W : Type v} {ε α β : Type u}

/-- How a world answers calls: `H w op r w'` if in `w` the call `op` may be answered by `r`
and leaves the world `w'`. -/
abbrev Handler (I : Interface.{u}) (W : Type v) := W → (op : I.Op) → I.Reply op → W → Prop

/-- The events of `t` take the world from `w` to `w'`. -/
def Handler.Path (H : Handler I W) : W → List (Event I) → W → Prop
  | w, [], w' => w' = w
  | w, e :: t, w' => ∃ w₁, H w e.op e.reply w₁ ∧ Handler.Path H w₁ t w'

@[simp] lemma Handler.path_nil (H : Handler I W) (w w' : W) : H.Path w [] w' ↔ w' = w := Iff.rfl

@[simp] lemma Handler.path_cons (H : Handler I W) (w w' : W) (e : Event I) (t : List (Event I)) :
    H.Path w (e :: t) w' ↔ ∃ w₁, H w e.op e.reply w₁ ∧ H.Path w₁ t w' := Iff.rfl

lemma Handler.path_append (H : Handler I W) (w w' : W) (t₁ t₂ : List (Event I)) :
    H.Path w (t₁ ++ t₂) w' ↔ ∃ w₁, H.Path w t₁ w₁ ∧ H.Path w₁ t₂ w' := by
  induction t₁ generalizing w with
  | nil => simp
  | cons e t ih =>
    simp only [List.cons_append, Handler.path_cons, ih]
    constructor
    · rintro ⟨w₁, h, w₂, h₁, h₂⟩
      exact ⟨w₂, ⟨w₁, h, h₁⟩, h₂⟩
    · rintro ⟨w₂, ⟨w₁, h, h₁⟩, h₂⟩
      exact ⟨w₁, h, w₂, h₁, h₂⟩

namespace Program

/-- Started in `w`, the program meets only worlds in `Inv` and ends in `Post`. -/
def Holds (H : Handler I W) (Inv : W → Prop) (Post : Except ε α → W → Prop) :
    Program I ε α → W → Prop
  | .ret a, w => Post (.ok a) w
  | .fail e, w => Post (.error e) w
  | .call op next, w => ∀ r w', H w op r w' → Inv w' ∧ (next r).Holds H Inv Post w'

section
variable {H : Handler I W} {Inv : W → Prop}

@[simp] lemma holds_ret {Post : Except ε α → W → Prop} {a : α} {w : W} :
    (Program.ret a).Holds H Inv Post w ↔ Post (.ok a) w := Iff.rfl

@[simp] lemma holds_fail {Post : Except ε α → W → Prop} {e : ε} {w : W} :
    (Program.fail e).Holds H Inv Post w ↔ Post (.error e) w := Iff.rfl

lemma holds_call {Post : Except ε α → W → Prop} {op : I.Op}
    {next : I.Reply op → Program I ε α} {w : W} :
    (Program.call op next).Holds H Inv Post w ↔
      ∀ r w', H w op r w' → Inv w' ∧ (next r).Holds H Inv Post w' := Iff.rfl

lemma Holds.mono {Post Post' : Except ε α → W → Prop} {p : Program I ε α} {w : W}
    (h : p.Holds H Inv Post w) (hpost : ∀ o w, Post o w → Post' o w) :
    p.Holds H Inv Post' w := by
  induction p generalizing w with
  | ret a => exact hpost _ _ h
  | fail e => exact hpost _ _ h
  | call op next ih => exact fun r w' hr => ⟨(h r w' hr).1, ih r (h r w' hr).2⟩

/-- Sequencing: the continuation starts where the first program returned; an error of the first
program is the error of the whole. -/
lemma holds_bind {Post : Except ε β → W → Prop} {p : Program I ε α}
    {f : α → Program I ε β} {w : W} :
    (p >>= f).Holds H Inv Post w ↔
      p.Holds H Inv
        (fun o w' => match o with
          | .ok a => (f a).Holds H Inv Post w'
          | .error e => Post (.error e) w') w := by
  induction p generalizing w with
  | ret a => rfl
  | fail e => rfl
  | call op next ih =>
    simp only [call_bind, holds_call, ih]

/-- A loop over a list: `J rest` holds whenever `rest` is what is left to visit. -/
lemma holds_forM {Post : Except ε PUnit → W → Prop} (J : List β → W → Prop)
    {body : β → Program I ε PUnit} {l : List β} {w : W} (hw : J l w)
    (hbody : ∀ x rest w, J (x :: rest) w → (body x).Holds H Inv
      (fun o w' => match o with
        | .ok _ => J rest w'
        | .error e => Post (.error e) w') w)
    (hend : ∀ w, J [] w → Post (.ok ⟨⟩) w) :
    (l.forM body).Holds H Inv Post w := by
  induction l generalizing w with
  | nil => exact hend w hw
  | cons x rest ih =>
    change (body x >>= fun _ => rest.forM body).Holds H Inv Post w
    rw [holds_bind]
    refine (hbody x rest w hw).mono fun o w' h => ?_
    match o with
    | .ok _ => exact ih h
    | .error _ => exact h

/-! ### Soundness -/

/-- The outcome of every admitted trace satisfies the postcondition. -/
theorem Holds.outcome {Post : Except ε α → W → Prop} {p : Program I ε α} {w w' : W}
    {t : List (Event I)} {o : Except ε α} (h : p.Holds H Inv Post w) (ht : p.Trace t o)
    (hp : H.Path w t w') : Post o w' := by
  induction p generalizing w t with
  | ret a =>
    obtain ⟨rfl, rfl⟩ := ht
    cases hp; exact h
  | fail e =>
    obtain ⟨rfl, rfl⟩ := ht
    cases hp; exact h
  | call op next ih =>
    obtain ⟨r, t', rfl, ht'⟩ := ht
    obtain ⟨w₁, hw₁, hp'⟩ := hp
    exact ih r (h r w₁ hw₁).2 ht' hp'

/-- Every world met on the way satisfies the invariant. -/
theorem Holds.invariant {Post : Except ε α → W → Prop} {p : Program I ε α} {w w' : W}
    {t₁ t₂ : List (Event I)} {o : Except ε α} (h : p.Holds H Inv Post w) (hw : Inv w)
    (ht : p.Trace (t₁ ++ t₂) o) (hp : H.Path w t₁ w') : Inv w' := by
  induction t₁ generalizing w p with
  | nil => cases hp; exact hw
  | cons e t ih =>
    obtain ⟨w₁, hw₁, hp'⟩ := hp
    match p, ht with
    | .call op next, ⟨r, t', heq, ht'⟩ =>
      rw [List.cons_append] at heq
      obtain ⟨rfl, rfl⟩ := List.cons.inj heq
      have hstep := h r w₁ hw₁
      exact ih hstep.2 hstep.1 ht' hp'

/-- The world in which the program ends satisfies the invariant. -/
lemma Holds.invariant_end {Post : Except ε α → W → Prop} {p : Program I ε α} {w w' : W}
    {t : List (Event I)} {o : Except ε α} (h : p.Holds H Inv Post w) (hw : Inv w)
    (ht : p.Trace t o) (hp : H.Path w t w') : Inv w' := by
  rw [← List.append_nil t] at ht
  exact h.invariant hw ht hp

end

end Program

end Effect
