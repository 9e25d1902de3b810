import LiqRanger.Effect.Invariant

/-!
# Programs and their own calls

The world that remembers nothing but the calls made so far, with their replies. A program keeps a
rule of this world when each of its calls is allowed by the calls before it, whatever the replies
(`Program.holds_call_log`).
-/

namespace Effect

universe u

variable {I : Interface.{u}} {ε α β : Type u}

/-- Every reply is possible, and each event is appended. -/
def Handler.log (I : Interface.{u}) : Handler I (List (Event I)) :=
  fun t op r t' => t' = t ++ [⟨op, r⟩]

/-- Any events may be next. -/
lemma path_log (t t' : List (Event I)) : (Handler.log I).Path t t' (t ++ t') := by
  induction t' generalizing t with
  | nil => exact List.append_nil t
  | cons e t' ih =>
    refine ⟨t ++ [e], rfl, ?_⟩
    simpa using ih (t ++ [e])

/-- Each call is allowed by the events before it. -/
def EachCall (Allowed : List (Event I) → I.Op → Prop) (t : List (Event I)) : Prop :=
  ∀ before e after, t = before ++ e :: after → Allowed before e.op

variable {Allowed : List (Event I) → I.Op → Prop} {t : List (Event I)}

lemma eachCall_nil : EachCall Allowed ([] : List (Event I)) := by
  intro before e after h
  simp at h

lemma eachCall_append_singleton {e : Event I} :
    EachCall Allowed (t ++ [e]) ↔ EachCall Allowed t ∧ Allowed t e.op := by
  constructor
  · intro h
    refine ⟨fun before e' after ht => ?_, h t e [] rfl⟩
    exact h before e' (after ++ [e]) (by simp [ht])
  · rintro ⟨h, he⟩ before e' after ht
    rcases after.eq_nil_or_concat with rfl | ⟨after, e'', rfl⟩
    · obtain ⟨rfl, hlast⟩ := List.append_inj' ht rfl
      obtain rfl := (List.cons.inj hlast).1
      exact he
    · rw [List.concat_eq_append, ← List.cons_append, ← List.append_assoc] at ht
      exact h before e' after (List.append_inj' ht rfl).1

namespace Program

/-- A call that is allowed, followed by a program that keeps the rule after each reply. -/
lemma holds_call_log {Post : Except ε α → List (Event I) → Prop} {op : I.Op}
    {next : I.Reply op → Program I ε α} (ht : EachCall Allowed t) (hop : Allowed t op)
    (hnext : ∀ r, EachCall Allowed (t ++ [⟨op, r⟩]) →
      (next r).Holds (.log I) (EachCall Allowed) Post (t ++ [⟨op, r⟩])) :
    (Program.call op next).Holds (.log I) (EachCall Allowed) Post t := by
  rintro r _ rfl
  have hlog : EachCall Allowed (t ++ [⟨op, r⟩]) := eachCall_append_singleton.mpr ⟨ht, hop⟩
  exact ⟨hlog, hnext r hlog⟩

end Program

end Effect
