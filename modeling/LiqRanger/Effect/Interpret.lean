import LiqRanger.Effect.Invariant

/-!
# Programs over programs

The calls of a program carried out by programs over another interface. What the whole program goes
through is what its parts go through, one after the other (`Program.trace_interpret`): so a fact
about the calls of the outer program becomes one about the calls of the inner ones. Two interfaces
are used side by side in their sum.
-/

namespace Effect

universe u

variable {I J : Interface.{u}} {ε ε' α β : Type u}

/-! ### Two interfaces side by side -/

/-- The calls of both. -/
def Interface.sum (I J : Interface.{u}) : Interface.{u} :=
  ⟨I.Op ⊕ J.Op, Sum.elim I.Reply J.Reply⟩

def Event.left (J : Interface.{u}) (e : Event I) : Event (I.sum J) := ⟨.inl e.op, e.reply⟩

def Event.right (I : Interface.{u}) (e : Event J) : Event (I.sum J) := ⟨.inr e.op, e.reply⟩

namespace Program

/-- A program that makes only calls of the first interface. -/
def left (J : Interface.{u}) : Program I ε α → Program (I.sum J) ε α
  | .ret a => .ret a
  | .fail e => .fail e
  | .call op next => .call (.inl op) fun r => (next r).left J

/-- A program that makes only calls of the second interface. -/
def right (I : Interface.{u}) : Program J ε α → Program (I.sum J) ε α
  | .ret a => .ret a
  | .fail e => .fail e
  | .call op next => .call (.inr op) fun r => (next r).right I

lemma trace_left {p : Program I ε α} {t : List (Event (I.sum J))} {o : Except ε α} :
    (p.left J).Trace t o ↔ ∃ t', t = t'.map (Event.left J) ∧ p.Trace t' o := by
  induction p generalizing t with
  | ret a =>
    constructor
    · rintro ⟨rfl, rfl⟩
      exact ⟨[], rfl, rfl, rfl⟩
    · rintro ⟨_, rfl, rfl, rfl⟩
      exact ⟨rfl, rfl⟩
  | fail e =>
    constructor
    · rintro ⟨rfl, rfl⟩
      exact ⟨[], rfl, rfl, rfl⟩
    · rintro ⟨_, rfl, rfl, rfl⟩
      exact ⟨rfl, rfl⟩
  | call op next ih =>
    constructor
    · rintro ⟨r, u, rfl, hu⟩
      obtain ⟨t', rfl, ht'⟩ := (ih r).mp hu
      exact ⟨⟨op, r⟩ :: t', rfl, r, t', rfl, ht'⟩
    · rintro ⟨_, rfl, r, t', rfl, ht'⟩
      exact ⟨r, t'.map (Event.left J), rfl, (ih r).mpr ⟨t', rfl, ht'⟩⟩

lemma trace_right {p : Program J ε α} {t : List (Event (I.sum J))} {o : Except ε α} :
    (p.right I).Trace t o ↔ ∃ t', t = t'.map (Event.right I) ∧ p.Trace t' o := by
  induction p generalizing t with
  | ret a =>
    constructor
    · rintro ⟨rfl, rfl⟩
      exact ⟨[], rfl, rfl, rfl⟩
    · rintro ⟨_, rfl, rfl, rfl⟩
      exact ⟨rfl, rfl⟩
  | fail e =>
    constructor
    · rintro ⟨rfl, rfl⟩
      exact ⟨[], rfl, rfl, rfl⟩
    · rintro ⟨_, rfl, rfl, rfl⟩
      exact ⟨rfl, rfl⟩
  | call op next ih =>
    constructor
    · rintro ⟨r, u, rfl, hu⟩
      obtain ⟨t', rfl, ht'⟩ := (ih r).mp hu
      exact ⟨⟨op, r⟩ :: t', rfl, r, t', rfl, ht'⟩
    · rintro ⟨_, rfl, r, t', rfl, ht'⟩
      exact ⟨r, t'.map (Event.right I), rfl, (ih r).mpr ⟨t', rfl, ht'⟩⟩

/-! ### Carrying out the calls -/

/-- Each call is carried out by a program; an error of that program ends the whole, and the error
of `p` itself is part of its outcome. -/
def interpret (impl : (op : I.Op) → Program J ε' (I.Reply op)) :
    Program I ε α → Program J ε' (Except ε α)
  | .ret a => .ret (.ok a)
  | .fail e => .ret (.error e)
  | .call op next => impl op >>= fun r => (next r).interpret impl

/-- Having gone through the events `t`, the program makes the call `op`. -/
def Asks : Program I ε α → List (Event I) → I.Op → Prop
  | .ret _, _, _ => False
  | .fail _, _, _ => False
  | .call op next, t, op' =>
    (t = [] ∧ op' = op) ∨ ∃ r t', t = ⟨op, r⟩ :: t' ∧ (next r).Asks t' op'

end Program

/-- The calls over `J` that carry out the events over `I`, one after the other. -/
inductive CarriesOut (impl : (op : I.Op) → Program J ε' (I.Reply op)) :
    List (Event I) → List (Event J) → Prop where
  | nil : CarriesOut impl [] []
  | cons {op : I.Op} {r : I.Reply op} {t : List (Event I)} {u v : List (Event J)}
      (hop : (impl op).Trace u (.ok r)) (hrest : CarriesOut impl t v) :
      CarriesOut impl (⟨op, r⟩ :: t) (u ++ v)

variable {impl : (op : I.Op) → Program J ε' (I.Reply op)}

namespace Program

/-- Every run carries out a whole run of `p`, or fails in a call that `p` makes. -/
theorem trace_interpret {p : Program I ε α} {u : List (Event J)} {o : Except ε' (Except ε α)} :
    (p.interpret impl).Trace u o ↔
      (∃ t o', p.Trace t o' ∧ CarriesOut impl t u ∧ o = .ok o') ∨
      ∃ t op u₁ u₂ e, p.Asks t op ∧ CarriesOut impl t u₁ ∧ (impl op).Trace u₂ (.error e) ∧
        u = u₁ ++ u₂ ∧ o = .error e := by
  induction p generalizing u with
  | ret a =>
    constructor
    · rintro ⟨rfl, rfl⟩
      exact Or.inl ⟨[], .ok a, ⟨rfl, rfl⟩, .nil, rfl⟩
    · rintro (⟨_, _, ⟨rfl, rfl⟩, hcarries, rfl⟩ | ⟨_, _, _, _, _, hasks, -⟩)
      · cases hcarries
        exact ⟨rfl, rfl⟩
      · exact hasks.elim
  | fail e =>
    constructor
    · rintro ⟨rfl, rfl⟩
      exact Or.inl ⟨[], .error e, ⟨rfl, rfl⟩, .nil, rfl⟩
    · rintro (⟨_, _, ⟨rfl, rfl⟩, hcarries, rfl⟩ | ⟨_, _, _, _, _, hasks, -⟩)
      · cases hcarries
        exact ⟨rfl, rfl⟩
      · exact hasks.elim
  | call op next ih =>
    rw [interpret, trace_bind]
    constructor
    · rintro (⟨e, hfail, rfl⟩ | ⟨u₁, u₂, r, rfl, hop, hrest⟩)
      · exact Or.inr ⟨[], op, [], u, e, Or.inl ⟨rfl, rfl⟩, .nil, hfail, rfl, rfl⟩
      · rcases (ih r).mp hrest with ⟨t, o', htrace, hcarries, rfl⟩ |
          ⟨t, op', v₁, v₂, e, hasks, hcarries, hfail, rfl, rfl⟩
        · exact Or.inl ⟨⟨op, r⟩ :: t, o', ⟨r, t, rfl, htrace⟩, .cons hop hcarries, rfl⟩
        · exact Or.inr ⟨⟨op, r⟩ :: t, op', u₁ ++ v₁, v₂, e, Or.inr ⟨r, t, rfl, hasks⟩,
            .cons hop hcarries, hfail, (List.append_assoc ..).symm, rfl⟩
    · rintro (⟨_, o', ⟨r, t, rfl, htrace⟩, hcarries, rfl⟩ |
        ⟨_, op', u₁, u₂, e, ⟨rfl, rfl⟩ | ⟨r, t, rfl, hasks⟩, hcarries, hfail, rfl, rfl⟩)
      · cases hcarries with
        | cons hop hcarries =>
          exact Or.inr ⟨_, _, r, rfl, hop, (ih r).mpr (Or.inl ⟨t, o', htrace, hcarries, rfl⟩)⟩
      · cases hcarries
        exact Or.inl ⟨e, hfail, rfl⟩
      · cases hcarries with
        | cons hop hcarries =>
          exact Or.inr ⟨_, _, r, List.append_assoc .., hop,
            (ih r).mpr (Or.inr ⟨t, op', _, u₂, e, hasks, hcarries, hfail, rfl, rfl⟩)⟩

/-- A program that asks can be answered, and then goes on to some end. -/
lemma Asks.exists_trace [∀ op, Nonempty (I.Reply op)] {p : Program I ε α} {t : List (Event I)}
    {op : I.Op} (h : p.Asks t op) (r : I.Reply op) :
    ∃ t' o, p.Trace (t ++ ⟨op, r⟩ :: t') o := by
  induction p generalizing t with
  | ret a => exact h.elim
  | fail e => exact h.elim
  | call op' next ih =>
    rcases h with ⟨rfl, rfl⟩ | ⟨r', t, rfl, hasks⟩
    · obtain ⟨t', htrace, -⟩ := exists_trace_eval (fun op => Classical.arbitrary (I.Reply op))
        (next r)
      exact ⟨t', _, r, t', rfl, htrace⟩
    · obtain ⟨t', o, htrace⟩ := ih r' hasks
      exact ⟨t', o, r', _, rfl, htrace⟩

end Program

/-- An element of two lists one after the other is in the first or in the second. -/
lemma append_split {γ : Type u} {l₁ l₂ before after : List γ} {x : γ}
    (h : l₁ ++ l₂ = before ++ x :: after) :
    (∃ mid, l₁ = before ++ x :: mid ∧ after = mid ++ l₂) ∨
      ∃ mid, l₂ = mid ++ x :: after ∧ before = l₁ ++ mid := by
  rcases List.append_eq_append_iff.mp h with ⟨mid, rfl, hl₂⟩ | ⟨mid, rfl, hmid⟩
  · exact Or.inr ⟨mid, hl₂, rfl⟩
  · cases mid with
    | nil => exact Or.inr ⟨[], hmid.symm, by simp⟩
    | cons y mid =>
      obtain ⟨rfl, rfl⟩ := List.cons.inj hmid
      exact Or.inl ⟨mid, rfl, rfl⟩

/-- A call over `J` belongs to one event over `I`; what comes before and after it carries out the
events before and after that one. -/
lemma CarriesOut.split {t : List (Event I)} {u before after : List (Event J)} {e : Event J}
    (h : CarriesOut impl t u) (hu : u = before ++ e :: after) :
    ∃ t₁ op r t₂ u₁ v₁ v₂ u₂, t = t₁ ++ ⟨op, r⟩ :: t₂ ∧ CarriesOut impl t₁ u₁ ∧
      (impl op).Trace (v₁ ++ e :: v₂) (.ok r) ∧ CarriesOut impl t₂ u₂ ∧
      before = u₁ ++ v₁ ∧ after = v₂ ++ u₂ := by
  induction h generalizing before with
  | nil => simp at hu
  | @cons op r t v w hop hrest ih =>
    rcases append_split hu with ⟨mid, rfl, rfl⟩ | ⟨mid, hw, rfl⟩
    · exact ⟨[], op, r, t, [], before, mid, w, rfl, .nil, hop, hrest, rfl, rfl⟩
    · obtain ⟨t₁, op', r', t₂, u₁, v₁, v₂, u₂, rfl, h₁, htrace, h₂, rfl, rfl⟩ := ih hw
      exact ⟨⟨op, r⟩ :: t₁, op', r', t₂, v ++ u₁, v₁, v₂, u₂, rfl, .cons hop h₁, htrace, h₂,
        (List.append_assoc ..).symm, rfl⟩

lemma CarriesOut.append {t₁ t₂ : List (Event I)} {u₁ u₂ : List (Event J)}
    (h₁ : CarriesOut impl t₁ u₁) (h₂ : CarriesOut impl t₂ u₂) :
    CarriesOut impl (t₁ ++ t₂) (u₁ ++ u₂) := by
  induction h₁ with
  | nil => exact h₂
  | cons hop _ ih =>
    rw [List.cons_append, List.append_assoc]
    exact .cons hop ih

/-- Runs of the same implementation one after the other. -/
lemma CarriesOut.append_inv {t₁ t₂ : List (Event I)} {u : List (Event J)}
    (h : CarriesOut impl (t₁ ++ t₂) u) :
    ∃ u₁ u₂, u = u₁ ++ u₂ ∧ CarriesOut impl t₁ u₁ ∧ CarriesOut impl t₂ u₂ := by
  induction t₁ generalizing u with
  | nil => exact ⟨[], u, rfl, .nil, h⟩
  | cons e t₁ ih =>
    cases h with
    | cons hop hrest =>
      obtain ⟨u₁, u₂, rfl, h₁, h₂⟩ := ih hrest
      exact ⟨_, u₂, (List.append_assoc ..).symm, .cons hop h₁, h₂⟩

/-- What every call keeps that is carried out in a world, all of them keep. -/
lemma CarriesOut.keeps {W : Type*} {H : Handler J W} {Inv : W → Prop} {t : List (Event I)}
    {u : List (Event J)} {w w' : W} (h : CarriesOut impl t u)
    (hop : ∀ op r v w w', (impl op).Trace v (.ok r) → H.Path w v w' → Inv w → Inv w')
    (hpath : H.Path w u w') (hw : Inv w) : Inv w' := by
  induction h generalizing w with
  | nil =>
    cases hpath
    exact hw
  | cons htrace _ ih =>
    rw [Handler.path_append] at hpath
    obtain ⟨w₁, hfirst, hrest⟩ := hpath
    exact ih hrest (hop _ _ _ _ _ htrace hfirst hw)

/-- What one event is carried out by is a part of all the calls. -/
lemma CarriesOut.segment {t₁ t₂ : List (Event I)} {e : Event I} {u : List (Event J)}
    (h : CarriesOut impl (t₁ ++ e :: t₂) u) : ∃ u₁ v u₂, u = u₁ ++ v ++ u₂ ∧
      CarriesOut impl t₁ u₁ ∧ (impl e.op).Trace v (.ok e.reply) ∧ CarriesOut impl t₂ u₂ := by
  obtain ⟨u₁, u₂, rfl, h₁, h₂⟩ := h.append_inv
  cases h₂ with
  | @cons op r _ v u₂ hop hrest => exact ⟨u₁, v, u₂, (List.append_assoc ..).symm, h₁, hop, hrest⟩

/-- Each event is carried out by some of the calls. -/
lemma CarriesOut.trace_of_mem {t : List (Event I)} {u : List (Event J)} (h : CarriesOut impl t u)
    {e : Event I} (he : e ∈ t) : ∃ v, v ⊆ u ∧ (impl e.op).Trace v (.ok e.reply) := by
  obtain ⟨t₁, t₂, rfl⟩ := List.append_of_mem he
  obtain ⟨u₁, v, u₂, rfl, -, hop, -⟩ := h.segment
  exact ⟨v, fun e' he' => List.mem_append_left _ (List.mem_append_right _ he'), hop⟩

/-- Where no call fails, a whole run is carried out, and what comes of it is known. -/
lemma Program.trace_interpret_map {β : Type u} {p : Program I ε α} {f : Except ε α → β}
    {u : List (Event J)} {b : β}
    (h : (p.interpret impl >>= fun r => .ret (f r)).Trace u (.ok b)) :
    ∃ t o, p.Trace t o ∧ CarriesOut impl t u ∧ b = f o := by
  rcases (trace_bind _ _ _ _).mp h with ⟨e, -, hfail⟩ | ⟨u₁, u₂, o, rfl, hinterpret, hret⟩
  · cases hfail
  · obtain ⟨rfl, hb⟩ := hret
    rw [List.append_nil]
    rcases trace_interpret.mp hinterpret with ⟨t, o', htrace, hcarries, ho⟩ |
      ⟨t, op, v₁, v₂, e, -, -, -, -, ho⟩
    · cases ho
      exact ⟨t, o, htrace, hcarries, Except.ok.inj hb⟩
    · cases ho

/-! ### Some of the calls -/

/-- Each call is carried out over another interface, or made as it is. -/
def Delegates (impl : (op : I.Op) → Program (J.sum I) ε' (I.Reply op)) : Prop :=
  ∀ op, (∃ p : Program J ε' (I.Reply op), impl op = p.left I) ∨ impl op = .call (.inr op) .ret

section
variable {impl : (op : I.Op) → Program (J.sum I) ε' (I.Reply op)} {e : Event I}

/-- A call of the outer interface is one that is made as it is. -/
lemma Delegates.eq_of_trace (h : Delegates impl) {op : I.Op} {v₁ v₂ : List (Event (J.sum I))}
    {o : Except ε' (I.Reply op)} (htrace : (impl op).Trace (v₁ ++ e.right J :: v₂) o) :
    v₁ = [] ∧ v₂ = [] ∧ ∃ r, o = .ok r ∧ (⟨op, r⟩ : Event I) = e := by
  rcases h op with ⟨p, hop⟩ | hop
  · rw [hop] at htrace
    obtain ⟨t, heq, -⟩ := Program.trace_left.mp htrace
    have hmem : e.right J ∈ t.map (Event.left I) := by
      rw [← heq]
      exact List.mem_append_right v₁ List.mem_cons_self
    obtain ⟨e', -, he'⟩ := List.mem_map.mp hmem
    cases he'
  · rw [hop] at htrace
    obtain ⟨r, _, heq, rfl, rfl⟩ := htrace
    obtain ⟨rfl, he⟩ := List.append_eq_singleton_iff.mp heq |>.resolve_right (by simp)
    obtain ⟨op', r'⟩ := e
    cases he
    exact ⟨rfl, rfl, r', rfl, rfl⟩

/-- What comes before a call of the outer interface carries out what the program called before. -/
theorem Delegates.exists_outer [∀ op, Nonempty (I.Reply op)] (h : Delegates impl)
    {p : Program I ε α} {u before after : List (Event (J.sum I))}
    {o : Except ε' (Except ε α)} (htrace : (p.interpret impl).Trace u o)
    (hu : u = before ++ e.right J :: after) :
    ∃ t t' o', p.Trace (t ++ e :: t') o' ∧ CarriesOut impl t before := by
  rcases Program.trace_interpret.mp htrace with ⟨t, o', hp, hcarries, -⟩ |
    ⟨t, op, u₁, u₂, err, hasks, hcarries, hfail, rfl, -⟩
  · obtain ⟨t₁, op, r, t₂, u₁, v₁, v₂, u₂, rfl, h₁, hop, h₂, rfl, rfl⟩ := hcarries.split hu
    obtain ⟨rfl, rfl, r', hr, he⟩ := h.eq_of_trace hop
    cases hr
    rw [he] at hp
    rw [List.append_nil]
    exact ⟨t₁, t₂, o', hp, h₁⟩
  · -- the call that fails is none that is made as it is
    obtain ⟨t', o', hp⟩ := hasks.exists_trace (Classical.arbitrary _)
    rcases append_split hu with ⟨mid, rfl, rfl⟩ | ⟨mid, rfl, rfl⟩
    · obtain ⟨t₁, op', r, t₂, v₁, w₁, w₂, v₂, rfl, h₁, hop, -, rfl, -⟩ := hcarries.split rfl
      obtain ⟨rfl, rfl, r', hr, he⟩ := h.eq_of_trace hop
      cases hr
      rw [he, List.append_assoc, List.cons_append] at hp
      rw [List.append_nil]
      exact ⟨t₁, _, o', hp, h₁⟩
    · obtain ⟨-, -, r', hr, -⟩ := h.eq_of_trace hfail
      cases hr

/-- A call that is made as it is, is among the calls. -/
lemma CarriesOut.mem_right {t : List (Event I)} {u : List (Event (J.sum I))}
    (h : CarriesOut impl t u) (he : e ∈ t) (hop : impl e.op = .call (.inr e.op) .ret) :
    e.right J ∈ u := by
  obtain ⟨v, hsub, htrace⟩ := h.trace_of_mem he
  rw [hop] at htrace
  obtain ⟨r, _, rfl, rfl, heq⟩ := htrace
  cases heq
  exact hsub List.mem_cons_self

/-- Calls that are all made as they are. -/
lemma carriesOut_right {t : List (Event I)} (h : ∀ e ∈ t, impl e.op = .call (.inr e.op) .ret) :
    CarriesOut impl t (t.map (Event.right J)) := by
  induction t with
  | nil => exact .nil
  | cons e t ih =>
    have hop : (impl e.op).Trace [e.right J] (.ok e.reply) := by
      rw [h e List.mem_cons_self]
      exact ⟨e.reply, [], rfl, rfl, rfl⟩
    exact .cons hop (ih fun e' he' => h e' (List.mem_cons_of_mem e he'))

end

end Effect
