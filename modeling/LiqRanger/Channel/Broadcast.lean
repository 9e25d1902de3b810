import Mathlib.Algebra.Order.Group.Nat
import Mathlib.Data.List.Chain
import Mathlib.Data.List.Infix
import Mathlib.Tactic.Common

/-!
# Broadcast channels

A channel that keeps its last messages for every receiver and never waits for one: a receiver that
is further behind loses what it has not read and is told how many messages that was. A receiver is
its position in the sequence of all messages. What it is handed accounts for this sequence: each
message is handed over in its order or counted in a lag (`Accounts`).
-/

namespace Broadcast

variable {α : Type*}

/-- What a receiver is handed. -/
inductive Received (α : Type*) where
  | message (x : α)
  | lagged (missed : ℕ)
  | closed

/-- What a receiver at the position `next` is handed, and its new position. It waits when it has
read everything and the channel is open. -/
def receive (capacity : ℕ) (sent : List α) (closed : Bool) (next : ℕ) :
    Option (Received α × ℕ) :=
  if next + capacity < sent.length then
    some (.lagged (sent.length - capacity - next), sent.length - capacity)
  else
    match sent[next]? with
    | some x => some (.message x, next + 1)
    | none => if closed then some (.closed, next) else none

/-- The messages among what was handed over. -/
def messages : List (Received α) → List α
  | [] => []
  | .message x :: got => x :: messages got
  | .lagged _ :: got => messages got
  | .closed :: got => messages got

/-- How many messages were lost. -/
def missed : List (Received α) → ℕ
  | [] => 0
  | .message _ :: got => missed got
  | .lagged n :: got => n + missed got
  | .closed :: got => missed got

/-- Each message with the number of messages lost right before it, of which `n` already are. -/
def withGaps (n : ℕ) : List (Received α) → List (ℕ × α)
  | [] => []
  | .message x :: got => (n, x) :: withGaps 0 got
  | .lagged m :: got => withGaps (n + m) got
  | .closed :: got => withGaps n got

/-- The messages lost since the last one that was handed over. -/
def trailing (n : ℕ) : List (Received α) → ℕ
  | [] => n
  | .message _ :: got => trailing 0 got
  | .lagged m :: got => trailing (n + m) got
  | .closed :: got => trailing n got

/-- What was handed over, up to the position `next`, accounts for what was sent. -/
inductive Accounts (sent : List α) : List (Received α) → ℕ → Prop where
  | start : Accounts sent [] 0
  | message {got : List (Received α)} {next : ℕ} {x : α} (h : Accounts sent got next)
      (hx : sent[next]? = some x) : Accounts sent (got ++ [.message x]) (next + 1)
  | lagged {got : List (Received α)} {next n : ℕ} (h : Accounts sent got next)
      (hle : next + n ≤ sent.length) : Accounts sent (got ++ [.lagged n]) (next + n)
  | closed {got : List (Received α)} {next : ℕ} (h : Accounts sent got next) :
      Accounts sent (got ++ [.closed]) next

variable {sent : List α} {got : List (Received α)} {r : Received α} {capacity next next' : ℕ}
  {closed : Bool}

/-! ### What was handed over -/

@[simp] lemma messages_append (got got' : List (Received α)) :
    messages (got ++ got') = messages got ++ messages got' := by
  induction got with
  | nil => rfl
  | cons r got ih => cases r <;> simp [messages, ih]

@[simp] lemma missed_append (got got' : List (Received α)) :
    missed (got ++ got') = missed got + missed got' := by
  induction got with
  | nil => simp [missed]
  | cons r got ih => cases r <;> simp [missed, ih, Nat.add_assoc]

lemma withGaps_map_snd (n : ℕ) (got : List (Received α)) :
    (withGaps n got).map Prod.snd = messages got := by
  induction got generalizing n with
  | nil => rfl
  | cons r got ih => cases r <;> simp [withGaps, messages, ih]

/-- Where nothing is lost there are no gaps. -/
lemma fst_eq_zero_of_mem_withGaps {got : List (Received α)} (h : missed got = 0) :
    ∀ p ∈ withGaps 0 got, p.1 = 0 := by
  induction got with
  | nil => simp [withGaps]
  | cons r got ih =>
    cases r with
    | message x => simpa [withGaps] using ih h
    | lagged n =>
      obtain ⟨rfl, hrest⟩ := Nat.add_eq_zero_iff.mp h
      exact ih hrest
    | closed => exact ih h

lemma withGaps_append (n : ℕ) (got got' : List (Received α)) :
    withGaps n (got ++ got') = withGaps n got ++ withGaps (trailing n got) got' := by
  induction got generalizing n with
  | nil => rfl
  | cons r got ih => cases r <;> simp [withGaps, trailing, ih]

lemma trailing_append (n : ℕ) (got got' : List (Received α)) :
    trailing n (got ++ got') = trailing (trailing n got) got' := by
  induction got generalizing n with
  | nil => rfl
  | cons r got ih => cases r <;> simp [trailing, ih]

/-! ### Accounting -/

/-- A receiver is told of a lag, handed the message at its position, or told of the end. -/
lemma receive_cases (h : receive capacity sent closed next = some (r, next')) :
    (next + capacity < sent.length ∧ next' = sent.length - capacity ∧ r = .lagged (next' - next)) ∨
      (∃ x, sent[next]? = some x ∧ r = .message x ∧ next' = next + 1) ∨
      (closed = true ∧ sent.length ≤ next ∧ r = .closed ∧ next' = next) := by
  by_cases hlag : next + capacity < sent.length
  · rw [receive, if_pos hlag] at h
    obtain ⟨rfl, rfl⟩ := Prod.mk.inj (Option.some.inj h)
    exact Or.inl ⟨hlag, rfl, rfl⟩
  · rw [receive, if_neg hlag] at h
    cases hx : sent[next]? with
    | some x =>
      rw [hx] at h
      obtain ⟨rfl, rfl⟩ := Prod.mk.inj (Option.some.inj h)
      exact Or.inr (Or.inl ⟨x, rfl, rfl, rfl⟩)
    | none =>
      rw [hx] at h
      cases closed with
      | false => cases h
      | true =>
        obtain ⟨rfl, rfl⟩ := Prod.mk.inj (Option.some.inj h)
        exact Or.inr (Or.inr ⟨rfl, List.getElem?_eq_none_iff.mp hx, rfl, rfl⟩)

/-- What is handed over next is accounted for. -/
lemma Accounts.receive (h : Accounts sent got next)
    (hr : receive capacity sent closed next = some (r, next')) :
    Accounts sent (got ++ [r]) next' := by
  rcases receive_cases hr with ⟨hlag, hnext, rfl⟩ | ⟨x, hx, rfl, rfl⟩ | ⟨-, -, rfl, rfl⟩
  · have hle : next + (next' - next) ≤ sent.length := by omega
    have hsum : next + (next' - next) = next' := by omega
    have hlagged := h.lagged hle
    rwa [hsum] at hlagged
  · exact h.message hx
  · exact h.closed

/-- New messages change nothing for a receiver. -/
lemma Accounts.append (h : Accounts sent got next) (more : List α) :
    Accounts (sent ++ more) got next := by
  induction h with
  | start => exact .start
  | message _ hx ih =>
    refine ih.message ?_
    rw [List.getElem?_append_left (List.getElem?_eq_some_iff.mp hx).1, hx]
  | lagged _ hle ih =>
    refine ih.lagged (hle.trans ?_)
    simp
  | closed _ ih => exact ih.closed

lemma Accounts.next_le (h : Accounts sent got next) : next ≤ sent.length := by
  induction h with
  | start => exact Nat.zero_le _
  | message _ hx _ => exact (List.getElem?_eq_some_iff.mp hx).1
  | lagged _ hle _ => exact hle
  | closed _ ih => exact ih

/-- Every message up to the position was handed over or is counted as lost. -/
lemma Accounts.next_eq (h : Accounts sent got next) :
    next = (messages got).length + missed got := by
  induction h with
  | start => rfl
  | message _ _ ih =>
    simp only [messages_append, missed_append, messages, missed, List.length_append,
      List.length_singleton]
    omega
  | lagged _ _ ih =>
    simp only [messages_append, missed_append, messages, missed, List.append_nil]
    omega
  | closed _ ih => simpa [messages, missed] using ih

/-- The messages are handed over in their order. -/
lemma Accounts.sublist (h : Accounts sent got next) :
    (messages got).Sublist (sent.take next) := by
  induction h with
  | start => exact List.nil_sublist _
  | @message got next x _ hx ih =>
    rw [messages_append, List.take_add_one, hx]
    exact ih.append (List.Sublist.refl _)
  | @lagged got next n _ _ ih =>
    rw [messages_append, messages, messages, List.append_nil]
    exact ih.trans (List.take_prefix_take_left (Nat.le_add_right next n)).sublist
  | closed _ ih => simpa [messages] using ih

/-- Without a lag nothing is lost. -/
lemma Accounts.messages_eq (h : Accounts sent got next) (hmissed : missed got = 0) :
    messages got = sent.take next := by
  refine h.sublist.eq_of_length ?_
  have hnext := h.next_eq
  rw [hmissed, Nat.add_zero] at hnext
  rw [List.length_take, Nat.min_eq_left h.next_le, hnext]

/-- The last message handed over lies as far back as the messages lost since. -/
lemma Accounts.getLast (h : Accounts sent got next) :
    ∀ p ∈ (withGaps 0 got).getLast?, ∃ i, sent[i]? = some p.2 ∧
      next = i + trailing 0 got + 1 := by
  induction h with
  | start => simp [withGaps]
  | @message got next x h hx ih =>
    intro p hp
    rw [withGaps_append, withGaps, withGaps, List.getLast?_concat, Option.mem_some_iff] at hp
    subst hp
    exact ⟨next, hx, by rw [trailing_append]; rfl⟩
  | @lagged got next n h hle ih =>
    intro p hp
    rw [withGaps_append, withGaps, withGaps, List.append_nil] at hp
    obtain ⟨i, hi, hnext⟩ := ih p hp
    refine ⟨i, hi, ?_⟩
    rw [trailing_append, trailing, trailing]
    omega
  | closed h ih =>
    intro p hp
    rw [withGaps_append, withGaps, withGaps, List.append_nil] at hp
    rw [trailing_append, trailing, trailing]
    exact ih p hp

/-- What relates any two messages by their distance relates each message handed over to the next by
the number lost between them. -/
lemma Accounts.isChain_withGaps {R : ℕ → α → α → Prop}
    (hR : ∀ i n x y, sent[i]? = some x → sent[i + n + 1]? = some y → R n x y)
    (h : Accounts sent got next) : (withGaps 0 got).IsChain fun p q => R q.1 p.2 q.2 := by
  induction h with
  | start => exact .nil
  | @message got next x h hx ih =>
    rw [withGaps_append, withGaps, withGaps]
    refine ih.append (.singleton _) ?_
    intro p hp q hq
    obtain ⟨i, hi, hnext⟩ := h.getLast p hp
    obtain rfl : _ = q := Option.mem_some_iff.mp hq
    exact hR i _ _ _ hi (hnext ▸ hx)
  | lagged h hle ih =>
    rw [withGaps_append, withGaps, withGaps, List.append_nil]
    exact ih
  | closed h ih =>
    rw [withGaps_append, withGaps, withGaps, List.append_nil]
    exact ih

/-- Where each relation of neighbours is a property of the second one, a chain is a property of all
elements but the first. -/
lemma isChain_iff_forall_tail {R S : α → α → Prop} {Q : α → Prop} {l : List α}
    (h : l.IsChain R) (hS : ∀ p q, R p q → (S p q ↔ Q q)) : l.IsChain S ↔ ∀ q ∈ l.tail, Q q := by
  induction l with
  | nil => simp
  | cons p l ih =>
    cases l with
    | nil => simp
    | cons q l =>
      rw [List.isChain_cons_cons] at h ⊢
      simp only [List.tail_cons, List.forall_mem_cons] at ih ⊢
      rw [hS p q h.1, ih h.2]

/-- A receiver that is near enough is told of no lag. -/
lemma missed_receive (hr : receive capacity sent closed next = some (r, next'))
    (hnear : sent.length ≤ next + capacity) : missed [r] = 0 := by
  rcases receive_cases hr with ⟨hlag, -⟩ | ⟨x, -, rfl, -⟩ | ⟨-, -, rfl, -⟩
  · exact absurd hlag (Nat.not_lt.mpr hnear)
  · rfl
  · rfl

end Broadcast
