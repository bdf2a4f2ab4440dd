import Mathlib.Tactic

/-! Broadcast channels that keep a bounded number of messages. A receiver is the number of messages
it has passed; one that has fallen too far behind is told how many messages it skipped. -/
namespace BuzzSolo.Broadcast

open List

variable {α : Type}

inductive Received (α : Type)
  | nothing
  | item (a : α)
  | lagged (skipped : ℕ)

/-- What the receiver gets next from the stream of all messages sent so far, and its new position. -/
def recv (capacity : ℕ) (stream : List α) (position : ℕ) : Received α × ℕ :=
  match stream[position]? with
  | none => (.nothing,position)
  | some a =>
    if stream.length ≤ position + capacity then (.item a,position + 1)
    else (.lagged (stream.length - capacity - position),stream.length - capacity)

variable {capacity pos : ℕ} {str : List α}

lemma recv_cases (capacity : ℕ) (str : List α) (pos : ℕ) :
    (recv capacity str pos = (.nothing,pos) ∧ str.length ≤ pos) ∨
    (∃ a, recv capacity str pos = (.item a,pos + 1) ∧ str[pos]? = some a) ∨
    (∃ skipped, recv capacity str pos = (.lagged skipped,pos + skipped) ∧
      pos + skipped ≤ str.length ∧ 0 < skipped) := by
  unfold recv
  cases hget : str[pos]? with
  | none => exact .inl ⟨rfl,getElem?_eq_none_iff.1 hget⟩
  | some a =>
    right
    by_cases hn : str.length ≤ pos + capacity
    · exact .inl ⟨a,by simp [hn],rfl⟩
    · refine .inr ⟨str.length - capacity - pos,?_,by omega,by omega⟩
      have hp : str.length - capacity = pos + (str.length - capacity - pos) := by omega
      simp only [hn,if_false,Prod.mk.injEq,true_and]
      exact hp

lemma mem_drop_iff {a x : α} (hget : str[pos]? = some a) :
    x ∈ str.drop pos ↔ x = a ∨ x ∈ str.drop (pos + 1) := by
  obtain ⟨hlt,rfl⟩ := List.getElem?_eq_some_iff.1 hget
  rw [drop_eq_getElem_cons hlt,mem_cons]

lemma mem_drop_append {x : α} {sent : List α} (hp : pos ≤ str.length) :
    x ∈ (str ++ sent).drop pos ↔ x ∈ str.drop pos ∨ x ∈ sent := by
  rw [drop_append_of_le_length hp,mem_append]

end BuzzSolo.Broadcast
