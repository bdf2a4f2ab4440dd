import Mathlib.Tactic

/-! Bounded queues that make room at the front: each operation returns the kept elements and
those it evicts. -/
namespace BuzzSolo.BoundedQueue

open List

variable {α : Type} (cap : ℕ)

def push (queue : List α) (x : α) : List α × List α :=
  if cap ≤ queue.length then (queue.tail ++ [x],queue.take 1) else (queue ++ [x],[])

def trim (queue : List α) : List α × List α :=
  (queue.drop (queue.length - cap),queue.take (queue.length - cap))

variable {cap} (queue : List α) (x : α)

lemma push_append : (push cap queue x).2 ++ (push cap queue x).1 = queue ++ [x] := by
  unfold push
  split
  · rw [← append_assoc,← drop_one,take_append_drop]
  · rfl

lemma length_push (hc : 0 < cap) (h : queue.length ≤ cap) : (push cap queue x).1.length ≤ cap := by
  unfold push
  split
  next hf =>
    simp only [length_append,length_tail,length_singleton]
    omega
  next hr =>
    simp only [length_append,length_singleton]
    omega

lemma trim_append : (trim cap queue).2 ++ (trim cap queue).1 = queue := take_append_drop _ _

lemma length_trim : (trim cap queue).1.length ≤ cap := by
  simp only [trim,length_drop]
  omega

end BuzzSolo.BoundedQueue
