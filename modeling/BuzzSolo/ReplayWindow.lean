import Mathlib.Tactic

/-! Single use by remembering for a while. Items carry an identity and a time stamp and are
acceptable only near their stamp, so an identity need not be remembered for longer than it
stays acceptable. -/
namespace BuzzSolo.ReplayWindow

open List

structure Window (α ι : Type) where
  ident : α → ι
  stamp : α → ℕ
  tolerance : ℕ
  retention : ℕ

variable {α ι : Type} (W : Window α ι)

/-- The stamp is at most the tolerance away from `now`, on either side. -/
def Fresh (x : α) (now : ℕ) : Prop := now ≤ W.stamp x + W.tolerance ∧ W.stamp x ≤ now + W.tolerance

/-- What is known of the accepted items: each was fresh when it was accepted and is found
with its time for as long as the memory has to last. -/
structure Kept (find : ι → Option ℕ) (now : ℕ) (accepted : List (α × ℕ)) : Prop where
  fresh : ∀ p ∈ accepted, Fresh W p.1 p.2
  past : ∀ p ∈ accepted, p.2 ≤ now
  held : ∀ p ∈ accepted, find (W.ident p.1) = some p.2 ∨ p.2 + W.retention < now
  once : (accepted.map fun p => W.ident p.1).Nodup

variable {W} {find find' : ι → Option ℕ} {now now' : ℕ} {acc : List (α × ℕ)}

lemma kept_nil : Kept W find now [] := ⟨by simp,by simp,by simp,by simp⟩

variable (h : Kept W find now acc)
include h

lemma Kept.later (hle : now ≤ now') : Kept W find now' acc := by
  refine ⟨h.fresh,fun p hp => (h.past p hp).trans hle,?_,h.once⟩
  intro p hp
  cases h.held p hp with
  | inl hf => exact .inl hf
  | inr hold => exact .inr (by omega)

lemma Kept.forget (hf : ∀ p ∈ acc, find (W.ident p.1) = some p.2 →
      find' (W.ident p.1) = some p.2 ∨ p.2 + W.retention < now) : Kept W find' now acc := by
  refine ⟨h.fresh,h.past,?_,h.once⟩
  intro p hp
  cases h.held p hp with
  | inl hin => exact hf p hp hin
  | inr hold => exact .inr hold

/-- A fresh item that is not found was not accepted before. -/
lemma Kept.unused (ht : 2*W.tolerance ≤ W.retention) {x : α}
    (hx : Fresh W x now) (hn : find (W.ident x) = none)
    (hst : ∀ p ∈ acc, W.ident p.1 = W.ident x → W.stamp p.1 = W.stamp x) :
    ∀ p ∈ acc, W.ident p.1 ≠ W.ident x := by
  intro p hp hid
  have hs := hst p hp hid
  have hf := h.fresh p hp
  simp only [Fresh] at hx hf
  cases h.held p hp with
  | inl hfi =>
    rw [hid,hn] at hfi
    simp at hfi
  | inr hold => omega

lemma Kept.accept (ht : 2*W.tolerance ≤ W.retention) {x : α}
    (hx : Fresh W x now) (hn : find (W.ident x) = none)
    (hs : ∀ p ∈ acc, W.ident p.1 = W.ident x → W.stamp p.1 = W.stamp x)
    (hse : find' (W.ident x) = some now)
    (ho : ∀ i, i ≠ W.ident x → find' i = find i) : Kept W find' now (acc ++ [(x,now)]) := by
  have hnew := h.unused ht hx hn hs
  refine ⟨?_,?_,?_,?_⟩
  · intro p hp
    rcases mem_append.1 hp with hp | hp
    · exact h.fresh p hp
    · rw [mem_singleton.1 hp]
      exact hx
  · intro p hp
    rcases mem_append.1 hp with hp | hp
    · exact h.past p hp
    · rw [mem_singleton.1 hp]
  · intro p hp
    rcases mem_append.1 hp with hp | hp
    · rw [ho _ (hnew p hp)]
      exact h.held p hp
    · rw [mem_singleton.1 hp]
      exact .inl hse
  · rw [map_append,nodup_append]
    refine ⟨h.once,by simp,?_⟩
    intro i hi j hj hij
    obtain ⟨p,hp,rfl⟩ := mem_map.1 hi
    have hjx : j = W.ident x := by simpa using hj
    exact hnew p hp (hij.trans hjx)

end BuzzSolo.ReplayWindow
