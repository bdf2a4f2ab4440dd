import Mathlib.Tactic

/-! A pool of numbered slots. Each value belongs to the slot that its key names: it is there, it
is out on loan, or it is lost and the slot waits for a new one. -/
namespace BuzzSolo.SlotPool

open List Option

variable {α : Type}

def first (p : α → Bool) : List (Option α) → Option (ℕ × α)
  | [] => none
  | slot :: slots =>
    match slot.filter p with
    | some a => some (0,a)
    | none => (first p slots).map fun found => (found.1+1,found.2)

section

variable {p : α → Bool} {slots : List (Option α)} {i : ℕ} {a : α}

lemma first_eq_some_iff : first p slots = some (i,a) ↔
    slots[i]? = some (some a) ∧ p a = true ∧ ∀ j < i, ∀ b, slots[j]? = some (some b) → p b = false := by
  induction slots generalizing i with
  | nil => simp [first]
  | cons slot slots ih =>
    cases hs : slot.filter p with
    | some b =>
      obtain ⟨rfl,hb⟩ := filter_eq_some_iff.1 hs
      simp only [first,hs,some.injEq,Prod.mk.injEq]
      constructor
      · rintro ⟨rfl,rfl⟩
        exact ⟨rfl,hb,fun j hj => absurd hj (Nat.not_lt_zero j)⟩
      · rintro ⟨hget,-,hbe⟩
        cases i with
        | zero => exact ⟨rfl,by simpa using hget⟩
        | succ i =>
          have hf := hbe 0 i.succ_pos b rfl
          rw [hb] at hf
          cases hf
    | none =>
      have hn : ∀ b, slot = some b → p b = false := by
        simpa [filter] using hs
      simp only [first,hs,map_eq_some_iff,Prod.exists,Prod.mk.injEq]
      constructor
      · rintro ⟨k,b,hfi,rfl,rfl⟩
        obtain ⟨hget,hp,hbe⟩ := ih.1 hfi
        refine ⟨hget,hp,?_⟩
        intro j hj b' hb'
        cases j with
        | zero => exact hn b' (by simpa using hb')
        | succ j => exact hbe j (by omega) b' hb'
      · rintro ⟨hget,hp,hbe⟩
        cases i with
        | zero =>
          have hf := hn a (by simpa using hget)
          rw [hp] at hf
          cases hf
        | succ i =>
          exact ⟨i,a,ih.2 ⟨hget,hp,fun j hj b hb => hbe (j+1) (by omega) b hb⟩,rfl,rfl⟩

end

/-- Every value is in its slot or out on loan, and the lost ones have left their slots empty. -/
structure Placed (key : α → ℕ) (slots : List (Option α)) (out : List α) (lost : List ℕ) : Prop where
  home : ∀ i a, slots[i]? = some (some a) → key a = i
  away : ∀ a ∈ out, slots[key a]? = some none
  once : (out.map key).Nodup
  gone : ∀ i ∈ lost, slots[i]? = some none
  apart : ∀ i ∈ lost, i ∉ out.map key
  lostOnce : lost.Nodup

variable {key : α → ℕ} {slots : List (Option α)} {out : List α} {lost : List ℕ} {i : ℕ} {a b : α}

lemma getElem?_set_some (slot : Option α) (hi : slots[i]?.isSome) (j : ℕ) :
    (slots.set i slot)[j]? = if j = i then some slot else slots[j]? := by
  rw [getElem?_set]
  by_cases hij : i = j
  · subst hij
    simpa using hi
  · simp [hij,Ne.symm hij]

lemma of_getElem?_set {slot : Option α} {j : ℕ} (h : (slots.set i slot)[j]? = some (some a)) :
    slot = some a ∨ slots[j]? = some (some a) := by
  rw [getElem?_set] at h
  split at h
  · split at h
    · exact .inl (some.inj h)
    · cases h
  · exact .inr h

namespace Placed

variable (h : Placed key slots out lost)
include h

lemma take (hget : slots[i]? = some (some a)) : Placed key (slots.set i none) (a :: out) lost := by
  have hs := fun j => getElem?_set_some none (show slots[i]?.isSome by simp [hget]) j
  have hkey : key a = i := h.home i a hget
  have hout : i ∉ out.map key := by
    rintro hm
    obtain ⟨b,hb,rfl⟩ := mem_map.1 hm
    rw [h.away b hb] at hget
    cases hget
  refine ⟨?_,?_,?_,?_,?_,h.lostOnce⟩
  · intro j b hb
    rw [hs j] at hb
    split at hb
    · cases hb
    · exact h.home j b hb
  · intro b hb
    rw [hs]
    split
    · rfl
    next hne =>
      rcases mem_cons.1 hb with rfl | hb
      · exact absurd hkey hne
      · exact h.away b hb
  · rw [map_cons,nodup_cons,hkey]
    exact ⟨hout,h.once⟩
  · intro j hj
    rw [hs]
    split
    · rfl
    · exact h.gone j hj
  · intro j hj hm
    rw [map_cons,hkey] at hm
    rcases mem_cons.1 hm with rfl | hm
    · rw [h.gone j hj] at hget
      cases hget
    · exact h.apart j hj hm

lemma change {out' : List α} (hk : out'.map key = out.map key) : Placed key slots out' lost := by
  refine ⟨h.home,?_,hk ▸ h.once,h.gone,hk ▸ h.apart,h.lostOnce⟩
  intro a ha
  have hm : key a ∈ out.map key := hk ▸ mem_map_of_mem ha
  obtain ⟨b,hb,heq⟩ := mem_map.1 hm
  exact heq ▸ h.away b hb

lemma lose (ha : a ∈ out) : Placed key slots (out.filter fun b => key b ≠ key a) (key a :: lost) := by
  refine ⟨h.home,fun b hb => h.away b (mem_of_mem_filter hb),
    h.once.sublist (filter_sublist.map key),?_,?_,?_⟩
  · intro i hi
    rcases mem_cons.1 hi with rfl | hi
    · exact h.away a ha
    · exact h.gone i hi
  · intro i hi hm
    obtain ⟨b,hb,rfl⟩ := mem_map.1 hm
    have hb := mem_filter.1 hb
    rcases mem_cons.1 hi with heq | hi
    · simp [heq] at hb
    · exact h.apart _ hi (mem_map_of_mem hb.1)
  · exact nodup_cons.2 ⟨fun hm => h.apart _ hm (mem_map_of_mem ha),h.lostOnce⟩

lemma refill (hi : i ∈ lost) (hkey : key a = i) : Placed key (slots.set i (some a)) out (lost.erase i) := by
  have hs := fun j => getElem?_set_some (some a) (show slots[i]?.isSome by simp [h.gone i hi]) j
  refine ⟨?_,?_,h.once,?_,fun j hj => h.apart j (mem_of_mem_erase hj),h.lostOnce.erase i⟩
  · intro j b hb
    rw [hs j] at hb
    split at hb
    next heq =>
      cases hb
      exact hkey.trans heq.symm
    · exact h.home j b hb
  · intro b hb
    rw [hs,if_neg]
    · exact h.away b hb
    · rintro rfl
      exact h.apart _ hi (mem_map_of_mem hb)
  · intro j hj
    obtain ⟨hne,hj⟩ := h.lostOnce.mem_erase_iff.1 hj
    rw [hs,if_neg hne]
    exact h.gone j hj

/-- A value on loan comes back, perhaps changed. -/
lemma giveBack (ha : a ∈ out) (hkey : key b = key a) :
    Placed key (slots.set (key a) (some b)) (out.filter fun b => key b ≠ key a) lost := by
  have hb := (h.lose ha).refill (mem_cons_self ..) hkey
  rwa [erase_cons_head] at hb

lemma mapSlots {f : α → α} (hf : ∀ a, key (f a) = key a) :
    Placed key (slots.map (Option.map f)) out lost := by
  have hn : ∀ i : ℕ, slots[i]? = some none → (slots.map (Option.map f))[i]? = some none := by
    intro i hi
    rw [getElem?_map,hi]
    rfl
  refine ⟨?_,fun a ha => hn _ (h.away a ha),h.once,fun i hi => hn i (h.gone i hi),h.apart,h.lostOnce⟩
  intro i b hb
  rw [getElem?_map] at hb
  obtain ⟨slot,hs,heq⟩ := map_eq_some_iff.1 hb
  obtain ⟨a,rfl,rfl⟩ := map_eq_some_iff.1 heq
  rw [hf]
  exact h.home i a hs

lemma setSlot (hget : slots[i]? = some (some a)) (hkey : key b = key a) :
    Placed key (slots.set i (some b)) out lost := by
  have hs := fun j => getElem?_set_some (some b) (show slots[i]?.isSome by simp [hget]) j
  have hn : ∀ j : ℕ, slots[j]? = some none → (slots.set i (some b))[j]? = some none := by
    intro j hj
    rw [hs,if_neg]
    · exact hj
    · rintro rfl
      rw [hj] at hget
      cases hget
  refine ⟨?_,fun a ha => hn _ (h.away a ha),h.once,fun i hi => hn i (h.gone i hi),h.apart,h.lostOnce⟩
  intro j c hc
  rw [hs] at hc
  split at hc
  next heq =>
    cases hc
    rw [heq,hkey]
    exact h.home i a hget
  · exact h.home j c hc

lemma not_out (hget : slots[i]? = some (some a)) (hb : b ∈ out) : key b ≠ i := by
  rintro rfl
  rw [h.away b hb] at hget
  cases hget

end Placed

end BuzzSolo.SlotPool
