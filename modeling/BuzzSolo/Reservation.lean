import Mathlib.Tactic

/-! Reservations that expire. A name is entered in the book before its item is handed over; entries
older than the retention may go. As long as no name comes again after that, each is handed over
once. -/
namespace BuzzSolo.Reservation

open List Function

variable {κ ι : Type}

/-- The entries of the book are those of the attempts under way and of the items handed over. -/
structure Sound (retention now : ℕ) (book : List (ι × ℕ)) (holder : κ → Option (ι × ℕ))
    (done : List (ι × ℕ)) : Prop where
  held : ∀ c q, holder c = some q → q ∈ book
  kept : ∀ q ∈ done, q ∈ book ∨ q.2 + retention ≤ now
  owned : ∀ q ∈ book, (∃ c, holder c = some q) ∨ q ∈ done
  apart : ∀ c d q r, holder c = some q → holder d = some r → q.1 = r.1 → c = d
  pending : ∀ c q, holder c = some q → q.1 ∉ done.map Prod.fst
  once : (done.map Prod.fst).Nodup
  single : (book.map Prod.fst).Nodup

lemma mem_eraseP_fst [DecidableEq ι] {book : List (ι × ℕ)} (h : (book.map Prod.fst).Nodup)
    {i : ι} {q : ι × ℕ} :
    q ∈ book.eraseP (fun r => r.1 = i) ↔ q ∈ book ∧ q.1 ≠ i := by
  induction book with
  | nil => simp
  | cons r book ih =>
    obtain ⟨hr,hre⟩ := nodup_cons.1 h
    by_cases hi : r.1 = i
    · rw [eraseP_cons_of_pos (by simpa using hi)]
      constructor
      · intro hq
        refine ⟨mem_cons_of_mem _ hq,?_⟩
        rintro rfl
        exact hr (hi ▸ mem_map_of_mem hq)
      · rintro ⟨hq,hne⟩
        rcases mem_cons.1 hq with rfl | hq
        · exact absurd hi hne
        · exact hq
    · rw [eraseP_cons_of_neg (by simpa using hi),mem_cons,ih hre,mem_cons]
      constructor
      · rintro (rfl | ⟨hq,hne⟩)
        · exact ⟨.inl rfl,hi⟩
        · exact ⟨.inr hq,hne⟩
      · rintro ⟨rfl | hq,hne⟩
        · exact .inl rfl
        · exact .inr ⟨hq,hne⟩

namespace Sound

variable {retention now now' : ℕ} {book : List (ι × ℕ)} {holder : κ → Option (ι × ℕ)}
  {done : List (ι × ℕ)} {c : κ} {q : ι × ℕ} {i : ι}

lemma empty : Sound retention now ([] : List (ι × ℕ)) (fun _ : κ => none) [] :=
  ⟨by simp,by simp,by simp,by simp,by simp,by simp,by simp⟩

lemma later (h : Sound retention now book holder done) (hle : now ≤ now') :
    Sound retention now' book holder done :=
  ⟨h.held,fun q hq => (h.kept q hq).imp_right fun hold => hold.trans hle,h.owned,h.apart,h.pending,
    h.once,h.single⟩

lemma expire (h : Sound retention now book holder done)
    (hy : ∀ c q, holder c = some q → now < q.2 + retention) :
    Sound retention now (book.filter fun q => now < q.2 + retention) holder done := by
  refine ⟨?_,?_,?_,h.apart,h.pending,h.once,h.single.sublist (filter_sublist.map Prod.fst)⟩
  · intro c q hq
    exact mem_filter.2 ⟨h.held c q hq,by simpa using hy c q hq⟩
  · intro q hq
    rcases h.kept q hq with hm | hold
    · by_cases hn : now < q.2 + retention
      · exact .inl (mem_filter.2 ⟨hm,by simpa using hn⟩)
      · exact .inr (not_lt.1 hn)
    · exact .inr hold
  · intro q hq
    exact h.owned q (mem_of_mem_filter hq)

variable [DecidableEq κ]

lemma of_update_some {d : κ} {r : ι × ℕ} (h : update holder c (some q) d = some r) :
    (d = c ∧ r = q) ∨ (d ≠ c ∧ holder d = some r) := by
  by_cases hd : d = c
  · subst hd
    rw [update_self] at h
    exact .inl ⟨rfl,(Option.some.inj h).symm⟩
  · rw [update_of_ne hd] at h
    exact .inr ⟨hd,h⟩

lemma reserve (h : Sound retention now book holder done) (hf : holder c = none)
    (hb : i ∉ book.map Prod.fst) (hdo : i ∉ done.map Prod.fst) :
    Sound retention now (book ++ [(i,now)]) (update holder c (some (i,now))) done := by
  -- no attempt under way has the name, since its entry would be in the book
  have ho : ∀ d q, holder d = some q → q.1 ≠ i := by
    rintro d q hq rfl
    exact hb (mem_map_of_mem (h.held d q hq))
  refine ⟨?_,?_,?_,?_,?_,h.once,?_⟩
  · intro d q hq
    rcases of_update_some hq with ⟨-,rfl⟩ | ⟨-,hq⟩
    · simp
    · simp [h.held d q hq]
  · intro q hq
    exact (h.kept q hq).imp_left fun hm => mem_append_left _ hm
  · intro q hq
    rcases mem_append.1 hq with hq | hq
    · rcases h.owned q hq with ⟨d,hd⟩ | hm
      · refine .inl ⟨d,?_⟩
        rw [update_of_ne,hd]
        rintro rfl
        rw [hf] at hd
        cases hd
      · exact .inr hm
    · exact .inl ⟨c,by rw [update_self,mem_singleton.1 hq]⟩
  · intro d e q r hq hr heq
    rcases of_update_some hq with ⟨hd,rfl⟩ | ⟨-,hq'⟩
    · rcases of_update_some hr with ⟨he,-⟩ | ⟨-,hr'⟩
      · exact hd.trans he.symm
      · exact absurd heq.symm (ho e r hr')
    · rcases of_update_some hr with ⟨-,rfl⟩ | ⟨-,hr'⟩
      · exact absurd heq (ho d q hq')
      · exact h.apart d e q r hq' hr' heq
  · intro d q hq
    rcases of_update_some hq with ⟨-,rfl⟩ | ⟨-,hq⟩
    · exact hdo
    · exact h.pending d q hq
  · rw [map_append,nodup_append]
    refine ⟨h.single,by simp,?_⟩
    rintro j hj k hk rfl
    have hji : j = i := by simpa using hk
    exact hb (hji ▸ hj)

lemma of_update_none {d : κ} {r : ι × ℕ} (h : update holder c none d = some r) :
    d ≠ c ∧ holder d = some r := by
  by_cases hd : d = c
  · subst hd
    rw [update_self] at h
    cases h
  · rw [update_of_ne hd] at h
    exact ⟨hd,h⟩

variable (h : Sound retention now book holder done) (hc : holder c = some q)
include h hc

lemma release [DecidableEq ι] :
    Sound retention now (book.eraseP fun r => r.1 = q.1) (update holder c none) done := by
  have hm := fun r => mem_eraseP_fst h.single (i := q.1) (q := r)
  refine ⟨?_,?_,?_,?_,?_,h.once,h.single.sublist (eraseP_sublist.map Prod.fst)⟩
  · intro d r hr
    obtain ⟨hd,hr⟩ := of_update_none hr
    exact (hm r).2 ⟨h.held d r hr,fun heq => hd (h.apart d c r q hr hc heq)⟩
  · intro r hr
    rcases h.kept r hr with hin | hold
    · refine .inl ((hm r).2 ⟨hin,?_⟩)
      intro heq
      exact h.pending c q hc (heq ▸ mem_map_of_mem hr)
    · exact .inr hold
  · intro r hr
    obtain ⟨hin,hne⟩ := (hm r).1 hr
    rcases h.owned r hin with ⟨d,hd⟩ | hin
    · refine .inl ⟨d,?_⟩
      rw [update_of_ne,hd]
      rintro rfl
      rw [hc] at hd
      exact hne (congrArg Prod.fst (Option.some.inj hd)).symm
    · exact .inr hin
  · intro d e r s hr hs
    exact h.apart d e r s (of_update_none hr).2 (of_update_none hs).2
  · intro d r hr
    exact h.pending d r (of_update_none hr).2

lemma complete : Sound retention now book (update holder c none) (q :: done) := by
  refine ⟨?_,?_,?_,?_,?_,?_,h.single⟩
  · intro d r hr
    exact h.held d r (of_update_none hr).2
  · intro r hr
    rcases mem_cons.1 hr with rfl | hr
    · exact .inl (h.held c r hc)
    · exact h.kept r hr
  · intro r hr
    rcases h.owned r hr with ⟨d,hd⟩ | hin
    · by_cases hdc : d = c
      · subst hdc
        rw [hc] at hd
        cases hd
        exact .inr (mem_cons_self ..)
      · exact .inl ⟨d,by rw [update_of_ne hdc,hd]⟩
    · exact .inr (mem_cons_of_mem _ hin)
  · intro d e r s hr hs
    exact h.apart d e r s (of_update_none hr).2 (of_update_none hs).2
  · intro d r hr hm
    obtain ⟨hd,hr⟩ := of_update_none hr
    rcases mem_cons.1 hm with heq | hm
    · exact hd (h.apart d c r q hr hc heq)
    · exact h.pending d r hr hm
  · rw [map_cons,nodup_cons]
    exact ⟨h.pending c q hc,h.once⟩

end Sound

end BuzzSolo.Reservation
