import Mathlib.Tactic

/-! Sorted lists as sets. Sorting by a relation that tells members apart commutes with filtering;
what a filter keeps of a first page stands on the first page of what it keeps. -/
namespace BuzzSolo.SortedSelection

open List

variable {α : Type} {r : α → α → Prop}
variable {l m : List α}

variable (han : ∀ a ∈ l, ∀ b ∈ l, r a b → r b a → a = b)
include han

lemma eq_of_mem_iff (hl : l.Pairwise r) (hm : m.Pairwise r) (hln : l.Nodup) (hmn : m.Nodup)
    (h : ∀ x, x ∈ l ↔ x ∈ m) : l = m :=
  ((perm_ext_iff_of_nodup hln hmn).2 h).eq_of_pairwise (fun a b ha hb => han a ha b ((h b).2 hb)) hl hm

variable [DecidableRel r] [Std.Total r] [IsTrans α r]

lemma eq_of_perm (h : l.Perm m) : l.insertionSort r = m.insertionSort r := by
  have hp : (l.insertionSort r).Perm (m.insertionSort r) :=
    (perm_insertionSort r l).trans (h.trans (perm_insertionSort r m).symm)
  refine hp.eq_of_pairwise ?_ (pairwise_insertionSort r l) (pairwise_insertionSort r m)
  intro a b ha hb
  exact han a ((perm_insertionSort r l).mem_iff.1 ha) b (h.mem_iff.2 ((perm_insertionSort r m).mem_iff.1 hb))

omit han

lemma filter_insertionSort (p : α → Bool) (han : ∀ a ∈ l, ∀ b ∈ l, r a b → r b a → a = b) :
    (l.insertionSort r).filter p = (l.filter p).insertionSort r := by
  have hp : ((l.insertionSort r).filter p).Perm ((l.filter p).insertionSort r) :=
    ((perm_insertionSort r l).filter p).trans (perm_insertionSort r _).symm
  refine hp.eq_of_pairwise ?_ ((pairwise_insertionSort r l).filter p) (pairwise_insertionSort r _)
  intro a b ha hb
  have ha' := (perm_insertionSort r l).mem_iff.1 (mem_filter.1 ha).1
  have hb' := (mem_filter.1 ((perm_insertionSort r _).mem_iff.1 hb)).1
  exact han a ha' b hb'

/-- A choice of a member that comes first, made unless the list is empty. -/
structure Picks (r : α → α → Prop) (l : List α) (choice : Option α) : Prop where
  some : ∀ x, choice = some x → x ∈ l ∧ ∀ y ∈ l, r x y
  none : choice = none → l = []

lemma picks_head? (l : List α) : Picks r l (l.insertionSort r).head? := by
  have hp := perm_insertionSort r l
  have hs := pairwise_insertionSort r l
  refine ⟨?_,?_⟩
  · intro x h
    obtain ⟨rest,hr⟩ := head?_eq_some_iff.1 h
    rw [hr] at hp hs
    refine ⟨hp.mem_iff.1 (by simp),?_⟩
    intro y hy
    rcases mem_cons.1 (hp.mem_iff.2 hy) with rfl | hy
    · exact (Std.Total.total y y).elim id id
    · exact (pairwise_cons.1 hs).1 y hy
  · intro h
    rw [head?_eq_none_iff] at h
    rw [h] at hp
    exact hp.nil_eq.symm

lemma picks_getLast? (l : List α) : Picks (fun x y => r y x) l (l.insertionSort r).getLast? := by
  have hp := perm_insertionSort r l
  have hs := pairwise_insertionSort r l
  refine ⟨?_,?_⟩
  · intro x h
    obtain ⟨fr,hf⟩ := getLast?_eq_some_iff.1 h
    rw [hf] at hp hs
    refine ⟨hp.mem_iff.1 (by simp),?_⟩
    intro y hy
    rcases mem_append.1 (hp.mem_iff.2 hy) with hy | hy
    · exact (pairwise_append.1 hs).2.2 y hy x (by simp)
    · rw [mem_singleton.1 hy]
      exact (Std.Total.total x x).elim id id
  · intro h
    rw [getLast?_eq_none_iff] at h
    rw [h] at hp
    exact hp.nil_eq.symm

/-- Up to the key that the relation compares, the sorted list only depends on the members
with their multiplicities. -/
lemma map_insertionSort_eq {β : Type} [PartialOrder β] {key : α → β}
    (hkey : ∀ a b, r a b ↔ key a ≤ key b) (h : l.Perm m) :
    (l.insertionSort r).map key = (m.insertionSort r).map key := by
  have hs : ∀ l : List α, ((l.insertionSort r).map key).Pairwise (· ≤ ·) := by
    intro l
    rw [pairwise_map]
    exact (pairwise_insertionSort r l).imp fun hab => (hkey _ _).1 hab
  have hp : (l.insertionSort r).Perm (m.insertionSort r) :=
    (perm_insertionSort r l).trans (h.trans (perm_insertionSort r m).symm)
  exact (hp.map key).eq_of_pairwise (fun _ _ _ _ => le_antisymm) (hs l) (hs m)

omit [DecidableRel r] [Std.Total r] [IsTrans α r] in
lemma mem_take_filter (p : α → Bool) {n : ℕ} {x : α} (hx : x ∈ l.take n)
    (hp : p x = true) : x ∈ (l.filter p).take n := by
  induction l generalizing n with
  | nil => simp at hx
  | cons y ys ih =>
    cases n with
    | zero => simp at hx
    | succ n =>
      rcases mem_cons.1 hx with rfl | hx
      · simp [hp]
      · have hr := ih hx
        cases hy : p y with
        | true => simp [hy,hr]
        | false =>
          have hs : (ys.filter p).take n ⊆ (ys.filter p).take (n+1) :=
            (take_sublist_take_left (Nat.le_succ n)).subset
          simpa [hy] using hs hr

omit [Std.Total r] [IsTrans α r] in
lemma mem_take_iff_countP (hl : l.Pairwise r) (has : ∀ a b, r a b → ¬r b a) {n : ℕ} {x : α} :
    x ∈ l.take n ↔ x ∈ l ∧ l.countP (fun y => r y x) < n := by
  induction l generalizing n with
  | nil => simp
  | cons y ys ih =>
    obtain ⟨hy,hys⟩ := pairwise_cons.1 hl
    cases n with
    | zero => simp
    | succ n =>
      rw [take_succ_cons,mem_cons,mem_cons,ih hys,countP_cons]
      constructor
      · rintro (rfl | ⟨hx,hn⟩)
        · have hz : ys.countP (fun z => r z x) = 0 :=
            countP_eq_zero.2 fun z hz => by simpa using has x z (hy z hz)
          have hxx : ¬r x x := fun hxx => has x x hxx hxx
          exact ⟨.inl rfl,by simp [hz,hxx]⟩
        · exact ⟨.inr hx,by simpa [hy x hx] using hn⟩
      · rintro ⟨rfl | hx,hn⟩
        · exact .inl rfl
        · exact .inr ⟨hx,by simpa [hy x hx] using hn⟩

end BuzzSolo.SortedSelection
