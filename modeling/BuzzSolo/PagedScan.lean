import Mathlib.Tactic

/-! Reading a list page by page through a screen. The reader stops at the first page that shows
fewer than `size` members, so it goes as far as the page of the first member that is screened out. -/
namespace BuzzSolo.PagedScan

open List

variable {α : Type} (p : α → Bool) (size : ℕ)

def reach (l : List α) : ℕ := size * (l.findIdx (fun x => !p x) / size + 1)

def scan (l : List α) : List α := (l.take (reach p size l)).filter p

variable {p size} {l : List α}

lemma full_page (h : size ≤ ((l.take size).filter p).length) :
    size ≤ l.length ∧ ∀ x ∈ l.take size, p x = true := by
  have hle := length_filter_le p (l.take size)
  have hl := length_take_le size l
  have ht : (l.take size).length = size := by omega
  refine ⟨?_,?_⟩
  · rw [length_take] at ht
    omega
  · exact length_filter_eq_length_iff.1 (by omega)

lemma reach_short (h : ((l.take size).filter p).length < size) : reach p size l = size := by
  have hf : l.findIdx (fun x => !p x) < size := by
    by_contra hge
    have ha : ∀ x ∈ l.take size, p x = true := by
      intro x hx
      obtain ⟨i,hi,rfl⟩ := mem_take_iff_getElem.1 hx
      simpa using not_of_lt_findIdx (show i < l.findIdx (fun x => !p x) by omega)
    have hl : l.findIdx (fun x => !p x) ≤ l.length := findIdx_le_length
    rw [filter_eq_self.2 ha,length_take] at h
    omega
  rw [reach,Nat.div_eq_of_lt hf,Nat.zero_add,Nat.mul_one]

lemma reach_full (hs : 0 < size) (h : size ≤ ((l.take size).filter p).length) :
    reach p size l = size + reach p size (l.drop size) := by
  obtain ⟨hl,ha⟩ := full_page h
  have hf : l.findIdx (fun x => !p x) = size + (l.drop size).findIdx fun x => !p x := by
    conv_lhs => rw [← take_append_drop size l]
    have hsk : (l.take size).findIdx (fun x => !p x) = (l.take size).length :=
      findIdx_eq_length_of_false fun x hx => by simp [ha x hx]
    rw [findIdx_append,hsk,if_neg (lt_irrefl _),length_take,Nat.min_eq_left hl, Nat.add_comm]
  rw [reach,reach,hf,Nat.add_div_left _ hs]
  ring

lemma scan_short (h : ((l.take size).filter p).length < size) : scan p size l = (l.take size).filter p := by
  rw [scan,reach_short h]

lemma scan_full (hs : 0 < size) (h : size ≤ ((l.take size).filter p).length) :
    scan p size l = l.take size ++ scan p size (l.drop size) := by
  rw [scan,reach_full hs h,take_add,filter_append, filter_eq_self.2 (full_page h).2,scan]

lemma filter_eq_scan_append (p : α → Bool) (size : ℕ) (l : List α) :
    l.filter p = scan p size l ++ (l.drop (reach p size l)).filter p := by
  rw [scan,← filter_append,take_append_drop]

/-- In a list without repetition the reader is shown all there is to show exactly when the
rest of the list has nothing to show. -/
lemma mem_scan_iff_all (p : α → Bool) (size : ℕ) (hl : l.Nodup) :
    (∀ x ∈ l, p x = true → x ∈ scan p size l) ↔ ∀ x ∈ l.drop (reach p size l), p x = false := by
  constructor
  · intro ha x hx
    by_contra hp
    have hpx : p x = true := by simpa using hp
    have hs := ha x (mem_of_mem_drop hx) hpx
    exact disjoint_take_drop hl le_rfl (mem_filter.1 hs).1 hx
  · intro hr x hx hp
    have hm : x ∈ l.filter p := mem_filter.2 ⟨hx,hp⟩
    rw [filter_eq_scan_append p size l] at hm
    rcases mem_append.1 hm with hm | hm
    · exact hm
    · obtain ⟨hd,hpx⟩ := mem_filter.1 hm
      simp [hr x hd] at hpx

lemma filter_after {r : α → α → Prop} [DecidableRel r] [Std.Asymm r] {fr rest : List α} {a : α}
    (h : (fr ++ a :: rest).Pairwise r) : (fr ++ a :: rest).filter (fun x => r a x) = rest := by
  obtain ⟨-,hr,hf⟩ := pairwise_append.1 h
  have hn : fr.filter (fun x => r a x) = [] := by
    rw [filter_eq_nil_iff]
    intro x hx
    simpa using Std.Asymm.asymm x a (hf x hx a (by simp))
  have hs : ¬ r a a := fun haa => Std.Asymm.asymm a a haa haa
  have ha : rest.filter (fun x => r a x) = rest :=
    filter_eq_self.2 fun x hx => by simpa using (pairwise_cons.1 hr).1 x hx
  rw [filter_append,hn,nil_append,filter_cons_of_neg (by simpa using hs),ha]

end BuzzSolo.PagedScan
