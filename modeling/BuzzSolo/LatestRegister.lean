import Mathlib.Tactic

/-! Keyed latest-value registers. Items carry an identity, an optional key and a rank; of the items
of one key only the greatest rank is kept. The ledger also records every item that was ever
admitted. -/
set_option linter.unusedSectionVars false
namespace BuzzSolo.LatestRegister

open List

/-- How the items of a history compete with each other. -/
structure Stream (α ι κ ρ : Type) where
  ident : α → ι
  key : α → Option κ
  rank : α → ρ

variable {α ι κ ρ : Type} [DecidableEq ι] [DecidableEq κ] [LinearOrder ρ]
variable (S : Stream α ι κ ρ)

/-- `Rivals x c`: both items carry one key, so at most one of them is kept. -/
def Rivals (x c : α) : Prop := S.key c ≠ none ∧ S.key x = S.key c

/-- `Stands x c`: while `x` is kept, `c` has nothing to add. -/
def Stands (x c : α) : Prop := S.ident x = S.ident c ∨ (Rivals S x c ∧ S.rank c ≤ S.rank x)

def Covered (kept : List α) (c : α) : Prop := ∃ x ∈ kept, Stands S x c

instance (x c : α) : Decidable (Rivals S x c) := inferInstanceAs (Decidable (_ ∧ _))
instance (x c : α) : Decidable (Stands S x c) := inferInstanceAs (Decidable (_ ∨ _))
instance (kept : List α) (c : α) : Decidable (Covered S kept c) :=
  inferInstanceAs (Decidable (∃ x ∈ kept, Stands S x c))

/-- Put an item in the place of the rival it replaces, or at the end. -/
def place (c : α) : List α → List α
  | [] => [c]
  | x :: xs => if Rivals S x c then c :: xs else x :: place c xs

/-- At most one kept item for each key. -/
def Separated (kept : List α) : Prop := kept.Pairwise fun x y => ¬ Rivals S x y

def offer (kept : List α) (c : α) : List α := if Covered S kept c then kept else place S c kept

structure Ledger (α : Type) where
  kept : List α
  history : List α

def submit (L : Ledger α) (c : α) : Ledger α :=
  if Covered S L.kept c then L else ⟨place S c L.kept,L.history ++ [c]⟩

def run (cs : List α) : Ledger α := cs.foldl (submit S) ⟨[],[]⟩

/-- One identity always comes with one key and one rank. -/
structure Consistent (P : α → Prop) : Prop where
  key_eq : ∀ x y, P x → P y → S.ident x = S.ident y → S.key x = S.key y
  rank_eq : ∀ x y, P x → P y → S.ident x = S.ident y → S.rank x = S.rank y

/-- The item of `cs` that no other item of its key outranks; every unkeyed item is one. -/
def IsLatest (cs : List α) (y : α) : Prop := y ∈ cs ∧ ∀ z ∈ cs, Rivals S z y → S.rank z ≤ S.rank y

section

variable {S} {c x : α} {kept : List α}

lemma self_mem_place : c ∈ place S c kept := by
  induction kept with
  | nil => simp [place]
  | cons x xs ih => by_cases h : Rivals S x c <;> simp [place,h,ih]

lemma mem_or_eq_of_mem_place (h : x ∈ place S c kept) : x ∈ kept ∨ x = c := by
  induction kept with
  | nil => simpa [place] using h
  | cons y ys ih =>
    by_cases hr : Rivals S y c
    · have h' : x = c ∨ x ∈ ys := by simpa [place,hr] using h
      rcases h' with rfl | h'
      · exact .inr rfl
      · exact .inl (mem_cons_of_mem _ h')
    · have h' : x = y ∨ x ∈ place S c ys := by simpa [place,hr] using h
      rcases h' with rfl | h'
      · exact .inl mem_cons_self
      · exact (ih h').imp (mem_cons_of_mem _) id

lemma mem_place_of_not_rivals (hx : x ∈ kept) (hr : ¬ Rivals S x c) : x ∈ place S c kept := by
  induction kept with
  | nil => simp at hx
  | cons y ys ih =>
    rcases mem_cons.1 hx with rfl | hx
    · simp [place,hr]
    · by_cases hy : Rivals S y c
      · simp [place,hy,hx]
      · simp [place,hy,ih hx]

lemma mem_place_or_find (hx : x ∈ kept) : x ∈ place S c kept ∨
    kept.find? (fun y => Rivals S y c) = some x := by
  induction kept with
  | nil => simp at hx
  | cons y ys ih =>
    by_cases hy : Rivals S y c
    · rcases mem_cons.1 hx with rfl | hx
      · exact .inr (by simp [hy])
      · exact .inl (by simp [place,hy,hx])
    · rcases mem_cons.1 hx with rfl | hx
      · exact .inl (by simp [place,hy])
      · simpa [place,hy] using (ih hx).imp_left .inr

lemma Rivals.symm (h : Rivals S x c) : Rivals S c x := ⟨h.2 ▸ h.1,h.2.symm⟩

lemma Rivals.trans {y : α} (hx : Rivals S x c) (hy : Rivals S c y) : Rivals S x y := ⟨hy.1,hx.2.trans hy.2⟩

/-- In a separated list the placed item is the only one of its key afterwards. -/
lemma eq_of_mem_place (hs : Separated S kept) (hx : x ∈ place S c kept) (hr : Rivals S x c) : x = c := by
  induction kept with
  | nil => simpa [place] using hx
  | cons y ys ih =>
    have hs' := pairwise_cons.1 hs
    by_cases hy : Rivals S y c
    · have hm : x = c ∨ x ∈ ys := by simpa [place,hy] using hx
      rcases hm with rfl | hm
      · rfl
      · exact absurd (hy.trans hr.symm) (hs'.1 x hm)
    · have hm : x = y ∨ x ∈ place S c ys := by simpa [place,hy] using hx
      rcases hm with rfl | hm
      · exact absurd hr hy
      · exact ih hs'.2 hm

lemma Separated.eq_of_rivals (hs : Separated S kept) (hx : x ∈ kept) (hc : c ∈ kept)
    (hr : Rivals S x c) : x = c := by
  have hp := pairwise_iff_getElem.1 hs
  obtain ⟨a,ha,rfl⟩ := mem_iff_getElem.1 hx
  obtain ⟨b,hb,rfl⟩ := mem_iff_getElem.1 hc
  rcases lt_trichotomy a b with hlt | heq | hlt
  · exact absurd hr (hp a b ha hb hlt)
  · subst heq
    rfl
  · exact absurd hr.symm (hp b a hb ha hlt)

lemma covered_iff_rival (hf : ∀ x ∈ kept, S.ident x ≠ S.ident c) :
    Covered S kept c ↔ ∃ x ∈ kept, Rivals S x c ∧ S.rank c ≤ S.rank x := by
  constructor
  · rintro ⟨x,hx,hid | hr⟩
    · exact absurd hid (hf x hx)
    · exact ⟨x,hx,hr⟩
  · exact fun ⟨x,hx,hr⟩ => ⟨x,hx,.inr hr⟩

variable (hs : Separated S kept)
include hs

lemma Separated.covered_iff_rank
    (hf : ∀ x ∈ kept, S.ident x ≠ S.ident c) (hx : x ∈ kept) (hr : Rivals S x c) :
    Covered S kept c ↔ S.rank c ≤ S.rank x := by
  rw [covered_iff_rival hf]
  constructor
  · rintro ⟨y,hy,hyr,hle⟩
    have hyx : y = x := hs.eq_of_rivals hy hx (hyr.trans hr.symm)
    rwa [← hyx]
  · exact fun hle => ⟨x,hx,hr,hle⟩

lemma mem_place_iff : x ∈ place S c kept ↔ x = c ∨ (x ∈ kept ∧ ¬ Rivals S x c) := by
  constructor
  · intro hx
    by_cases hr : Rivals S x c
    · exact .inl (eq_of_mem_place hs hx hr)
    · exact (mem_or_eq_of_mem_place hx).symm.imp id fun h => ⟨h,hr⟩
  · rintro (rfl | ⟨hx,hr⟩)
    · exact self_mem_place
    · exact mem_place_of_not_rivals hx hr

lemma separated_place : Separated S (place S c kept) := by
  induction kept with
  | nil => simp [place,Separated]
  | cons y ys ih =>
    have hs' := pairwise_cons.1 hs
    by_cases hy : Rivals S y c
    · simp only [place,hy]
      refine pairwise_cons.2 ⟨?_,hs'.2⟩
      intro z hz hr
      exact hs'.1 z hz (hy.trans hr)
    · simp only [place,hy]
      refine pairwise_cons.2 ⟨?_,ih hs'.2⟩
      intro z hz hr
      rcases mem_or_eq_of_mem_place hz with hz | rfl
      · exact hs'.1 z hz hr
      · exact hy hr

end

section

variable {S} {P : α → Prop} {c d : α} {kept : List α}

/-- Placing an item that is not covered keeps every covered item covered: the rival it
replaces has a lower rank. -/
lemma covered_place (hS : Consistent S P) (hP : ∀ x ∈ kept, P x) (hd : P d)
    (hnew : ¬ Covered S kept c) (h : Covered S kept d) : Covered S (place S c kept) d := by
  obtain ⟨x,hx,hst⟩ := h
  by_cases hr : Rivals S x c
  · have hlt : S.rank x < S.rank c := by
      by_contra hle
      exact hnew ⟨x,hx,.inr ⟨hr,not_lt.1 hle⟩⟩
    refine ⟨c,self_mem_place,.inr ?_⟩
    rcases hst with hid | ⟨hrd,hle⟩
    · have hk := hS.key_eq x d (hP x hx) hd hid
      have hra := hS.rank_eq x d (hP x hx) hd hid
      exact ⟨⟨hk ▸ hr.2 ▸ hr.1,hr.2.symm.trans hk⟩,hra ▸ hlt.le⟩
    · exact ⟨hr.symm.trans hrd,hle.trans hlt.le⟩
  · exact ⟨x,mem_place_of_not_rivals hx hr,hst⟩

lemma covered_place_self : Covered S (place S c kept) c := ⟨c,self_mem_place,.inl rfl⟩

/-- The kept items are the winners among all items: nothing else is kept, at most one of each
key, and no item has anything to add. -/
structure Winners (S : Stream α ι κ ρ) (items kept : List α) : Prop where
  mem : ∀ x ∈ kept, x ∈ items
  separated : Separated S kept
  covered : ∀ x ∈ items, Covered S kept x

lemma Consistent.mono {Q : α → Prop} (hS : Consistent S P) (h : ∀ x, Q x → P x) : Consistent S Q :=
  ⟨fun x y hx hy => hS.key_eq x y (h x hx) (h y hy),fun x y hx hy => hS.rank_eq x y (h x hx) (h y hy)⟩

section

variable {xs cs : List α} {x y : α}

lemma winners_self (hs : Separated S kept) : Winners S kept kept :=
  ⟨fun _ hx => hx,hs,fun x hx => ⟨x,hx,.inl rfl⟩⟩

variable (h : Winners S xs kept)
include h

lemma Winners.offer (hS : Consistent S (· ∈ xs ++ [c])) : Winners S (xs ++ [c]) (offer S kept c) := by
  have hP : ∀ x ∈ kept, x ∈ xs ++ [c] := fun x hx => mem_append_left _ (h.mem x hx)
  by_cases hc : Covered S kept c
  · simp only [LatestRegister.offer,hc]
    refine ⟨hP,h.separated,?_⟩
    intro x hx
    rcases mem_append.1 hx with hx | hx
    · exact h.covered x hx
    · exact mem_singleton.1 hx ▸ hc
  · simp only [LatestRegister.offer,hc]
    refine ⟨?_,separated_place h.separated,?_⟩
    · intro x hx
      rcases mem_or_eq_of_mem_place hx with hx | rfl
      · exact hP x hx
      · simp
    · intro x hx
      rcases mem_append.1 hx with hx' | hx'
      · exact covered_place hS hP hx hc (h.covered x hx')
      · exact mem_singleton.1 hx' ▸ covered_place_self

lemma Winners.offers (cs : List α) (hS : Consistent S (· ∈ xs ++ cs)) :
    Winners S (xs ++ cs) (cs.foldl (LatestRegister.offer S) kept) := by
  induction cs using reverseRecOn with
  | nil => simpa using h
  | append_singleton cs c ih =>
    rw [← append_assoc] at hS ⊢
    rw [foldl_append]
    exact (ih (hS.mono fun x hx => mem_append_left _ hx)).offer hS

lemma Winners.congr (hs : ∀ x, x ∈ xs ↔ x ∈ cs) : Winners S cs kept :=
  ⟨fun x hx => (hs x).1 (h.mem x hx),h.separated,fun x hx => h.covered x ((hs x).2 hx)⟩

/-- A keyed item has a kept rival that ranks at least as high. -/
lemma Winners.exists_kept (hS : Consistent S (· ∈ xs)) (hy : y ∈ xs)
    (hkey : S.key y ≠ none) : ∃ w ∈ kept, Rivals S w y ∧ S.rank y ≤ S.rank w := by
  obtain ⟨w,hw,hid | hr⟩ := h.covered y hy
  · exact ⟨w,hw,⟨hkey,hS.key_eq w y (h.mem w hw) hy hid⟩,(hS.rank_eq w y (h.mem w hw) hy hid).ge⟩
  · exact ⟨w,hw,hr⟩

lemma Winners.isLatest (hS : Consistent S (· ∈ xs)) (hx : x ∈ kept) : IsLatest S xs x := by
  refine ⟨h.mem x hx,?_⟩
  intro z hz hr
  obtain ⟨w,hw,hwz,hle⟩ := h.exists_kept hS hz hr.symm.1
  have hwx : w = x := h.separated.eq_of_rivals hw hx (hwz.trans hr)
  exact hwx ▸ hle

lemma Winners.ident_kept (hi : ∀ x ∈ xs, ∀ y ∈ xs, S.rank x = S.rank y → S.ident x = S.ident y)
    (hy : IsLatest S xs y) : ∃ w ∈ kept, S.ident w = S.ident y := by
  obtain ⟨w,hw,hid | ⟨hr,hle⟩⟩ := h.covered y hy.1
  · exact ⟨w,hw,hid⟩
  · have hm := h.mem w hw
    exact ⟨w,hw,hi w hm y hy.1 (le_antisymm (hy.2 w hm hr) hle)⟩

end

structure Sound (S : Stream α ι κ ρ) (cs : List α) (L : Ledger α) : Prop where
  history_mem : ∀ x ∈ L.history, x ∈ cs
  kept_mem : ∀ x ∈ L.kept, x ∈ L.history
  separated : Separated S L.kept
  covered : ∀ x ∈ cs, Covered S L.kept x
  nodup : (L.history.map S.ident).Nodup

variable {cs : List α} {L : Ledger α}

lemma Sound.winners (h : Sound S cs L) : Winners S cs L.kept :=
  ⟨fun x hx => h.history_mem x (h.kept_mem x hx),h.separated,h.covered⟩

lemma sound_empty : Sound S [] (⟨[],[]⟩ : Ledger α) := ⟨by simp,by simp,by simp [Separated],by simp,by simp⟩

lemma submit_kept (L : Ledger α) : (submit S L c).kept = offer S L.kept c := by
  unfold submit offer
  split <;> rfl

lemma Sound.fresh (h : Sound S cs L) (hS : Consistent S (· ∈ cs ++ [c]))
    (hc : ¬ Covered S L.kept c) : ∀ x ∈ L.history, S.ident x ≠ S.ident c := by
  intro x hx hid
  have hxc : x ∈ cs ++ [c] := mem_append_left _ (h.history_mem x hx)
  have hcc : c ∈ cs ++ [c] := by simp
  obtain ⟨w,hw,hst⟩ := h.covered x (h.history_mem x hx)
  apply hc
  refine ⟨w,hw,?_⟩
  rcases hst with hst | ⟨hr,hle⟩
  · exact .inl (hst.trans hid)
  · have hk := hS.key_eq x c hxc hcc hid
    exact .inr ⟨⟨hk ▸ hr.1,hr.2.trans hk⟩,(hS.rank_eq x c hxc hcc hid) ▸ hle⟩

lemma sound_submit (hS : Consistent S (· ∈ cs ++ [c])) (h : Sound S cs L) :
    Sound S (cs ++ [c]) (submit S L c) := by
  have hw := h.winners.offer hS
  rw [← submit_kept] at hw
  by_cases hc : Covered S L.kept c
  · refine ⟨?_,?_,hw.separated,hw.covered,?_⟩ <;> simp only [submit,hc]
    · exact fun x hx => mem_append_left _ (h.history_mem x hx)
    · exact h.kept_mem
    · exact h.nodup
  · refine ⟨?_,?_,hw.separated,hw.covered,?_⟩ <;> simp only [submit,hc,if_false]
    · intro x hx
      rcases mem_append.1 hx with hx | hx
      · exact mem_append_left _ (h.history_mem x hx)
      · exact mem_append_right _ hx
    · intro x hx
      rcases mem_or_eq_of_mem_place hx with hx | rfl
      · exact mem_append_left _ (h.kept_mem x hx)
      · simp
    · rw [map_append,nodup_append]
      refine ⟨h.nodup,by simp,?_⟩
      intro i hi j hj hij
      obtain ⟨x,hx,rfl⟩ := mem_map.1 hi
      have hjc : j = S.ident c := by simpa using hj
      exact h.fresh hS hc x hx (hij.trans hjc)

lemma sound_run (cs : List α) (hS : Consistent S (· ∈ cs)) : Sound S cs (run S cs) := by
  induction cs using reverseRecOn with
  | nil => exact sound_empty
  | append_singleton cs c ih =>
    have hS' : Consistent S (· ∈ cs) := hS.mono fun x hx => mem_append_left _ hx
    simpa [run] using sound_submit hS (ih hS')

/-- The kept identities are those of the latest items: a function of the set of submissions. -/
lemma kept_ident_iff (cs : List α) (hS : Consistent S (· ∈ cs))
    (hi : ∀ x ∈ cs, ∀ y ∈ cs, S.rank x = S.rank y → S.ident x = S.ident y) (i : ι) :
    (∃ x ∈ (run S cs).kept, S.ident x = i) ↔ ∃ y, IsLatest S cs y ∧ S.ident y = i := by
  have h := (sound_run cs hS).winners
  constructor
  · rintro ⟨x,hx,rfl⟩
    exact ⟨x,h.isLatest hS hx,rfl⟩
  · rintro ⟨y,hy,rfl⟩
    exact h.ident_kept hi hy

end

end BuzzSolo.LatestRegister
