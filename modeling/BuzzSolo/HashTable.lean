import Mathlib.Data.List.AList
import Mathlib.Tactic

/-! Hash tables: finite maps whose iteration order is not specified. An iteration takes the order
from outside, as a list of keys; keys that the list leaves out come last. -/
namespace BuzzSolo.HashTable

open List

variable {κ α : Type} [DecidableEq κ]

abbrev Table (κ α : Type) := AList fun _ : κ => α

def iter (order : List κ) (t : Table κ α) : List (κ × α) :=
  (order.dedup.filterMap fun k => (t.lookup k).map fun v => (k,v)) ++
    (t.entries.map fun entry => (entry.1,entry.2)).filter fun entry => entry.1 ∉ order

lemma mem_iter {ord : List κ} {t : Table κ α} {k : κ} {v : α} : (k,v) ∈ iter ord t ↔ t.lookup k = some v := by
  have he : (k,v) ∈ (t.entries.map fun en => (en.1,en.2)) ↔ t.lookup k = some v := by
    rw [← Option.mem_def,AList.mem_lookup_iff,mem_map]
    constructor
    · rintro ⟨⟨a,b⟩,hm,heq⟩
      obtain ⟨rfl,rfl⟩ := Prod.mk.inj heq
      exact hm
    · intro hm
      exact ⟨⟨k,v⟩,hm,rfl⟩
  simp only [iter,mem_append,mem_filterMap,mem_dedup,Option.map_eq_some_iff,
    Prod.mk.injEq,mem_filter,he,decide_eq_true_eq]
  constructor
  · rintro (⟨a,_,b,hl,rfl,rfl⟩ | ⟨hl,_⟩)
    · exact hl
    · exact hl
  · intro hl
    by_cases hk : k ∈ ord
    · exact .inl ⟨k,hk,v,hl,rfl,rfl⟩
    · exact .inr ⟨hl,hk⟩

variable (a k : κ)

lemma lookup_insert_eq (v : α) (t : Table κ α) :
    (t.insert k v).lookup a = if a = k then some v else t.lookup a := by
  by_cases h : a = k
  · subst h
    simp
  · rw [AList.lookup_insert_ne h,if_neg h]

lemma lookup_erase_eq (t : Table κ α) : (t.erase k).lookup a = if a = k then none else t.lookup a := by
  by_cases h : a = k
  · subst h
    simp
  · rw [AList.lookup_erase_ne h,if_neg h]

lemma dlookup_filter {ents : List (Sigma fun _ : κ => α)} (hn : ents.NodupKeys)
    (keep : (Sigma fun _ : κ => α) → Bool) (a : κ) :
    (ents.filter keep).dlookup a = (ents.dlookup a).filter fun v => keep ⟨a,v⟩ := by
  induction ents with
  | nil => rfl
  | cons en ents ih =>
    obtain ⟨k,v⟩ := en
    obtain ⟨hf,hr⟩ := nodupKeys_cons.1 hn
    rw [filter_cons]
    by_cases hk : a = k
    · subst hk
      by_cases hke : keep ⟨a,v⟩ = true
      · simp [hke,Option.filter]
      · have hno : ents.dlookup a = none := dlookup_eq_none.2 hf
        simp [hke,ih hr,hno,Option.filter]
    · have hs : ∀ l, dlookup a ((⟨k,v⟩ : Sigma fun _ : κ => α) :: l) = l.dlookup a := fun l =>
        dlookup_cons_ne l _ hk
      split
      · rw [hs,hs,ih hr]
      · rw [hs,ih hr]

lemma lookup_filter (keep : (Sigma fun _ : κ => α) → Bool) (a : κ) (t : Table κ α) :
    (t.entries.filter keep).toAList.lookup a = (t.lookup a).filter fun v => keep ⟨a,v⟩ := by
  rw [AList.lookup_to_alist,dlookup_filter t.nodupKeys,AList.lookup]

def listAt (t : Table κ (List α)) (k : κ) : List α := (t.lookup k).getD []

lemma listAt_insert (l : List α) (t : Table κ (List α)) :
    listAt (t.insert k l) a = if a = k then l else listAt t a := by
  rw [listAt,lookup_insert_eq]
  split
  · rfl
  · rfl

lemma listAt_erase (t : Table κ (List α)) : listAt (t.erase k) a = if a = k then [] else listAt t a := by
  rw [listAt,lookup_erase_eq]
  split
  · rfl
  · rfl

/-- Stores the list of a key; an empty one is not kept. -/
def setList (t : Table κ (List α)) (k : κ) (l : List α) : Table κ (List α) :=
  if l = [] then t.erase k else t.insert k l

lemma listAt_setList (l : List α) (t : Table κ (List α)) :
    listAt (setList t k l) a = if a = k then l else listAt t a := by
  unfold setList
  split
  next h => rw [listAt_erase,h]
  · rw [listAt_insert]

end BuzzSolo.HashTable
