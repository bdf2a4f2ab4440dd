import Mathlib.Tactic

/-! Maps from keys to lists that are filled entry by entry: each value goes to the end of
the list of its key. The keys stand in the order of their first entries. -/
namespace BuzzSolo.KeyedGroups

open List

variable {κ α : Type} [DecidableEq κ]

/-- `entry(key).or_default().push(value)`. -/
def push (key : κ) (value : α) : List (κ × List α) → List (κ × List α)
  | [] => [(key,[value])]
  | (k,values) :: groups =>
    if k = key then (k,values ++ [value]) :: groups else (k,values) :: push key value groups

def collect (entries : List (κ × α)) : List (κ × List α) :=
  entries.foldl (fun groups entry => push entry.1 entry.2 groups) []

def get (groups : List (κ × List α)) (key : κ) : List α :=
  match groups.find? fun group => group.1 = key with
  | some group => group.2
  | none => []

def ofKey (entries : List (κ × α)) (key : κ) : List α :=
  (entries.filter fun entry => entry.1 = key).map Prod.snd

structure Groups (entries : List (κ × α)) (groups : List (κ × List α)) : Prop where
  nodup : (groups.map Prod.fst).Nodup
  mem_keys : ∀ key, key ∈ groups.map Prod.fst ↔ ∃ entry ∈ entries, entry.1 = key
  values : ∀ group ∈ groups, group.2 = ofKey entries group.1

variable {ens : List (κ × α)}

lemma mem_ofKey {key : κ} {value : α} : value ∈ ofKey ens key ↔ (key,value) ∈ ens := by
  simp only [ofKey,mem_map,mem_filter,decide_eq_true_eq]
  constructor
  · rintro ⟨⟨k,v⟩,⟨hm,rfl⟩,rfl⟩
    exact hm
  · exact fun hm => ⟨(key,value),⟨hm,rfl⟩,rfl⟩

lemma ofKey_append (ens : List (κ × α)) (en : κ × α) (key : κ) : ofKey (ens ++ [en]) key =
      if en.1 = key then ofKey ens key ++ [en.2] else ofKey ens key := by
  by_cases h : en.1 = key <;> simp [ofKey,h]

lemma map_fst_push (key : κ) (v : α) (groups : List (κ × List α)) : (push key v groups).map Prod.fst =
      if key ∈ groups.map Prod.fst then groups.map Prod.fst else groups.map Prod.fst ++ [key] := by
  induction groups with
  | nil => simp [push]
  | cons group groups ih =>
    by_cases h : group.1 = key
    · simp [push,h]
    · have hne : key ≠ group.1 := fun heq => h heq.symm
      simp only [push,h,if_false,map_cons,ih,mem_cons,hne,false_or]
      split <;> simp

variable {groups : List (κ × List α)}

lemma mem_push {key : κ} {v : α} {group : κ × List α}
    (hn : (groups.map Prod.fst).Nodup) (h : group ∈ push key v groups) : (group.1 ≠ key ∧ group ∈ groups) ∨
      (group.1 = key ∧ ((∃ vs, (key,vs) ∈ groups ∧ group.2 = vs ++ [v]) ∨
        (key ∉ groups.map Prod.fst ∧ group.2 = [v]))) := by
  induction groups with
  | nil =>
    rw [push,mem_singleton] at h
    subst h
    exact .inr ⟨rfl,.inr ⟨by simp,rfl⟩⟩
  | cons first groups ih =>
    rw [map_cons,nodup_cons] at hn
    by_cases hkey : first.1 = key
    · simp only [push,hkey,if_true,mem_cons] at h
      rcases h with rfl | h
      · exact .inr ⟨rfl,.inl ⟨first.2,by simp [← hkey],rfl⟩⟩
      · refine .inl ⟨?_,by simp [h]⟩
        intro heq
        rw [hkey,← heq] at hn
        exact hn.1 (mem_map_of_mem h)
    · simp only [push,hkey,if_false,mem_cons] at h
      rcases h with rfl | h
      · exact .inl ⟨hkey,by simp⟩
      · rcases ih hn.2 h with ⟨hne,hm⟩ | ⟨heq,⟨vs,hm,hv⟩ | ⟨hnew,hv⟩⟩
        · exact .inl ⟨hne,by simp [hm]⟩
        · exact .inr ⟨heq,.inl ⟨vs,by simp [hm],hv⟩⟩
        · refine .inr ⟨heq,.inr ⟨?_,hv⟩⟩
          rw [map_cons,mem_cons]
          exact fun hor => hor.elim (fun h => hkey h.symm) hnew

lemma Groups.push (h : Groups ens groups) (en : κ × α) : Groups (ens ++ [en]) (push en.1 en.2 groups) := by
  have hk : ∀ key, key ∈ (KeyedGroups.push en.1 en.2 groups).map Prod.fst ↔
      key ∈ groups.map Prod.fst ∨ key = en.1 := by
    intro key
    rw [map_fst_push]
    split
    · rename_i hm
      exact ⟨.inl,fun hor => hor.elim id fun heq => heq ▸ hm⟩
    · simp
  refine ⟨?_,?_,?_⟩
  · rw [map_fst_push]
    split
    · exact h.nodup
    · rename_i hnew
      rw [nodup_append]
      refine ⟨h.nodup,by simp,?_⟩
      intro a ha b hb heq
      rw [mem_singleton] at hb
      exact hnew (hb ▸ heq ▸ ha)
  · intro key
    rw [hk,h.mem_keys]
    simp only [mem_append,mem_singleton,or_and_right,exists_or,exists_eq_left]
    rw [eq_comm (a := key)]
  · intro group hg
    rw [ofKey_append]
    rcases mem_push h.nodup hg with ⟨hne,hm⟩ | ⟨heq,⟨values,hm,hv⟩ | ⟨hnew,hv⟩⟩
    · rw [if_neg (Ne.symm hne)]
      exact h.values group hm
    · rw [if_pos heq.symm,hv,heq]
      congr 1
      exact h.values _ hm
    · have hn : ofKey ens en.1 = [] := by
        rw [ofKey,map_eq_nil_iff,filter_eq_nil_iff]
        intro p hp hkey
        exact hnew ((h.mem_keys _).2 ⟨p,hp,of_decide_eq_true hkey⟩)
      rw [if_pos heq.symm,hv,heq,hn,nil_append]

lemma groups_collect (ens : List (κ × α)) : Groups ens (collect ens) := by
  induction ens using reverseRecOn with
  | nil => exact ⟨by simp [collect],by simp [collect],by simp [collect]⟩
  | append_singleton ens en ih =>
    rw [collect,foldl_append]
    exact ih.push en

lemma get_collect (ens : List (κ × α)) (key : κ) : get (collect ens) key = ofKey ens key := by
  have h := groups_collect ens
  unfold get
  split
  · rename_i group hf
    have hkey : group.1 = key := by simpa using find?_some hf
    rw [h.values group (mem_of_find?_eq_some hf),hkey]
  · rename_i hf
    rw [find?_eq_none] at hf
    symm
    rw [ofKey,map_eq_nil_iff,filter_eq_nil_iff]
    intro en he hkey
    obtain ⟨group,hg,heq⟩ := mem_map.1 ((h.mem_keys _).2 ⟨en,he,rfl⟩)
    exact hf group hg (by simpa [heq] using hkey)

lemma Groups.eq_map (h : Groups ens groups) :
    groups = (groups.map Prod.fst).map fun key => (key,ofKey ens key) := by
  rw [map_map]
  conv_lhs => rw [← map_id groups]
  refine map_congr_left fun group hg => ?_
  exact Prod.ext rfl (h.values group hg)

end BuzzSolo.KeyedGroups
