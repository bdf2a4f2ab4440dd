import Mathlib.Tactic

/-! Validators in `Except`. A failed check ends the validation with its message; a
validation succeeds exactly when each of its checks does. -/
namespace BuzzSolo.Checks

variable {ε α β : Type}

def require (condition : Prop) [Decidable condition] (error : ε) : Except ε Unit :=
  if condition then .ok () else .error error

def okOr (value : Option α) (error : ε) : Except ε α :=
  match value with
  | some a => .ok a
  | none => .error error

def collect (f : α → Except ε β) : List α → Except ε (List β)
  | [] => .ok []
  | x :: xs => do
    let y ← f x
    let ys ← collect f xs
    .ok (y :: ys)

variable {f : α → Except ε β}

@[simp] lemma bind_eq_ok {x : Except ε α} {b : β} : (x >>= f) = .ok b ↔ ∃ a, x = .ok a ∧ f a = .ok b := by
  cases x <;> simp [bind,Except.bind]

lemma exists_unit {p : Unit → Prop} : (∃ u, p u) ↔ p () := ⟨fun ⟨(),h⟩ => h,fun h => ⟨(),h⟩⟩

variable {error : ε}

@[simp] lemma require_eq_ok {condition : Prop} [Decidable condition] {u : Unit} :
    require condition error = .ok u ↔ condition := by
  unfold require
  split <;> simp_all

@[simp] lemma okOr_eq_ok {v : Option α} {a : α} : okOr v error = .ok a ↔ v = some a := by
  cases v <;> simp [okOr]

variable {e : ε}

lemma bind_eq_error {x : Except ε α} : (x >>= f) = .error e ↔ x = .error e ∨ ∃ a, x = .ok a ∧
    f a = .error e := by
  cases x <;> simp [bind,Except.bind]

lemma require_eq_error {condition : Prop} [Decidable condition] :
    require condition error = .error e ↔ ¬condition ∧ error = e := by
  unfold require
  split <;> simp_all

lemma okOr_eq_error {v : Option α} : okOr v error = .error e ↔ v = none ∧ error = e := by
  cases v <;> simp [okOr]

@[simp] lemma relabelled_ok {δ : Type} {checked : Except ε α} {relabel : ε → δ} {value : α} :
    checked.mapError relabel = .ok value ↔ checked = .ok value := by
  rcases checked with e | v
  · simp [Except.mapError]
  · simp [Except.mapError]

lemma toOption_eq_some {checked : Except ε α} {v : α} : checked.toOption = some v ↔ checked = .ok v := by
  cases checked <;> simp [Except.toOption]

variable {xs : List α}

lemma collect_eq_ok {ys : List β} : collect f xs = .ok ys ↔ List.Forall₂ (fun x y => f x = .ok y) xs ys := by
  induction xs generalizing ys with
  | nil => simp [collect]
  | cons x xs ih =>
    simp only [collect,bind_eq_ok,ih,Except.ok.injEq,List.forall₂_cons_left_iff]
    constructor
    · rintro ⟨y,hy,zs,hzs,rfl⟩
      exact ⟨y,zs,hy,hzs,rfl⟩
    · rintro ⟨y,zs,hy,hzs,rfl⟩
      exact ⟨y,hy,zs,hzs,rfl⟩

lemma ok_of_collect {ys : List β} (h : collect f xs = .ok ys) {x : α} (hx : x ∈ xs) : ∃ y, f x = .ok y := by
  rw [collect_eq_ok] at h
  induction h with
  | nil => simp at hx
  | cons hf _ ih =>
    rcases List.mem_cons.1 hx with rfl | hx
    · exact ⟨_,hf⟩
    · exact ih hx

lemma exists_collect (h : ∀ x ∈ xs, ∃ y, f x = .ok y) : ∃ ys, collect f xs = .ok ys := by
  induction xs with
  | nil => exact ⟨[],rfl⟩
  | cons x xs ih =>
    obtain ⟨y,hy⟩ := h x (by simp)
    obtain ⟨ys,hys⟩ := ih fun z hz => h z (by simp [hz])
    exact ⟨y :: ys,by simp only [collect,bind_eq_ok]; exact ⟨y,hy,ys,hys,rfl⟩⟩

end BuzzSolo.Checks
