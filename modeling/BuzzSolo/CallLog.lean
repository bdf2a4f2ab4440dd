import Mathlib.Tactic

/-! A machine that answers calls or refuses them, and the log of the calls it has answered. A
state that only one kind of call leads to gives an order on the log: what needs the state comes
after a call of that kind. -/
namespace BuzzSolo.CallLog

open List

variable {S D C E A : Type}

def answered (c : C) : Except E A → List (C × A)
  | .ok a => [(c,a)]
  | .error _ => []

@[simp] lemma answered_ok (c : C) (a : A) : answered c (.ok a : Except E A) = [(c,a)] := rfl
@[simp] lemma answered_error (c : C) (e : E) : answered c (.error e : Except E A) = [] := rfl

lemma mem_answered {c : C} {r : Except E A} {en : C × A} :
    en ∈ answered c r ↔ ∃ a, r = .ok a ∧ en = (c,a) := by
  cases r <;> simp

/-- The runs of a machine from a state, with their logs. `D` is what a call draws from its
surroundings. -/
inductive Run (call : D → S → C → S × Except E A) (start : S) : List (C × A) → S → Prop
  | start : Run call start [] start
  | step {log s} (h : Run call start log s) (d : D) (c : C) :
      Run call start (log ++ answered c (call d s c).2) (call d s c).1

/-- Each `later` entry of the log has a `first` entry before it. -/
def Precedes (first later : C × A → Prop) (log : List (C × A)) : Prop :=
  ∀ before entry after, log = before ++ entry :: after → later entry → ∃ e ∈ before, first e

variable {first middle later : C × A → Prop} {log : List (C × A)}

lemma precedes_nil : Precedes first later ([] : List (C × A)) := by
  intro bef en aft h
  simp at h

lemma Precedes.snoc (h : Precedes first later log) {en : C × A}
    (hen : later en → ∃ e ∈ log, first e) : Precedes first later (log ++ [en]) := by
  intro bef e aft hs he
  rcases eq_nil_or_concat aft with rfl | ⟨rest,x,rfl⟩
  · obtain ⟨rfl,rfl⟩ : log = bef ∧ en = e := by simpa using hs
    exact hen he
  · have hc : log ++ [en] = (bef ++ e :: rest) ++ [x] := by simpa using hs
    exact h bef e rest (append_inj' hc rfl).1 he

lemma Precedes.trans (h : Precedes first middle log) (h' : Precedes middle later log) :
    Precedes first later log := by
  intro bef en aft hl hen
  obtain ⟨m,hm,hmi⟩ := h' bef en aft hl hen
  obtain ⟨left,right,rfl⟩ := append_of_mem hm
  obtain ⟨e,he,hf⟩ := h left m (right ++ en :: aft) (by simp [hl]) hmi
  exact ⟨e,mem_append_left _ he,hf⟩

namespace Run

variable {call : D → S → C → S × Except E A} {s0 s : S}

lemma invariant {I : S → Prop} (hrun : Run call s0 log s) (hstart : I s0)
    (hst : ∀ d s c, I s → I (call d s c).1) : I s := by
  induction hrun with
  | start => exact hstart
  | step _ d c ih => exact hst d _ c ih

/-- An invariant of the states together with what has been logged. -/
lemma entries {I : S → Prop} {P : S → C × A → Prop} (hrun : Run call s0 log s)
    (hstart : I s0) (hst : ∀ d s c, I s → I (call d s c).1)
    (hk : ∀ d s c en, I s → P s en → P (call d s c).1 en)
    (hnew : ∀ d s c a, I s → (call d s c).2 = .ok a → P (call d s c).1 (c,a)) : ∀ en ∈ log, P s en := by
  induction hrun with
  | start => simp
  | step hrun d c ih =>
    have hI := hrun.invariant hstart hst
    intro en he
    rcases mem_append.1 he with hold | hl
    · exact hk d _ c en hI (ih en hold)
    · obtain ⟨a,ha,rfl⟩ := mem_answered.1 hl
      exact hnew d _ c a hI ha

section

variable {I Q : S → Prop} (hstart : I s0) (hstep : ∀ d s c, I s → I (call d s c).1)
  (hstartQ : ¬ Q s0)
  (hgain : ∀ d s c, I s → Q (call d s c).1 → Q s ∨ ∃ a, (call d s c).2 = .ok a ∧ first (c,a))
include hstart hstep hstartQ hgain

lemma logged (hrun : Run call s0 log s) (hQ : Q s) : ∃ e ∈ log, first e := by
  induction hrun with
  | start => exact absurd hQ hstartQ
  | step hrun d c ih =>
    rcases hgain d _ c (hrun.invariant hstart hstep) hQ with hb | ⟨a,ha,hf⟩
    · obtain ⟨e,he,hf⟩ := ih hb
      exact ⟨e,mem_append_left _ he,hf⟩
    · exact ⟨(c,a),by simp [ha],hf⟩

/-- What needs the property comes after a call that leads to it. -/
lemma precedes (hn : ∀ d s c a, I s → (call d s c).2 = .ok a → later (c,a) → Q s)
    (hrun : Run call s0 log s) : Precedes first later log := by
  induction hrun with
  | start => exact precedes_nil
  | @step log s hrun d c ih =>
    cases ha : (call d s c).2 with
    | error e => simpa [ha] using ih
    | ok a =>
      refine Precedes.snoc ih fun hl => ?_
      have hQ := hn d s c a (hrun.invariant hstart hstep) ha hl
      exact hrun.logged hstart hstep hstartQ hgain hQ

end

/-- A call that moves a rank which never falls past the rank it needs is answered once. -/
lemma countP_le_one (rank : S → ℕ) (k : ℕ) {p : C × A → Bool} (hm : ∀ d s c, rank s ≤ rank (call d s c).1)
    (hp : ∀ d s c a, (call d s c).2 = .ok a → p (c,a) = true → rank s = k ∧ k < rank (call d s c).1)
    (hrun : Run call s0 log s) : log.countP p ≤ 1 := by
  -- below the rank, and at it, there is none yet
  suffices h : log.countP p ≤ 1 ∧ (rank s ≤ k → log.countP p = 0) from h.1
  induction hrun with
  | start => simp
  | @step log s hrun d c ih =>
    have hle := hm d s c
    cases ha : (call d s c).2 with
    | error e =>
      simp only [answered_error,append_nil]
      exact ⟨ih.1,fun h => ih.2 (hle.trans h)⟩
    | ok a =>
      simp only [answered_ok,countP_append,countP_singleton]
      by_cases hpa : p (c,a) = true
      · obtain ⟨hk,hlt⟩ := hp d s c a ha hpa
        simp only [hpa,if_true]
        omega
      · simp only [if_neg hpa]
        exact ⟨ih.1,fun h => ih.2 (hle.trans h)⟩

end Run

end BuzzSolo.CallLog
