import Mathlib.Tactic.Common

/-! Tasks that run on a state and may be left waiting at a site. `Ends` says where a task begun in a
state can end; its rules follow the text of a task. -/
namespace BuzzSolo.Suspension

variable {ω σ α β : Type}

/-- A task on the states `σ` that can be left waiting at a site of `ω`. -/
def Task (ω σ α : Type) := σ → σ × Except ω α

protected def Task.pure (a : α) : Task ω σ α := fun s => (s,.ok a)

protected def Task.bind (m : Task ω σ α) (f : α → Task ω σ β) : Task ω σ β := fun s =>
  match m s with
  | (t,.ok a) => f a t
  | (t,.error site) => (t,.error site)

instance : Monad (Task ω σ) where
  pure := Task.pure
  bind := Task.bind

def read : Task ω σ σ := fun s => (s,.ok s)

def update (f : σ → σ) : Task ω σ Unit := fun s => (f s,.ok ())

/-- Waits at a site for ever. -/
def stay (site : ω) : Task ω σ α := fun s => (s,.error site)

/-- A loop, cut off after the given number of rounds: a round hands a value to the next one or
leaves the loop. -/
def rounds (cut : ω) (body : α → Task ω σ (α ⊕ β)) : ℕ → α → Task ω σ β
  | 0, _ => stay cut
  | n+1, a => do
    match ← body a with
    | .inl next => rounds cut body n next
    | .inr b => pure b

/-- From `s` the task returns in `Q` or is left waiting in `S`. -/
def Ends (m : Task ω σ α) (s : σ) (Q : α → σ → Prop) (S : ω → σ → Prop) : Prop :=
  match m s with
  | (t,.ok a) => Q a t
  | (t,.error site) => S site t

variable {m : Task ω σ α} {f : α → Task ω σ β} {s : σ} {Q Q' : α → σ → Prop} {P : β → σ → Prop}
  {S S' : ω → σ → Prop}

@[simp] lemma ends_pure (a : α) : Ends (pure a) s Q S ↔ Q a s := Iff.rfl

@[simp] lemma ends_read {Q : σ → σ → Prop} : Ends read s Q S ↔ Q s s := Iff.rfl

@[simp] lemma ends_update (g : σ → σ) {Q : Unit → σ → Prop} : Ends (update g) s Q S ↔ Q () (g s) := Iff.rfl

@[simp] lemma ends_stay (site : ω) : Ends (stay site) s Q S ↔ S site s := Iff.rfl

@[simp] lemma ends_bind : Ends (m >>= f) s P S ↔ Ends m s (fun a t => Ends (f a) t P S) S := by
  have hb : (m >>= f) s = Task.bind m f s := rfl
  unfold Ends
  rw [hb,Task.bind]
  rcases m s with ⟨t,site | a⟩
  · rfl
  · rfl

lemma Ends.mono (h : Ends m s Q S) (hQ : ∀ a t, Q a t → Q' a t) (hS : ∀ site t, S site t → S' site t) :
    Ends m s Q' S' := by
  unfold Ends at *
  rcases hm : m s with ⟨t,site | a⟩
  · rw [hm] at h
    exact hS site t h
  · rw [hm] at h
    exact hQ a t h

lemma Ends.imp (h : Ends m s Q S) (hQ : ∀ a t, Q a t → Q' a t) : Ends m s Q' S := h.mono hQ fun _ _ hS => hS

/-- The rule for a loop: what each round keeps holds when the loop is left. -/
lemma ends_rounds {cut : ω} {body : α → Task ω σ (α ⊕ β)} (I : α → σ → Prop)
    (hr : ∀ a s, I a s → Ends (body a) s (fun r t => Sum.elim (I · t) (P · t) r) S)
    (hc : ∀ a s, I a s → S cut s) (n : ℕ) (a : α) (h : I a s) : Ends (rounds cut body n a) s P S := by
  induction n generalizing a s with
  | zero => exact (ends_stay cut).2 (hc a s h)
  | succ n ih =>
    rw [rounds,ends_bind]
    refine (hr a s h).imp ?_
    rintro (next | b) t ht
    · exact ih next ht
    · exact ht

end BuzzSolo.Suspension
