import Mathlib.Tactic

/-! Sequences in which every group of calls is answered at once and in order. A reader keeps the
calls that are still to be answered; a sequence is paired when the reader refuses nothing and has
nothing left over. -/
namespace BuzzSolo.CallPairing

open List Option

inductive Role (ι : Type)
  | plain
  | opens (calls : List ι)
  | answers (call : ι)

variable {ι α : Type} [DecidableEq ι] (role : α → Role ι)

def read : List ι → List α → Option (List ι)
  | due, [] => some due
  | due, x :: xs =>
    match role x, due with
    | .plain, [] => read [] xs
    | .opens calls, [] => read calls xs
    | .answers call, d :: due => if call = d then read due xs else none
    | _, _ => none

def Paired (l : List α) : Prop := read role [] l = some []

instance (l : List α) : Decidable (Paired role l) := inferInstanceAs (Decidable (read role [] l = some []))

variable {role} {due left : List ι} {x : α}

lemma read_singleton : read role due [x] = some left ↔
    (role x = .plain ∧ due = [] ∧ left = []) ∨ (role x = .opens left ∧ due = []) ∨
      ∃ call, role x = .answers call ∧ due = call :: left := by
  cases hr : role x <;> cases due <;> simp [read,hr,eq_comm]

lemma read_cons (due : List ι) (x : α) (xs : List α) :
    read role due (x :: xs) = (read role due [x]).bind fun left => read role left xs := by
  cases hr : role x with
  | plain | opens => cases due <;> simp [read,hr]
  | answers call =>
    cases due with
    | nil => simp [read,hr]
    | cons d due =>
      simp only [read,hr]
      split_ifs <;> rfl

lemma read_plain (h : role x = .plain) (xs : List α) : read role [] (x :: xs) = read role [] xs := by
  rw [read_cons,read_singleton.2 (.inl ⟨h,rfl,rfl⟩)]
  rfl

variable {cs : List ι}

lemma read_opens (h : role x = .opens cs) (xs : List α) : read role [] (x :: xs) = read role cs xs := by
  rw [read_cons,read_singleton.2 (.inr (.inl ⟨h,rfl⟩))]
  rfl

variable {call : ι}

lemma read_answers (h : role x = .answers call) (due : List ι) (xs : List α) :
    read role (call :: due) (x :: xs) = read role due xs := by
  rw [read_cons,read_singleton.2 (.inr (.inr ⟨call,h,rfl⟩))]
  rfl

lemma read_cons_cases {xs : List α} (h : read role due (x :: xs) = some left) :
    (role x = .plain ∧ due = [] ∧ read role [] xs = some left) ∨
      (∃ cs, role x = .opens cs ∧ due = [] ∧ read role cs xs = some left) ∨
      ∃ call rest, role x = .answers call ∧ due = call :: rest ∧ read role rest xs = some left := by
  rw [read_cons,bind_eq_some_iff] at h
  obtain ⟨next,hn,hxs⟩ := h
  rcases read_singleton.1 hn with ⟨hx,hd,rfl⟩ | ⟨hx,hd⟩ | ⟨call,hx,hd⟩
  · exact .inl ⟨hx,hd,hxs⟩
  · exact .inr (.inl ⟨next,hx,hd,hxs⟩)
  · exact .inr (.inr ⟨call,next,hx,hd,hxs⟩)

lemma read_append (due : List ι) (l l' : List α) :
    read role due (l ++ l') = (read role due l).bind fun left => read role left l' := by
  induction l generalizing due with
  | nil => rfl
  | cons x xs ih =>
    rw [cons_append,read_cons,read_cons due x xs,bind_assoc]
    congr 1
    funext left
    exact ih left

variable {l : List α}

lemma Paired.append {l' : List α} (h : Paired role l) (h' : Paired role l') : Paired role (l ++ l') := by
  change read role [] (l ++ l') = some []
  rw [read_append,h]
  exact h'

lemma read_of_answers {anss : List α} (h : anss.map role = cs.map .answers) (l : List α) :
    read role cs (anss ++ l) = read role [] l := by
  induction anss generalizing cs with
  | nil =>
    have hc : cs = [] := map_eq_nil_iff.1 h.symm
    rw [hc,nil_append]
  | cons x anss ih =>
    cases cs with
    | nil => simp at h
    | cons call cs =>
      simp only [map_cons,cons.injEq] at h
      rw [cons_append,read_answers h.1]
      exact ih h.2

lemma Paired.head_not_answer (h : Paired role l) : ∀ x ∈ l.head?, ∀ call, role x ≠ .answers call := by
  intro x hx call hc
  obtain ⟨xs,rfl⟩ := head?_eq_some_iff.1 hx
  rcases read_cons_cases h with ⟨hp,-,-⟩ | ⟨cs,ho,-,-⟩ | ⟨call',rest,-,hd,-⟩
  · rw [hc] at hp
    cases hp
  · rw [hc] at ho
    cases ho
  · cases hd

lemma paired_turn {anss : List α} (hx : role x = .opens cs)
    (h : anss.map role = cs.map .answers) : Paired role (x :: anss) := by
  change read role [] (x :: anss) = some []
  rw [read_opens hx]
  have ha := read_of_answers h []
  rwa [append_nil] at ha

lemma exists_answers (h : read role due l = some []) :
    ∃ anss rest, l = anss ++ rest ∧ anss.map role = due.map .answers ∧ Paired role rest := by
  induction due generalizing l with
  | nil => exact ⟨[],l,rfl,rfl,h⟩
  | cons d due ih =>
    cases l with
    | nil =>
      cases h
    | cons x xs =>
      rcases read_cons_cases h with ⟨-,hd,-⟩ | ⟨-,-,hd,-⟩ | ⟨call,rest,hx,hd,hxs⟩
      · cases hd
      · cases hd
      · cases hd
        obtain ⟨anss,rest',rfl,ha,hr⟩ := ih hxs
        exact ⟨x :: anss,rest',rfl,by simp [hx,ha],hr⟩

/-- Paired sequences are made of plain items and of call groups with their answers. -/
lemma Paired.induct {P : List α → Prop} (nil : P [])
    (plain : ∀ x l, role x = .plain → Paired role l → P l → P (x :: l))
    (turn : ∀ x cs anss l, role x = .opens cs → anss.map role = cs.map .answers →
      Paired role l → P l → P (x :: (anss ++ l))) (h : Paired role l) : P l := by
  -- the induction is on the length, since a group takes several items at once
  obtain ⟨n,hn⟩ : ∃ n, l.length ≤ n := ⟨l.length,le_rfl⟩
  induction n generalizing l with
  | zero =>
    rw [length_eq_zero_iff.1 (Nat.le_zero.1 hn)]
    exact nil
  | succ n ih =>
    cases l with
    | nil => exact nil
    | cons x xs =>
      have hl : xs.length ≤ n := by simpa using hn
      rcases read_cons_cases h with ⟨hx,-,hxs⟩ | ⟨cs,hx,-,hxs⟩ | ⟨call,due,-,hd,-⟩
      · exact plain x xs hx hxs (ih hxs hl)
      · obtain ⟨anss,rest,rfl,ha,hr⟩ := exists_answers hxs
        rw [length_append] at hl
        exact turn x cs anss rest hx ha hr (ih hr (by omega))
      · cases hd

variable {before after : List α}

lemma Paired.split (h : Paired role (before ++ x :: after))
    (hx : ∀ call, role x ≠ .answers call) : Paired role before ∧ Paired role (x :: after) := by
  change read role [] (before ++ _ :: after) = some [] at h
  rw [read_append,bind_eq_some_iff] at h
  obtain ⟨due,hb,ha⟩ := h
  rcases read_cons_cases ha with ⟨-,rfl,-⟩ | ⟨-,-,rfl,-⟩ | ⟨call,-,han,-,-⟩
  · exact ⟨hb,ha⟩
  · exact ⟨hb,ha⟩
  · exact absurd han (hx call)

/-- Each call group is followed at once by its answers, and by no further one. -/
lemma Paired.answered (h : Paired role (before ++ x :: after)) (hx : role x = .opens cs) :
    ∃ anss rest, after = anss ++ rest ∧ anss.map role = cs.map .answers ∧
      ∀ y ∈ rest.head?, ∀ call, role y ≠ .answers call := by
  have ht := (h.split (by simp [hx])).2
  change read role [] (x :: after) = some [] at ht
  rw [read_opens hx] at ht
  obtain ⟨anss,rest,rfl,ha,hr⟩ := exists_answers ht
  exact ⟨anss,rest,rfl,ha,hr.head_not_answer⟩

/-- What is due has been asked for by the last call group, and all that it asked before is answered. -/
lemma exists_open (h : read role due l = some (call :: left)) :
    (∃ done, due = done ++ call :: left ∧ l.map role = done.map .answers) ∨
      ∃ before x mid done, l = before ++ x :: mid ∧ role x = .opens (done ++ call :: left) ∧
        mid.map role = done.map .answers := by
  induction l generalizing due with
  | nil =>
    exact .inl ⟨[],some.inj h,rfl⟩
  | cons y ys ih =>
    rcases read_cons_cases h with ⟨-,rfl,hys⟩ | ⟨cs,hy,rfl,hys⟩ | ⟨answer,rest,hy,rfl,hys⟩
    · rcases ih hys with ⟨done,hd,-⟩ | ⟨before,x,mid,done,rfl,hx,hb⟩
      · simp at hd
      · exact .inr ⟨y :: before,x,mid,done,rfl,hx,hb⟩
    · rcases ih hys with ⟨done,rfl,hm⟩ | ⟨before,x,mid,done,rfl,hx,hb⟩
      · exact .inr ⟨[],y,ys,done,rfl,hy,hm⟩
      · exact .inr ⟨y :: before,x,mid,done,rfl,hx,hb⟩
    · rcases ih hys with ⟨done,rfl,hm⟩ | ⟨before,x,mid,done,rfl,hx,hb⟩
      · exact .inl ⟨answer :: done,rfl,by simp [hy,hm]⟩
      · exact .inr ⟨y :: before,x,mid,done,rfl,hx,hb⟩

/-- An answer stands only in its place after a call group. -/
lemma Paired.asked {y : α} (h : Paired role (before ++ y :: after))
    (hy : role y = .answers call) : ∃ fr x mid done left, before = fr ++ x :: mid ∧
      role x = .opens (done ++ call :: left) ∧ mid.map role = done.map .answers := by
  change read role [] (before ++ _ :: after) = some [] at h
  rw [read_append,bind_eq_some_iff] at h
  obtain ⟨due,hbe,haf⟩ := h
  rcases read_cons_cases haf with ⟨hp,-,-⟩ | ⟨cs,ho,-,-⟩ | ⟨call',left,ha,rfl,-⟩
  · rw [hy] at hp
    cases hp
  · rw [hy] at ho
    cases ho
  · rw [hy] at ha
    cases ha
    rcases exists_open hbe with ⟨done,hd,-⟩ | ⟨fr,x,mid,done,rfl,hx,hb⟩
    · simp at hd
    · exact ⟨fr,x,mid,done,left,rfl,hx,hb⟩

section

def Followed (ok : α → List α → Prop) (l : List α) : Prop :=
  ∀ before x after, l = before ++ x :: after → ok x after

variable {ok : α → List α → Prop}

lemma followed_nil : Followed ok [] := by
  intro before x after h
  simp at h

lemma followed_cons {x : α} {l : List α} (hx : ok x l) (h : Followed ok l) : Followed ok (x :: l) := by
  intro before y after heq
  cases before with
  | nil =>
    cases heq
    exact hx
  | cons z before =>
    cases heq
    exact h before y after rfl

lemma Followed.append (hm : ∀ x a b, ok x a → ok x (a ++ b)) {l l' : List α} (h : Followed ok l)
    (h' : Followed ok l') : Followed ok (l ++ l') := by
  induction l with
  | nil => exact h'
  | cons x l ih =>
    have ht : Followed ok l := fun before y after heq => h (x :: before) y after (by rw [heq]; rfl)
    exact followed_cons (hm x l l' (h [] x l rfl)) (ih ht)

end

section

/-- A writer that may put a part of what an item is written to off; what was put off is written before
the next item that puts nothing off. -/
structure Writer (α β γ : Type) where
  now : α → List β
  later : α → Option (List γ)
  flush : List γ → List β
  flush_nil : flush [] = []

variable {β γ : Type} (W : Writer α β γ)

namespace Writer

def step (state : List β × List γ) (x : α) : List β × List γ :=
  match W.later x with
  | some more => (state.1 ++ W.now x,state.2 ++ more)
  | none => (state.1 ++ W.flush state.2 ++ W.now x,[])

def run (out : List β) (pending : List γ) (l : List α) : List β :=
  (l.foldl W.step (out,pending)).1 ++ W.flush (l.foldl W.step (out,pending)).2

lemma run_append (before out : List β) (pend : List γ) (l : List α) :
    W.run (before ++ out) pend l = before ++ W.run out pend l := by
  have hf : ∀ (l : List α) (out : List β) (pend : List γ), l.foldl W.step (before ++ out,pend) =
        (before ++ (l.foldl W.step (out,pend)).1,(l.foldl W.step (out,pend)).2) := by
    intro l
    induction l with
    | nil => intro out pend; rfl
    | cons x l ih =>
      intro out pend
      have hst : W.step (before ++ out,pend) x =
          (before ++ (W.step (out,pend) x).1,(W.step (out,pend) x).2) := by
        unfold step
        cases W.later x <;> simp
      rw [foldl_cons,foldl_cons,hst]
      exact ih _ _
  rw [run,hf,run,append_assoc]

lemma run_flush {l : List α} (h : ∀ x ∈ l.head?, W.later x = none) (out : List β) (pend : List γ) :
    W.run out pend l = out ++ (W.flush pend ++ W.run [] [] l) := by
  have hc : W.run out pend l = W.run (out ++ W.flush pend ++ []) [] l := by
    cases l with
    | nil => simp [run,W.flush_nil]
    | cons x l => simp [run,step,h x rfl,W.flush_nil]
  rw [hc,run_append,append_assoc]

lemma run_cons {x : α} (h : W.later x = none) (l : List α) :
    W.run [] [] (x :: l) = W.now x ++ W.run [] [] l := by
  have hst : W.run [] [] (x :: l) = W.run (W.now x ++ []) [] l := by simp [run,step,h,W.flush_nil]
  rw [hst,run_append]

lemma run_turn {δ : Type} {x : α} {ans : δ → α} {more : δ → List γ} {l : List α} (hx : W.later x = none)
    (ha : ∀ d, W.later (ans d) = some (more d)) (hl : ∀ y ∈ l.head?, W.later y = none) (ds : List δ) :
    W.run [] [] (x :: (ds.map ans ++ l)) =
      W.now x ++ (ds.flatMap (fun d => W.now (ans d)) ++ (W.flush (ds.flatMap more) ++ W.run [] [] l)) := by
  have hb : ∀ (ds : List δ) (pend : List γ), W.run [] pend (ds.map ans ++ l) =
      ds.flatMap (fun d => W.now (ans d)) ++ W.run [] (pend ++ ds.flatMap more) l := by
    intro ds
    induction ds with
    | nil => simp
    | cons d ds ih =>
      intro pend
      have hst : W.run [] pend (ans d :: (ds.map ans ++ l)) =
          W.run (W.now (ans d) ++ []) (pend ++ more d) (ds.map ans ++ l) := by
        simp [run,step,ha d]
      rw [map_cons,cons_append,hst,run_append,ih]
      simp
  rw [run_cons W hx,hb,nil_append,run_flush W hl,nil_append]

end Writer

end

end BuzzSolo.CallPairing
