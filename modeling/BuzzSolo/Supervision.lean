import Mathlib.Tactic

/-! A supervised process that is started again after it is lost. The count of starts is forgotten
when one succeeds, so how many there are between two good answers depends on whether a process is
lost before it has given one. -/
namespace BuzzSolo.Supervision

open List

section

variable {α : Type} (resets costs : α → Bool)

/-- The costs since the last reset, the newest first. -/
def spent : List α → ℕ
  | [] => 0
  | a :: rest => if resets a then 0 else spent rest + if costs a then 1 else 0

variable {resets costs}

lemma countP_le_spent_append {win : List α} (h : ∀ a ∈ win, resets a = false) (rest : List α) :
    win.countP costs ≤ spent resets costs (win ++ rest) := by
  induction win with
  | nil => simp
  | cons a win ih =>
    have ht := ih fun b hb => h b (by simp [hb])
    have hh : resets a = false := h a (by simp)
    simp only [cons_append,spent,hh,Bool.false_eq_true,if_false,countP_cons]
    omega

/-- A bound on what is spent at each moment bounds every stretch without a reset. -/
lemma countP_window_lt {his win : List α} {n : ℕ}
    (hs : ∀ past, past <:+ his → spent resets costs past < n) (hw : win <:+: his)
    (h : ∀ a ∈ win, resets a = false) : win.countP costs < n := by
  obtain ⟨later,ear,rfl⟩ := hw
  have hp : win ++ ear <:+ later ++ win ++ ear := ⟨later,(append_assoc _ _ _).symm⟩
  exact (countP_le_spent_append h ear).trans_lt (hs _ hp)

end

variable {β : Type}

/-- What happens to the process; an answer names the incarnation that gave it. -/
inductive Event (β : Type)
  | attempt
  | revived (incarnation : ℕ)
  | failed
  | abandoned
  | lost (incarnation : ℕ)
  | answered (incarnation : ℕ) (answer : β)
  deriving DecidableEq

inductive Life
  | alive (incarnation : ℕ)
  | resting (attempts : ℕ)
  | reviving (attempts : ℕ)

/-- The lives of a process that may be started again while the count is below `limit`, with the
next incarnation and what has happened so far, newest first. An answer may come late. -/
inductive Reach (β : Type) (limit : ℕ) : Life → ℕ → List (Event β) → Prop
  | start : Reach β limit (.alive 0) 1 []
  | lose {c next history} (h : Reach β limit (.alive c) next history) :
      Reach β limit (.resting 1) next (.lost c :: history)
  | begin {a next history} (h : Reach β limit (.resting a) next history) (ha : a < limit) :
      Reach β limit (.reviving a) next (.attempt :: history)
  | revive {a next history} (h : Reach β limit (.reviving a) next history) :
      Reach β limit (.alive next) (next+1) (.revived next :: history)
  | fail {a next history} (h : Reach β limit (.reviving a) next history) :
      Reach β limit (.resting (a+1)) next (.failed :: history)
  | abandon {a next history} (h : Reach β limit (.reviving a) next history) :
      Reach β limit (.resting a) next (.abandoned :: history)
  | answer {life c b next history} (h : Reach β limit life next history) (hc : c < next) :
      Reach β limit life next (.answered c b :: history)

def Event.isAttempt : Event β → Bool
  | attempt => true
  | _ => false

def Event.succeeds (success : β → Bool) : Event β → Bool
  | answered _ b => success b
  | _ => false

/-- Only an incarnation that has given a good answer, or the first one, is ever lost. -/
def Earned (success : β → Bool) (history : List (Event β)) : Prop :=
  ∀ c rest, .lost c :: rest <:+ history → c = 0 ∨ ∃ b, success b = true ∧ .answered c b ∈ rest

variable {success : β → Bool} {limit next : ℕ} {life : Life} {his : List (Event β)}

lemma Earned.tail {e : Event β} (h : Earned success (e :: his)) : Earned success his :=
  fun c rest hr => h c rest (hr.trans (suffix_cons e his))

/-- The attempts since the last good answer, against the life of the process. An incarnation that
may be lost has none behind it. -/
def Covered (success : β → Bool) (limit : ℕ) (history : List (Event β)) : Life → Prop
  | .alive c => spent (Event.succeeds success) Event.isAttempt history < limit ∧
      (c = 0 ∨ (∃ b, success b = true ∧ .answered c b ∈ history) →
        spent (Event.succeeds success) Event.isAttempt history = 0)
  | .resting a => spent (Event.succeeds success) Event.isAttempt history < a ∧ a ≤ limit
  | .reviving a => spent (Event.succeeds success) Event.isAttempt history ≤ a ∧ a < limit

lemma Covered.spent_lt (h : Covered success limit his life) :
    spent (Event.succeeds success) Event.isAttempt his < limit := by
  cases life with
  | alive c => exact h.1
  | resting a => exact h.1.trans_le h.2
  | reviving a => exact h.1.trans_lt h.2

lemma Reach.next_pos (h : Reach β limit life next his) : 0 < next := by
  induction h <;> omega

lemma Reach.answered_lt (h : Reach β limit life next his) : ∀ c b, .answered c b ∈ his → c < next := by
  induction h with
  | start => simp
  | revive h ih => exact fun c b hm => (ih c b (by simpa using hm)).trans (Nat.lt_succ_self _)
  | answer h hc ih =>
    intro c b hm
    rcases mem_cons.1 hm with heq | hm
    · cases heq
      exact hc
    · exact ih c b hm
  | lose h ih | fail h ih | abandon h ih => exact fun c b hm => ih c b (by simpa using hm)
  | begin h ha ih => exact fun c b hm => ih c b (by simpa using hm)

lemma spent_of_quiet {e : Event β} (hr : e.succeeds success = false) (hc : e.isAttempt = false) :
    spent (Event.succeeds success) Event.isAttempt (e :: his) =
      spent (Event.succeeds success) Event.isAttempt his := by
  simp [spent,hr,hc]

lemma Covered.answer (h : Covered success limit his life) (hl : 0 < limit) (c : ℕ) (b : β) :
    Covered success limit (.answered c b :: his) life := by
  cases hb : success b with
  | true =>
    have hz : spent (Event.succeeds success) Event.isAttempt (.answered c b :: his) = 0 := by
      simp [spent,Event.succeeds,hb]
    cases life with
    | alive d => exact ⟨hz ▸ hl,fun _ => hz⟩
    | resting a => exact ⟨hz ▸ (Nat.zero_le _).trans_lt h.1,h.2⟩
    | reviving a => exact ⟨hz ▸ Nat.zero_le a,h.2⟩
  | false =>
    have hs := @spent_of_quiet β success his (.answered c b) hb rfl
    cases life with
    | alive d =>
      refine ⟨hs ▸ h.1,?_⟩
      intro hd
      rw [hs]
      refine h.2 (hd.imp id ?_)
      rintro ⟨x,hx,hm⟩
      rcases mem_cons.1 hm with heq | hm
      · cases heq
        rw [hb] at hx
        cases hx
      · exact ⟨x,hx,hm⟩
    | resting | reviving => exact ⟨hs ▸ h.1,h.2⟩

variable (h : Reach β limit life next his)
include h

lemma Reach.covered (hl : 0 < limit)
    (he : Earned success his) (hf : .abandoned ∉ his) : Covered success limit his life := by
  induction h with
  | start => exact ⟨hl,fun _ => rfl⟩
  | @lose c next his h ih =>
    have hco := ih he.tail fun hm => hf (by simp [hm])
    -- the incarnation was the first or had answered, so nothing was spent on it
    have hz := hco.2 (he c his (suffix_refl _))
    refine ⟨?_,hl⟩
    rw [spent_of_quiet rfl rfl,hz]
    exact Nat.one_pos
  | begin h ha ih =>
    have hco := ih he.tail fun hm => hf (by simp [hm])
    refine ⟨?_,ha⟩
    have hs := hco.1
    simp only [spent,Event.succeeds,Event.isAttempt,Bool.false_eq_true,if_false,if_true]
    omega
  | @revive a next his h ih =>
    have hco := ih he.tail fun hm => hf (by simp [hm])
    refine ⟨?_,?_⟩
    · exact hco.1.trans_lt hco.2
    · rintro (hz | ⟨b,-,hm⟩)
      · have hp := h.next_pos
        omega
      · have hlt := h.answered_lt next b (by simpa using hm)
        omega
  | fail h ih =>
    have hco := ih he.tail fun hm => hf (by simp [hm])
    refine ⟨?_,hco.2⟩
    exact Nat.lt_succ_of_le hco.1
  | abandon h ih => exact absurd (by simp) hf
  | @answer life c b next his h hc ih =>
    exact (ih he.tail fun hm => hf (by simp [hm])).answer hl c b

lemma Reach.past {past : List (Event β)} (hp : past <:+ his) : ∃ life next, Reach β limit life next past := by
  induction h generalizing past with
  | start =>
    rw [suffix_nil.1 hp]
    exact ⟨_,_,.start⟩
  | lose h ih | revive h ih | fail h ih | abandon h ih =>
    rcases suffix_cons_iff.1 hp with rfl | hp
    · exact ⟨_,_,by constructor; assumption⟩
    · exact ih hp
  | begin h ha ih | answer h hc ih =>
    rcases suffix_cons_iff.1 hp with rfl | hp
    · exact ⟨_,_,by constructor <;> assumption⟩
    · exact ih hp

/-- Between two good answers there are fewer attempts than the limit, as long as no attempt is
abandoned and no incarnation is lost before its first good answer. -/
lemma Reach.attempts_lt (hl : 0 < limit)
    (he : Earned success his) (hf : .abandoned ∉ his) {win : List (Event β)}
    (hw : win <:+: his) (hq : ∀ e ∈ win, e.succeeds success = false) :
    win.countP Event.isAttempt < limit := by
  refine countP_window_lt (fun past hp => ?_) hw hq
  obtain ⟨life,next,hr⟩ := h.past hp
  refine (hr.covered hl ?_ fun hm => hf (hp.subset hm)).spent_lt
  exact fun c rest hre => he c rest (hre.trans hp)

end BuzzSolo.Supervision
