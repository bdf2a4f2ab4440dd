import BuzzSolo.HashTable

/-! The usage that the harness publishes of each turn: the difference of the totals of a session to
those committed, which are those of the last published turn unless a report came in outside of a
turn. -/
namespace BuzzSolo.Acp

open HashTable

/-- A report; costs are floating-point numbers, of which the order and the difference are used. -/
structure UsageUpdatePayload (κ : Type) where
  accumulatedInputTokens : ℕ
  accumulatedOutputTokens : ℕ
  accumulatedCost : Option κ
  model : Option String

structure SessionState (κ : Type) where
  publishedSeq : ℕ
  lastInput : ℕ
  lastOutput : ℕ
  lastCost : Option κ

structure TurnUsage (κ : Type) where
  sessionId : String
  turnSeq : ℕ
  deltaReliable : Bool
  turnInputTokens : Option ℕ
  turnOutputTokens : Option ℕ
  turnCostUsd : Option κ
  cumulativeInputTokens : ℕ
  cumulativeOutputTokens : ℕ
  cumulativeCostUsd : Option κ
  model : Option String

/-- The totals that a published record leaves behind. -/
def TurnUsage.committed {κ : Type} (r : TurnUsage κ) : SessionState κ :=
  ⟨r.turnSeq,r.cumulativeInputTokens,r.cumulativeOutputTokens,r.cumulativeCostUsd⟩

structure UsageTracker (κ : Type) where
  sessions : Table String (SessionState κ)
  inFlightSession : Option String
  pending : Option (TurnUsage κ)

inductive UsageOp (κ : Type)
  | beginTurn (sessionId : String)
  | record (sessionId : String) (payload : UsageUpdatePayload κ)
  | take

section

variable {κ : Type} [LE κ] [DecidableLE κ] [Sub κ]

/-- The number of the turn, and its tokens and cost unless a counter has gone down. -/
def turnDelta (payload : UsageUpdatePayload κ) : Option (SessionState κ) → ℕ × Option (ℕ × ℕ × Option κ)
  | none => (1,none)
  | some prev =>
    (prev.publishedSeq + 1,
      if payload.accumulatedInputTokens < prev.lastInput ∨
        payload.accumulatedOutputTokens < prev.lastOutput then none
      else
        let di := payload.accumulatedInputTokens - prev.lastInput
        let dout := payload.accumulatedOutputTokens - prev.lastOutput
        match payload.accumulatedCost, prev.lastCost with
        | some c, some p => if p ≤ c then some (di,dout,some (c - p)) else none
        | _, _ => some (di,dout,none))

namespace UsageTracker

variable (t : UsageTracker κ)

def beginTurn (sessionId : String) : UsageTracker κ :=
  { t with inFlightSession := some sessionId, pending := none }

def record (sessionId : String) (payload : UsageUpdatePayload κ) : UsageTracker κ :=
  let prev := t.sessions.lookup sessionId
  let turn := turnDelta payload prev
  if t.inFlightSession = some sessionId then
    { t with pending := some {
        sessionId := sessionId
        turnSeq := turn.1
        deltaReliable := turn.2.isSome
        turnInputTokens := turn.2.map fun delta => delta.1
        turnOutputTokens := turn.2.map fun delta => delta.2.1
        turnCostUsd := turn.2.bind fun delta => delta.2.2
        cumulativeInputTokens := payload.accumulatedInputTokens
        cumulativeOutputTokens := payload.accumulatedOutputTokens
        cumulativeCostUsd := payload.accumulatedCost
        model := payload.model } }
  else if t.inFlightSession = none then
    { t with sessions := t.sessions.insert sessionId {
        publishedSeq := (prev.map SessionState.publishedSeq).getD 0
        lastInput := payload.accumulatedInputTokens
        lastOutput := payload.accumulatedOutputTokens
        lastCost := payload.accumulatedCost } }
  -- a report of another session than the one in flight
  else t

def take : UsageTracker κ × Option (TurnUsage κ) :=
  match t.pending with
  | none => ({ t with inFlightSession := none },none)
  | some r => (⟨t.sessions.insert r.sessionId r.committed,none,none⟩,some r)

def step : UsageOp κ → UsageTracker κ × Option (TurnUsage κ)
  | .beginTurn sessionId => (t.beginTurn sessionId,none)
  | .record sessionId payload => (t.record sessionId payload,none)
  | .take => t.take

def run (ops : List (UsageOp κ)) : UsageTracker κ := ops.foldl (fun t op => (t.step op).1) t

/-- No call publishes a record of the session, and no report of it comes in outside of a turn. -/
def Quiet (sessionId : String) : UsageTracker κ → List (UsageOp κ) → Prop
  | _, [] => True
  | t, op :: ops => (∀ r ∈ (t.step op).2, r.sessionId ≠ sessionId) ∧
      (∀ payload, op = .record sessionId payload → t.inFlightSession ≠ none) ∧
        Quiet sessionId (t.step op).1 ops

end UsageTracker

/-- The tokens of a record are the difference of its totals to those of an earlier one. -/
structure Telescopes (earlier r : TurnUsage κ) : Prop where
  input_le : earlier.cumulativeInputTokens ≤ r.cumulativeInputTokens
  output_le : earlier.cumulativeOutputTokens ≤ r.cumulativeOutputTokens
  input : r.turnInputTokens = some (r.cumulativeInputTokens - earlier.cumulativeInputTokens)
  output : r.turnOutputTokens = some (r.cumulativeOutputTokens - earlier.cumulativeOutputTokens)

/-- The totals of a record are the committed ones of its session, from which a pending record of the
session is measured. -/
structure Since (r : TurnUsage κ) (t : UsageTracker κ) : Prop where
  committed : t.sessions.lookup r.sessionId = some r.committed
  pending : ∀ p ∈ t.pending, p.sessionId = r.sessionId → p.deltaReliable = true → Telescopes r p

variable {t : UsageTracker κ} {r : TurnUsage κ}

lemma Since.record (h : Since r t) {sid : String} {pay : UsageUpdatePayload κ}
    (hq : sid = r.sessionId → t.inFlightSession ≠ none) : Since r (t.record sid pay) := by
  unfold UsageTracker.record
  split_ifs with hf hn
  · refine ⟨h.committed,?_⟩
    rintro p hp hs hr
    cases hp
    obtain rfl : sid = r.sessionId := hs
    obtain ⟨delta,hd⟩ := Option.isSome_iff_exists.1 hr
    have ht := hd
    rw [h.committed,turnDelta] at ht
    split at ht
    · cases ht
    next hle =>
      rw [not_or,not_lt,not_lt] at hle
      have hde : delta.1 = pay.accumulatedInputTokens - r.cumulativeInputTokens ∧
          delta.2.1 = pay.accumulatedOutputTokens - r.cumulativeOutputTokens := by
        split at ht
        · split_ifs at ht
          cases ht
          exact ⟨rfl,rfl⟩
        · cases ht
          exact ⟨rfl,rfl⟩
      exact ⟨hle.1,hle.2,by rw [hd,← hde.1]; rfl,by rw [hd,← hde.2]; rfl⟩
  · have hne : r.sessionId ≠ sid := fun hs => hq hs.symm hn
    exact ⟨by rw [lookup_insert_eq,if_neg hne,h.committed],h.pending⟩
  · exact h

lemma Since.step (h : Since r t) {op : UsageOp κ} (hpu : ∀ p ∈ (t.step op).2, p.sessionId ≠ r.sessionId)
    (hq : ∀ pay, op = .record r.sessionId pay → t.inFlightSession ≠ none) : Since r (t.step op).1 := by
  cases op with
  | beginTurn sessionId => exact ⟨h.committed,by simp [UsageTracker.step,UsageTracker.beginTurn]⟩
  | record sessionId pay => exact h.record fun hs => hq pay (by rw [hs])
  | take =>
    simp only [UsageTracker.step,UsageTracker.take] at hpu ⊢
    cases hp : t.pending with
    | none => exact ⟨h.committed,by simp⟩
    | some p =>
      simp only [hp] at hpu ⊢
      exact ⟨by rw [lookup_insert_eq,if_neg (hpu p rfl).symm,h.committed],by simp⟩

lemma Since.run {ops : List (UsageOp κ)} (h : Since r t) (hq : UsageTracker.Quiet r.sessionId t ops) :
    Since r (t.run ops) := by
  induction ops generalizing t with
  | nil => exact h
  | cons op ops ih => exact ih (h.step hq.1 hq.2.1) hq.2.2

/-- Two records of a session with no other between them telescope, if the second is reliable and no
report of the session came in outside of a turn in between. -/
theorem published_deltas_telescope {first second : TurnUsage κ} {ops : List (UsageOp κ)}
    (hfirst : t.take.2 = some first) (hq : UsageTracker.Quiet first.sessionId t.take.1 ops)
    (hsecond : (t.take.1.run ops).take.2 = some second) (hs : second.sessionId = first.sessionId)
    (hr : second.deltaReliable = true) : Telescopes first second := by
  have hsince : Since first t.take.1 := by
    unfold UsageTracker.take at hfirst ⊢
    cases hp : t.pending with
    | none => simp [hp] at hfirst
    | some p =>
      simp only [hp,Option.some.injEq] at hfirst ⊢
      subst hfirst
      exact ⟨by simp,by simp⟩
  refine (hsince.run hq).pending second ?_ hs hr
  unfold UsageTracker.take at hsecond
  split at hsecond
  · cases hsecond
  next p hp =>
    cases hsecond
    exact hp

end

def reported (input : ℕ) : UsageOp ℕ := .record "s" ⟨input,0,none,none⟩

/-- A tracker with the first turn of a session done but for its publication. -/
def firstTurn : UsageTracker ℕ := UsageTracker.run ⟨∅,none,none⟩ [.beginTurn "s",reported 10]

theorem published_deltas_telescope_turns : ∃ first second, firstTurn.take.2 = some first ∧
    (firstTurn.take.1.run [.beginTurn "s",reported 30]).take.2 = some second ∧
    second.turnInputTokens = some 20 ∧ Telescopes first second := by
  refine ⟨_,_,rfl,rfl,by decide,
    @published_deltas_telescope ℕ _ _ _ firstTurn _ _ [.beginTurn "s",reported 30] rfl ?_ rfl rfl rfl⟩
  refine ⟨by simp [UsageTracker.step],by simp,by simp [UsageTracker.step,reported],?_,trivial⟩
  simp [UsageTracker.step,UsageTracker.beginTurn]

/-- A report between the turns is missing from the tokens of the second one. -/
theorem late_report_left_out : (firstTurn.take.2.map fun r => (r.sessionId,r.cumulativeInputTokens)) =
    some ("s",10) ∧
    ((firstTurn.take.1.run [reported 15,.beginTurn "s",reported 30]).take.2.map fun r =>
      (r.sessionId,r.deltaReliable,r.turnInputTokens,r.cumulativeInputTokens)) =
        some ("s",true,some 15,30) := by
  decide

end BuzzSolo.Acp
