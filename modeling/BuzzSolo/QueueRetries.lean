import BuzzSolo.QueueCustody

/-! How often a batch is tried. A requeue counts the attempt, a batch over the limit is dead-
lettered; the attempts that failed in a row are compared with the count that the queue keeps. -/
namespace BuzzSolo.Acp

open HashTable EventQueue Option Function

def retryCount (q : EventQueue) (ch : Uuid) : ℕ := (q.retryCounts.lookup ch).getD 0

/-- The failed attempts of each channel since its last attempt that did not fail, or since its
last batch that was dead-lettered or drained. -/
abbrev Failures := Uuid → ℕ

/-- A batch that is put back unattempted leaves the number as it is. -/
def failuresSettling (B : Backoff) (now : ℕ) (q : EventQueue) (batch : FlushBatch) (failures : Failures) :
    Outcome → Failures
  | .requeue nanos =>
    match (q.requeue B now nanos batch).2 with
    | some _ => Function.update failures batch.channelId 0
    | none => Function.update failures batch.channelId (failures batch.channelId + 1)
  | .preserveTimestamps => failures
  | .finished => Function.update failures batch.channelId 0
  | .cancelled _ => Function.update failures batch.channelId 0

def failuresAfter (B : Backoff) (now : ℕ) (w : World) (failures : Failures) : Op → Failures
  | .settle i outcome =>
    match w.turns[i]? with
    | none => failures
    | some turn =>
      if turn.settled then failures
      else failuresSettling B now w.queue turn.batch failures outcome
  | .drain channelId => Function.update failures channelId 0
  | _ => failures

/-- A channel with failed attempts is completed while its back-off lasts, and compacted only while
its back-off lasts, an event is queued or a batch is in flight. -/
def KeepsCount (w : World) (failures : Failures) (now : ℕ) : Op → Prop
  | .complete i => ∀ turn ∈ w.turns[i]?, turn.completed = false →
      0 < failures turn.batch.channelId → w.queue.unthrottled now turn.batch.channelId = false
  | .compact => ∀ ch ∈ w.queue.retryCounts.keys, 0 < failures ch →
      w.queue.unthrottled now ch = false ∨ listAt w.queue.queues ch ≠ [] ∨ ch ∈ w.queue.inFlightChannels
  | _ => True

instance decidableKeepsCount (w : World) (failures : Failures) (now : ℕ) :
    (op : Op) → Decidable (KeepsCount w failures now op)
  | .complete i => inferInstanceAs (Decidable (∀ turn ∈ w.turns[i]?, _ → _ → _))
  | .compact => inferInstanceAs (Decidable (∀ ch ∈ w.queue.retryCounts.keys, _ → _))
  | .push _ => isTrue trivial
  | .flushNext _ => isTrue trivial
  | .hasFlushableWork _ => isTrue trivial
  | .settle _ _ => isTrue trivial
  | .extend _ _ => isTrue trivial
  | .withhold _ _ => isTrue trivial
  | .release _ _ => isTrue trivial
  | .remove _ _ => isTrue trivial
  | .drain _ => isTrue trivial

def attemptsAfter (B : Backoff) (w : World) (failures : Failures) (ops : List (ℕ × Op)) : World × Failures :=
  ops.foldl (fun s timed => (s.1.step B timed.1 timed.2,failuresAfter B timed.1 s.1 s.2 timed.2)) (w,failures)

/-- Each operation of the run keeps the count. -/
def KeepsAlong (B : Backoff) : World → Failures → List (ℕ × Op) → Prop
  | _,_,[] => True
  | w,failures,timed :: ops =>
    KeepsCount w failures timed.1 timed.2 ∧
      KeepsAlong B (w.step B timed.1 timed.2) (failuresAfter B timed.1 w failures timed.2) ops

instance decidableKeepsAlong (B : Backoff) (w : World) (failures : Failures) (ops : List (ℕ × Op)) :
    Decidable (KeepsAlong B w failures ops) :=
  match ops with
  | [] => isTrue trivial
  | timed :: ops =>
    have := decidableKeepsAlong B (w.step B timed.1 timed.2) (failuresAfter B timed.1 w failures timed.2) ops
    inferInstanceAs (Decidable (_ ∧ _))

section

variable {B : Backoff} {now : ℕ} {q : EventQueue} {ch : Uuid}

lemma attempt_eq : q.attempt ch = retryCount q ch + 1 := rfl

lemma expireChannel_retryCounts (id : Uuid) : (q.expireChannel id).retryCounts = q.retryCounts := by
  unfold expireChannel recoverWithheldForExpiredChannel
  split <;> rfl

lemma expire_retryCounts (ord : List Uuid) : (q.expire now ord).retryCounts = q.retryCounts := by
  unfold expire
  generalize q.expired now ord = ids
  induction ids generalizing q with
  | nil => rfl
  | cons id ids ih => rw [List.foldl_cons,ih,expireChannel_retryCounts]

lemma flushNext_retryCounts (it : Iteration) : (q.flushNext now it).1.retryCounts = q.retryCounts := by
  have he := @expire_retryCounts now q it.deadlines
  simp only [flushNext]
  split
  · exact he
  · split <;> exact he

lemma push_retryCounts (e : QueuedEvent) : (q.push e).1.retryCounts = q.retryCounts := by
  unfold EventQueue.push
  split <;> rfl

lemma withhold_retryCounts (id : Uuid) (eid : String) :
    (q.markNativeSteerPending id eid).1.retryCounts = q.retryCounts := by
  simp only [markNativeSteerPending]
  split <;> rfl

lemma release_retryCounts (id : Uuid) (eid : String) :
    (q.releaseNativeSteer id eid).retryCounts = q.retryCounts := by
  simp only [releaseNativeSteer]
  split <;> rfl

lemma extend_retryCounts (id : Uuid) (secs : ℕ) :
    (q.extendInFlightDeadline now id secs).retryCounts = q.retryCounts := by
  simp only [extendInFlightDeadline]
  split
  · rfl
  · split <;> rfl

/-- A completed channel keeps its count while its back-off lasts. -/
lemma markComplete_retryCounts (id : Uuid) : (q.markComplete now id).retryCounts =
    if q.unthrottled now id then q.retryCounts.erase id else q.retryCounts := by
  cases hl : q.retryAfter.lookup id with
  | none => simp [markComplete,unthrottled,hl]
  | some dl =>
    by_cases hlt : now < dl
    · have hn : ¬dl ≤ now := by omega
      simp [markComplete,unthrottled,hl,hlt]
    · have hle : dl ≤ now := by omega
      simp [markComplete,unthrottled,hl,hlt]

lemma compact_retryCount (hk : q.unthrottled now ch = false ∨ listAt q.queues ch ≠ [] ∨
    ch ∈ q.inFlightChannels) : retryCount (q.compactExpiredState now) ch = retryCount q ch := by
  simp only [retryCount,compactExpiredState]
  rw [lookup_filter]
  have hke : ((((q.retryAfter.entries.filter fun en => now < en.2)).toAList.lookup ch).isSome ||
      listAt q.queues ch ≠ [] || ch ∈ q.inFlightChannels) = true := by
    rcases hk with ht | hq | hflight
    · rw [lookup_filter]
      unfold unthrottled at ht
      cases hl : q.retryAfter.lookup ch with
      | none => simp [hl] at ht
      | some dl =>
        have hlt : now < dl := by simpa [hl] using ht
        simp [hlt]
    · simp [hq]
    · simp [hflight]
  cases hc : q.retryCounts.lookup ch with
  | none => rfl
  | some cnt => simp only [Option.filter,hke,if_true]

lemma compact_lookup {cnt : ℕ} (h : (q.compactExpiredState now).retryCounts.lookup ch = some cnt) :
    q.retryCounts.lookup ch = some cnt := by
  simp only [compactExpiredState] at h
  rw [lookup_filter] at h
  cases hc : q.retryCounts.lookup ch with
  | none => simp [hc] at h
  | some old =>
    rw [hc] at h
    simp only [Option.filter] at h
    split at h
    · exact h
    · simp at h

end

/-- The queue counts every attempt that has failed in a row, and no count is over the limit. -/
structure Counted (w : World) (failures : Failures) : Prop where
  failures_le : ∀ ch, failures ch ≤ retryCount w.queue ch
  bounded : ∀ ch count, w.queue.retryCounts.lookup ch = some count → count ≤ maxRetries

section

variable {B : Backoff} {now : ℕ} {w : World} {fs : Failures}

variable (h : Counted w fs)
include h

lemma Counted.of_same {w' : World} (hs : w'.queue.retryCounts = w.queue.retryCounts) : Counted w' fs := by
  refine ⟨?_,?_⟩
  · intro ch
    rw [retryCount,hs]
    exact h.failures_le ch
  · rw [hs]
    exact h.bounded

lemma Counted.reset (id : Uuid) : Counted w (update fs id 0) := by
  refine ⟨?_,h.bounded⟩
  intro ch
  by_cases hch : ch = id
  · simp [hch]
  · rw [update_of_ne hch]
    exact h.failures_le ch

lemma Counted.erase {w' : World} {id : Uuid} (hz : fs id = 0)
    (he : w'.queue.retryCounts = w.queue.retryCounts.erase id) : Counted w' fs := by
  refine ⟨?_,?_⟩
  · intro ch
    rw [retryCount,he,lookup_erase_eq]
    by_cases hch : ch = id
    · simp [hch,hz]
    · rw [if_neg hch]
      exact h.failures_le ch
  · intro ch cnt hl
    rw [he,lookup_erase_eq] at hl
    by_cases hch : ch = id
    · simp [hch] at hl
    · rw [if_neg hch] at hl
      exact h.bounded ch cnt hl

lemma Counted.count {w' : World} {id : Uuid} (hl : ¬maxRetries < w.queue.attempt id)
    (hi : w'.queue.retryCounts = w.queue.retryCounts.insert id (w.queue.attempt id)) :
    Counted w' (update fs id (fs id + 1)) := by
  refine ⟨?_,?_⟩
  · intro ch
    have hle := h.failures_le ch
    rw [retryCount,hi,lookup_insert_eq]
    by_cases hch : ch = id
    · subst hch
      simp only [update_self,if_true,getD_some,attempt_eq]
      omega
    · rw [update_of_ne hch,if_neg hch]
      exact hle
  · intro ch cnt hlookup
    rw [hi,lookup_insert_eq] at hlookup
    by_cases hch : ch = id
    · rw [if_pos hch,some.injEq] at hlookup
      omega
    · rw [if_neg hch] at hlookup
      exact h.bounded ch cnt hlookup

omit h

lemma counted_settleBatch (b : FlushBatch) (out : Outcome) (h : Counted w fs) :
    Counted (w.settleBatch B now b out) (failuresSettling B now w.queue b fs out) := by
  cases out with
  | finished | cancelled => exact (h.reset b.channelId).of_same rfl
  | preserveTimestamps => exact h.of_same rfl
  | requeue nanos =>
    simp only [World.settleBatch,failuresSettling,requeue]
    by_cases hd : maxRetries < w.queue.attempt b.channelId
    · simp only [if_pos hd]
      exact (h.reset b.channelId).erase (update_self _ _ _) rfl
    · simp only [if_neg hd]
      exact h.count hd rfl

lemma counted_settle (i : ℕ) (out : Outcome) (h : Counted w fs) :
    Counted (w.settle B now i out) (failuresAfter B now w fs (.settle i out)) := by
  cases ht : w.turns[i]? with
  | none =>
    simp only [World.settle,failuresAfter,ht]
    exact h
  | some turn =>
    simp only [World.settle,failuresAfter,ht]
    split
    · exact h
    · exact (counted_settleBatch turn.batch out h).of_same rfl

lemma counted_complete (i : ℕ) (h : Counted w fs)
    (hk : KeepsCount w fs now (.complete i)) : Counted (w.complete now i) fs := by
  unfold World.complete
  split
  · exact h
  next turn hturn =>
    split
    · exact h
    next hco =>
      have ho : turn.completed = false := by simpa using hco
      have hc := @markComplete_retryCounts now w.queue turn.batch.channelId
      cases ht : w.queue.unthrottled now turn.batch.channelId with
      | false =>
        rw [ht] at hc
        exact h.of_same hc
      | true =>
        -- without a back-off the channel has no failed attempts
        have hz : fs turn.batch.channelId = 0 := by
          by_contra hne
          have hf := hk turn hturn ho (Nat.pos_of_ne_zero hne)
          simp [ht] at hf
        rw [ht] at hc
        exact h.erase hz hc

lemma counted_compact (h : Counted w fs) (hk : KeepsCount w fs now .compact) :
    Counted { w with queue := w.queue.compactExpiredState now } fs := by
  refine ⟨?_,?_⟩
  · intro ch
    by_cases hz : fs ch = 0
    · omega
    · have hle := h.failures_le ch
      have hm : ch ∈ w.queue.retryCounts.keys := by
        by_contra ha
        have hn : w.queue.retryCounts.lookup ch = none := AList.lookup_eq_none.2 ha
        simp only [retryCount,hn,getD_none] at hle
        omega
      rw [compact_retryCount (hk ch hm (Nat.pos_of_ne_zero hz))]
      exact hle
  · intro ch cnt hl
    exact h.bounded ch cnt (compact_lookup hl)

lemma counted_step (op : Op) (h : Counted w fs) (hk : KeepsCount w fs now op) :
    Counted (w.step B now op) (failuresAfter B now w fs op) := by
  suffices ha : Counted (w.apply B now op) (failuresAfter B now w fs op) from ha.of_same rfl
  cases op with
  | push e =>
    refine h.of_same ?_
    simp only [World.apply,World.push]
    split
    · exact push_retryCounts e
    · rfl
  | flushNext it =>
    refine h.of_same ?_
    have hc := @flushNext_retryCounts now w.queue it
    simp only [World.apply,World.flush]
    split <;> exact hc
  | hasFlushableWork it => exact h.of_same (expire_retryCounts it.deadlines)
  | settle i out => exact counted_settle i out h
  | complete i => exact counted_complete i h hk
  | extend ch secs =>
    refine h.of_same ?_
    simp only [World.apply,World.extend]
    split <;> exact extend_retryCounts ch secs
  | withhold ch eid => exact h.of_same (withhold_retryCounts ch eid)
  | release ch eid => exact h.of_same (release_retryCounts ch eid)
  | remove ch eid => exact h.of_same rfl
  | drain ch => exact (h.reset ch).erase (update_self _ _ _) rfl
  | compact => exact counted_compact h hk

end

section

variable {B : Backoff}

lemma counted_run {w : World} {failures : Failures} (h : Counted w failures) (ops : List (ℕ × Op))
    (hk : KeepsAlong B w failures ops) :
    Counted (attemptsAfter B w failures ops).1 (attemptsAfter B w failures ops).2 := by
  induction ops generalizing w failures with
  | nil => exact h
  | cons timed ops ih => exact ih (counted_step timed.2 h hk.1) hk.2

/-- In every run that keeps the counts, no channel has more than `maxRetries` failed attempts in a
row, and the next one after that many is dead-lettered. -/
theorem retry_budget (B : Backoff) (mode : DedupMode) (deadline : ℕ) (ops : List (ℕ × Op))
    (hkeeps : KeepsAlong B (World.start { EventQueue.new mode with inFlightDeadline := deadline })
      (fun _ => 0) ops) (ch : Uuid) :
    let reached := attemptsAfter B
      (World.start { EventQueue.new mode with inFlightDeadline := deadline }) (fun _ => 0) ops
    reached.2 ch ≤ maxRetries ∧ (reached.2 ch = maxRetries → ∀ now nanos batch, batch.channelId = ch →
        (reached.1.queue.requeue B now nanos batch).2 = some batch) := by
  intro reached
  have hs : Counted (World.start { EventQueue.new mode with inFlightDeadline := deadline })
      (fun _ => 0) := ⟨fun _ => Nat.zero_le _,fun ch count hlookup => by
    simp [World.start,EventQueue.new] at hlookup⟩
  have hc : Counted reached.1 reached.2 := counted_run hs ops hkeeps
  have hle := hc.failures_le ch
  refine ⟨?_,?_⟩
  · have hbo : retryCount reached.1.queue ch ≤ maxRetries := by
      unfold retryCount
      cases hlookup : reached.1.queue.retryCounts.lookup ch with
      | none => exact Nat.zero_le _
      | some count => exact hc.bounded ch count hlookup
    omega
  · intro hm now nanos batch hb
    have hd : maxRetries < reached.1.queue.attempt batch.channelId := by
      rw [hb,attempt_eq]
      omega
    simp only [requeue,if_pos hd]

/-- The times are a thousand seconds apart, which is over every back-off. -/
def failedTurn (i : ℕ) : List (ℕ × Op) :=
  let now := (i + 1)*1000*nanosPerSec
  [(now,.flushNext anyOrder),(now,.settle i (.requeue 0)),(now,.complete i)]

def putBackTurn (i : ℕ) : List (ℕ × Op) :=
  let now := (i + 1)*1000*nanosPerSec
  [(now,.flushNext anyOrder),(now,.settle i .preserveTimestamps),(now,.complete i)]

def failingRequest (turns : List (List (ℕ × Op))) : List (ℕ × Op) :=
  (0,.push (requested firstRequest 0)) :: turns.flatten

theorem retry_budget_spent : let ops := failingRequest ((List.range maxRetries).map failedTurn)
    let reached := attemptsAfter fixedBackoff idleHarness (fun _ => 0) ops
    reached.2 requestChannel = maxRetries ∧ (reached.2 requestChannel ≤ maxRetries ∧
        (reached.2 requestChannel = maxRetries → ∀ now nanos batch, batch.channelId = requestChannel →
          (reached.1.queue.requeue fixedBackoff now nanos batch).2 = some batch)) :=
  ⟨by decide +kernel,retry_budget fixedBackoff .queue (7300*nanosPerSec)
    (failingRequest ((List.range maxRetries).map failedTurn)) (by decide +kernel) requestChannel⟩

/-- When each failed attempt is followed by a flush that finds no free agent, the count is one
after eleven failed attempts, and the batch is still retried. -/
theorem put_back_forgets_attempts :
    let ops := failingRequest ((List.range 21).map fun i =>
      if i % 2 = 0 then failedTurn i else putBackTurn i)
    let reached := attemptsAfter fixedBackoff idleHarness (fun _ => 0) ops
    reached.2 requestChannel = maxRetries + 1 ∧ retryCount reached.1.queue requestChannel = 1 ∧
      stored reached.1.queue requestChannel = [(requested firstRequest 0).batched] ∧
      reached.1.excused requestChannel = [] := by
  decide +kernel

end

end BuzzSolo.Acp
