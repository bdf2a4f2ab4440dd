import BuzzSolo.QueueRuns

/-! Where the events of the queue are. Every operation moves events between a channel's queue, its
withheld and cancelled events and the batches of callers, or books them as gone. -/
namespace BuzzSolo.Acp

open HashTable EventQueue List

section

variable {α : Type}

lemma perm_cons_eraseP {p : α → Bool} {l : List α} {a : α} (h : l.find? p = some a) :
    l.Perm (a :: l.eraseP p) := by
  induction l with
  | nil => simp at h
  | cons x l ih =>
    by_cases hx : p x = true
    · obtain rfl : x = a := by simpa [hx] using h
      simp [hx]
    · have hl : l.find? p = some a := by simpa [hx] using h
      rw [eraseP_cons_of_neg hx]
      exact ((ih hl).cons x).trans (List.Perm.swap a x _)

lemma sum_map_set (f : α → ℕ) {l : List α} {i : ℕ} {x : α} (y : α) (h : l[i]? = some x) :
    ((l.set i y).map f).sum + f x = (l.map f).sum + f y := by
  induction l generalizing i with
  | nil => simp at h
  | cons z l ih =>
    cases i with
    | zero =>
      obtain rfl : z = x := by simpa using h
      simp only [set_cons_zero,map_cons,sum_cons]
      omega
    | succ i =>
      have hl := ih (by simpa using h)
      simp only [set_cons_succ,map_cons,sum_cons]
      omega

lemma map_modify_of_eq {β : Type} {f : α → β} {g : α → α} (hg : ∀ x, f (g x) = f x) (l : List α)
    (i : ℕ) : (l.modify i g).map f = l.map f := by
  induction l generalizing i with
  | nil => simp
  | cons x l ih =>
    cases i with
    | zero => simp [hg]
    | succ i => simp [ih]

end

section

variable {q : EventQueue} (ch : Uuid) (b : BatchEvent)

lemma count_stored : (stored q ch).count b = ((listAt q.queues ch).map QueuedEvent.batched).count b +
    (((listAt q.withheldNativeSteer ch).map QueuedEvent.batched).count b +
      (listAt q.cancelledBatches ch).count b) := by
  simp only [stored,count_append]

/-- The cap drops the events beyond it and no others. -/
lemma count_putFront (es queue : List QueuedEvent) :
    ((putFront es queue).map QueuedEvent.batched).count b + (overflow es queue).count b =
      (es.map QueuedEvent.batched).count b + (queue.map QueuedEvent.batched).count b := by
  rw [putFront,overflow,← count_append,← map_append,take_append_drop,map_append, count_append]

lemma count_map_find {l : List QueuedEvent} {p : QueuedEvent → Bool} {qe : QueuedEvent}
    (h : l.find? p = some qe) : (l.map QueuedEvent.batched).count b =
      [qe.batched].count b + ((l.eraseP p).map QueuedEvent.batched).count b := by
  rw [((perm_cons_eraseP h).map QueuedEvent.batched).count_eq,map_cons,← count_append]
  rfl

lemma count_map_filter (l : List QueuedEvent) (p : QueuedEvent → Bool) :
    (l.map QueuedEvent.batched).count b = ((l.filter p).map QueuedEvent.batched).count b +
      ((l.filter fun qe => !p qe).map QueuedEvent.batched).count b := by
  rw [← count_append,← map_append]
  exact (((filter_append_perm p l).map QueuedEvent.batched).count_eq b).symm

lemma map_batched_queued (es : List BatchEvent) (ch : Uuid) :
    (es.map fun be => be.queued ch).map QueuedEvent.batched = es := by
  simp [Function.comp_def,BatchEvent.queued,QueuedEvent.batched]

/-- What one channel has more than before, in units of one event. -/
def onChannel (ch channelId : Uuid) (events : List BatchEvent) (b : BatchEvent) : ℕ :=
  (if ch = channelId then events else []).count b

lemma count_add (account : Account) (cid : Uuid) (es : List BatchEvent) :
    (account.add cid es ch).count b = (account ch).count b + onChannel ch cid es b := by
  rw [Account.add_apply,count_append,onChannel]

lemma stored_expireChannel (id : Uuid) : (stored q ch).count b =
    (stored (q.expireChannel id) ch).count b + onChannel ch id (recoveryOverflow q id) b := by
  simp only [expireChannel,recoverWithheldForExpiredChannel,recoveryOverflow,onChannel]
  cases he : q.withheldNativeSteer.lookup id with
  | none => simp [count_stored]
  | some ents =>
    simp only [count_stored,listAt_insert,listAt_erase]
    by_cases h : ch = id
    · subst h
      have hw : listAt q.withheldNativeSteer ch = ents := by simp [listAt,he]
      have hc := count_putFront b ents (listAt q.queues ch)
      simp only [if_true,hw,map_nil,count_nil]
      omega
    · simp [h]

lemma stored_expire (account : Account) (ids : List Uuid) : (stored q ch).count b + (account ch).count b =
      (stored (ids.foldl expireChannel q) ch).count b + (evictedByExpiry q ids account ch).count b := by
  induction ids generalizing q account with
  | nil => rfl
  | cons id ids ih =>
    rw [foldl_cons,evictedByExpiry,← ih,count_add,stored_expireChannel ch b id]
    omega

lemma stored_dispatch (now : ℕ) (cid : Uuid) (size : ℕ) :
    stored (q.dispatch now cid size) ch = stored q ch := rfl

lemma stored_flushQueued (now : ℕ) (id : Uuid) : (stored q ch).count b =
    (stored (q.flushQueued now id).1 ch).count b + onChannel ch id (q.flushQueued now id).2.all b := by
  simp only [flushQueued,stored_dispatch,count_stored,listAt_setList,listAt_erase,onChannel,FlushBatch.all]
  by_cases h : ch = id
  · subst h
    simp only [if_true,count_append,count_nil,(perm_insertionSort _ _).count_eq]
    have hs : ((listAt q.queues ch).map QueuedEvent.batched).count b =
        (((listAt q.queues ch).take maxBatchEvents).map QueuedEvent.batched).count b +
          (((listAt q.queues ch).drop maxBatchEvents).map QueuedEvent.batched).count b := by
      rw [← count_append,← map_append,take_append_drop]
    omega
  · simp [h]

lemma stored_flushCancelled (now : ℕ) (id : Uuid) : (stored q ch).count b =
    (stored (q.flushCancelled now id).1 ch).count b + onChannel ch id (q.flushCancelled now id).2.all b := by
  simp only [flushCancelled,stored_dispatch,count_stored,listAt_erase,onChannel,FlushBatch.all]
  by_cases h : ch = id
  · simp [h]
    omega
  · simp [h]

lemma stored_putBack (batch : FlushBatch) :
    (stored q ch).count b + onChannel ch batch.channelId batch.events b =
      (stored (q.putBack batch) ch).count b + onChannel ch batch.channelId
        (overflow (batch.events.map fun be => be.queued batch.channelId)
          (listAt q.queues batch.channelId)) b := by
  simp only [putBack,count_stored,listAt_insert,onChannel]
  by_cases h : ch = batch.channelId
  · have hc := count_putFront b (batch.events.map fun be => be.queued batch.channelId)
      (listAt q.queues batch.channelId)
    rw [map_batched_queued] at hc
    simp only [h,if_true]
    omega
  · simp [h]

lemma stored_requeueAsCancelled (batch : FlushBatch) (why : CancelReason) :
    (stored q ch).count b + onChannel ch batch.channelId batch.all b =
      (stored (q.requeueAsCancelled batch why) ch).count b := by
  simp only [requeueAsCancelled,count_stored,listAt_insert,onChannel,FlushBatch.all]
  by_cases h : ch = batch.channelId
  · simp only [h,if_true,count_append]
    omega
  · simp [h]

lemma stored_push (e : QueuedEvent) (ha : (q.push e).2 = true) :
    (stored q ch).count b + onChannel ch e.channelId [e.batched] b =
      (stored (q.push e).1 ch).count b + onChannel ch e.channelId
        (if maxPendingPerChannel ≤ (listAt q.queues e.channelId).length then
          ((listAt q.queues e.channelId).take 1).map QueuedEvent.batched else []) b := by
  unfold push at ha ⊢
  split at ha
  · simp at ha
  next hd =>
    simp only [if_neg hd,count_stored,listAt_insert,onChannel]
    by_cases h : ch = e.channelId
    · simp only [h,if_true,map_append,count_append]
      split
      · have hs : ((listAt q.queues e.channelId).map QueuedEvent.batched).count b =
            (((listAt q.queues e.channelId).take 1).map QueuedEvent.batched).count b +
              (((listAt q.queues e.channelId).tail).map QueuedEvent.batched).count b := by
          rw [← count_append,← map_append,← drop_one,take_append_drop]
        simp only [map_cons,map_nil]
        omega
      · simp only [map_cons,map_nil,count_nil]
        omega
    · simp [h]

lemma stored_withhold (id : Uuid) (eid : String) :
    (stored (q.markNativeSteerPending id eid).1 ch).count b = (stored q ch).count b := by
  simp only [markNativeSteerPending]
  cases hf : (listAt q.queues id).find? (hasId eid) with
  | none => rfl
  | some qe =>
    simp only [count_stored,listAt_insert,listAt_setList]
    by_cases h : ch = id
    · subst h
      have hc := count_map_find b hf
      simp only [if_true,map_append,count_append,map_cons,map_nil]
      omega
    · simp [h]

lemma stored_release (id : Uuid) (eid : String) : (stored q ch).count b =
    (stored (q.releaseNativeSteer id eid) ch).count b + onChannel ch id (releaseOverflow q id eid) b := by
  simp only [releaseNativeSteer,releaseOverflow,onChannel]
  cases hf : (listAt q.withheldNativeSteer id).find? (hasId eid) with
  | none => simp
  | some qe =>
    simp only [count_stored,listAt_insert,listAt_setList]
    by_cases h : ch = id
    · subst h
      have hfo := count_map_find b hf
      have hc := count_putFront b [qe] (listAt q.queues ch)
      simp only [map_cons,map_nil] at hc
      simp only [if_true]
      omega
    · simp [h]

lemma stored_remove (id : Uuid) (eid : String) : (stored q ch).count b =
    (stored (q.removeEvent id eid) ch).count b + onChannel ch id (withId q id eid) b := by
  simp only [removeEvent,count_stored,listAt_setList,onChannel,withId]
  by_cases h : ch = id
  · subst h
    have hq := count_map_filter b (listAt q.queues ch) (hasId eid)
    have hw := count_map_filter b (listAt q.withheldNativeSteer ch) (hasId eid)
    simp only [if_true,filter_append,map_append,count_append]
    omega
  · simp [h]

lemma stored_drain (id : Uuid) : (stored q ch).count b =
    (stored (q.drainChannel id).1 ch).count b + onChannel ch id (stored q id) b := by
  simp only [drainChannel,count_stored,listAt_erase,onChannel]
  by_cases h : ch = id
  · subst h
    simp [count_stored]
  · simp [h]

end

/-- The share of a turn that has not been settled. -/
def Turn.share (ch : Uuid) (b : BatchEvent) (turn : Turn) : ℕ :=
  if turn.settled then 0 else onChannel ch turn.batch.channelId turn.batch.all b

def held (turns : List Turn) (ch : Uuid) (b : BatchEvent) : ℕ := (turns.map (Turn.share ch b)).sum

/-- The account of every channel balances, event by event. -/
def Balanced (w : World) : Prop :=
  ∀ ch b, (w.accepted ch).count b =
    (stored w.queue ch).count b + held w.turns ch b + (w.excused ch).count b + (w.lost ch).count b

section

variable {B : Backoff} {now : ℕ} {w : World}

lemma stored_expiring (now : ℕ) (ord : List Uuid) (ch : Uuid) (b : BatchEvent) :
    (stored w.queue ch).count b + (w.excused ch).count b = (stored (w.expiring now ord).queue ch).count b +
        ((w.expiring now ord).excused ch).count b :=
  stored_expire ch b w.excused _

lemma balanced_push (e : QueuedEvent) (h : Balanced w) : Balanced (w.push e) := by
  intro ch b
  have hb := h ch b
  simp only [World.push]
  split
  next ha =>
    have hs := stored_push ch b e ha
    simp only [count_add]
    omega
  · exact hb

lemma stored_flushNext (now : ℕ) (it : Iteration) (q : EventQueue) (ch : Uuid) (b : BatchEvent) :
    (stored (q.expire now it.deadlines) ch).count b = (stored (q.flushNext now it).1 ch).count b +
      match (q.flushNext now it).2 with
      | none => 0
      | some batch => onChannel ch batch.channelId batch.all b := by
  simp only [flushNext]
  cases (q.expire now it.deadlines).oldestReady now it.queues with
  | some id => exact stored_flushQueued ch b now id
  | none =>
    cases (q.expire now it.deadlines).idleCancelled it.cancelled with
    | some id => exact stored_flushCancelled ch b now id
    | none => rfl

lemma held_append (turns : List Turn) (turn : Turn) (ch : Uuid) (b : BatchEvent) :
    held (turns ++ [turn]) ch b = held turns ch b + turn.share ch b := by
  simp [held]

lemma balanced_flush (it : Iteration) (h : Balanced w) : Balanced (w.flush now it) := by
  intro ch b
  have hbe := h ch b
  have he := stored_expiring (w := w) now it.deadlines ch b
  have hf := stored_flushNext now it w.queue ch b
  simp only [World.flush]
  cases hb : (w.queue.flushNext now it).2 with
  | none =>
    simp only [hb] at hf
    simp only [World.expiring] at he ⊢
    omega
  | some batch =>
    simp only [hb] at hf
    simp only [World.expiring,held_append,Turn.share] at he ⊢
    simp only [Bool.false_eq_true,if_false]
    omega

lemma onChannel_all (ch : Uuid) (batch : FlushBatch) (b : BatchEvent) :
    onChannel ch batch.channelId batch.all b =
      onChannel ch batch.channelId batch.events b + onChannel ch batch.channelId batch.cancelledEvents b := by
  by_cases h : ch = batch.channelId
  · simp [onChannel,FlushBatch.all,h]
  · simp [onChannel,h]

/-- What is in the queue or booked, for one event of a channel. -/
def booked (w : World) (ch : Uuid) (b : BatchEvent) : ℕ :=
  (stored w.queue ch).count b + (w.excused ch).count b + (w.lost ch).count b

lemma booked_givingBack (batch : FlushBatch) (ch : Uuid) (b : BatchEvent) :
    booked w ch b + onChannel ch batch.channelId batch.all b =
      booked { w.givingBack batch with queue := w.queue.putBack batch } ch b := by
  have hb := stored_putBack (q := w.queue) ch b batch
  simp only [booked,World.givingBack,count_add,onChannel_all]
  omega

/-- However a batch is settled, its events come back or are booked. -/
lemma booked_settleBatch (now : ℕ) (batch : FlushBatch) (out : Outcome) (ch : Uuid) (b : BatchEvent) :
    booked w ch b + onChannel ch batch.channelId batch.all b =
      booked (w.settleBatch B now batch out) ch b := by
  cases out with
  | finished =>
    simp only [booked,World.settleBatch,count_add]
    omega
  | requeue nanos =>
    simp only [World.settleBatch,requeue]
    by_cases hd : maxRetries < w.queue.attempt batch.channelId
    · simp only [if_pos hd,booked,count_add]
      show _ = (stored w.queue ch).count b + _ + _
      omega
    · simp only [if_neg hd]
      exact booked_givingBack batch ch b
  | preserveTimestamps => exact booked_givingBack batch ch b
  | cancelled why =>
    have hs := stored_requeueAsCancelled (q := w.queue) ch b batch why
    simp only [booked,World.settleBatch]
    omega

lemma settleBatch_accepted (batch : FlushBatch) (out : Outcome) :
    (w.settleBatch B now batch out).accepted = w.accepted := by
  cases out with
  | requeue nanos =>
    simp only [World.settleBatch]
    split <;> rfl
  | _ => rfl

lemma balanced_settle (i : ℕ) (out : Outcome) (h : Balanced w) : Balanced (w.settle B now i out) := by
  unfold World.settle
  split
  · exact h
  next turn ht =>
    split
    · exact h
    next ho =>
      intro ch b
      have hb := h ch b
      have hbo := booked_settleBatch (B := B) (w := w) now turn.batch out ch b
      have hheld := sum_map_set (Turn.share ch b) { turn with settled := true } ht
      have hs : turn.share ch b = onChannel ch turn.batch.channelId turn.batch.all b := by
        simp [Turn.share,ho]
      simp only [booked] at hbo
      simp only [settleBatch_accepted,held,Turn.share,if_true] at hheld ⊢
      simp only [held] at hb
      simp only [Turn.share] at hb hs
      omega

lemma balanced_complete (i : ℕ) (h : Balanced w) : Balanced (w.complete now i) := by
  unfold World.complete
  split
  · exact h
  next turn ht =>
    split
    · exact h
    · intro ch b
      have hs : stored (w.queue.markComplete now turn.batch.channelId) ch = stored w.queue ch := by
        unfold markComplete
        split
        · split <;> rfl
        · rfl
      have hheld := sum_map_set (Turn.share ch b) { turn with completed := true } ht
      have hsh : Turn.share ch b { turn with completed := true } = turn.share ch b := rfl
      have hb := h ch b
      simp only [held,hs] at hb ⊢
      omega

lemma stored_extend (cid : Uuid) (secs : ℕ) (q : EventQueue) (ch : Uuid) :
    stored (q.extendInFlightDeadline now cid secs) ch = stored q ch := by
  simp only [extendInFlightDeadline]
  split
  · rfl
  · split <;> rfl

lemma balanced_extend (cid : Uuid) (secs : ℕ) (h : Balanced w) :
    Balanced (w.extend now cid secs) := by
  intro ch b
  have hb := h ch b
  simp only [World.extend]
  split
  next dl i _ _ =>
    have hs := map_modify_of_eq (f := Turn.share ch b)
      (g := fun turn => { turn with deadline := dl }) (fun _ => rfl) w.turns i
    simp only [held,stored_extend,hs] at hb ⊢
    exact hb
  · simp only [stored_extend]
    exact hb

lemma balanced_step (op : Op) (h : Balanced w) : Balanced (w.step B now op) := by
  show Balanced (w.apply B now op)
  cases op with
  | push e => exact balanced_push e h
  | flushNext it => exact balanced_flush it h
  | settle i out => exact balanced_settle i out h
  | complete i => exact balanced_complete i h
  | extend cid secs => exact balanced_extend cid secs h
  | compact => exact h
  | hasFlushableWork it =>
    intro ch b
    have hb := h ch b
    have he := stored_expiring (w := w) now it.deadlines ch b
    simp only [World.expiring,World.apply,hasFlushableWork] at he ⊢
    omega
  | withhold cid eid =>
    intro ch b
    have hb := h ch b
    simp only [World.apply,stored_withhold]
    omega
  | release cid eid =>
    intro ch b
    have hb := h ch b
    have hs := stored_release (q := w.queue) ch b cid eid
    simp only [World.apply,count_add]
    omega
  | remove cid eid =>
    intro ch b
    have hb := h ch b
    have hs := stored_remove (q := w.queue) ch b cid eid
    simp only [World.apply,count_add]
    omega
  | drain cid =>
    intro ch b
    have hb := h ch b
    have hs := stored_drain (q := w.queue) ch b cid
    simp only [World.apply,count_add]
    omega

end

section

variable {B : Backoff} {w : World}

/-- The events of a channel that callers hold, in the batches they have not settled. -/
def heldEvents (turns : List Turn) (ch : Uuid) : List BatchEvent :=
  (turns.filter fun turn => turn.settled = false ∧ turn.batch.channelId = ch).flatMap fun turn =>
    turn.batch.all

lemma count_heldEvents (turns : List Turn) (ch : Uuid) (b : BatchEvent) :
    (heldEvents turns ch).count b = held turns ch b := by
  induction turns with
  | nil => rfl
  | cons turn turns ih =>
    have hheld : held (turn :: turns) ch b = turn.share ch b + held turns ch b := by simp [held]
    rw [hheld,← ih,heldEvents,filter_cons]
    by_cases h : turn.settled = false ∧ turn.batch.channelId = ch
    · simp [h,Turn.share,onChannel,heldEvents]
    · have hsh : turn.share ch b = 0 := by
        by_cases hs : turn.settled = false
        · have hne : ch ≠ turn.batch.channelId := fun heq => h ⟨hs,heq.symm⟩
          simp [Turn.share,onChannel,hne]
        · simp [Turn.share,hs]
      simp [h,hsh,heldEvents]

/-- The accepted events of a channel are those that are still there and those that are booked. -/
lemma accepted_perm (h : Balanced w) (ch : Uuid) : (w.accepted ch).Perm
    (stored w.queue ch ++ heldEvents w.turns ch ++ (w.excused ch ++ w.lost ch)) := by
  rw [perm_iff_count]
  intro b
  rw [h ch b,count_append,count_append,count_append,count_heldEvents]
  omega

/-- A batch that goes back to its queue has no cancelled events, unless it is dead-lettered. -/
def PutsBackWhole (w : World) (_ : ℕ) : Op → Prop
  | .settle i (.requeue _) => ∀ turn, w.turns[i]? = some turn → turn.settled = false →
      turn.batch.cancelledEvents = [] ∨ maxRetries < w.queue.attempt turn.batch.channelId
  | .settle i .preserveTimestamps => ∀ turn, w.turns[i]? = some turn → turn.settled = false →
      turn.batch.cancelledEvents = []
  | _ => True

lemma balanced_start (q : EventQueue) (h : ∀ ch, stored q ch = []) : Balanced (World.start q) := by
  intro ch b
  simp [World.start,h,held]

lemma lost_givingBack {batch : FlushBatch} (h : batch.cancelledEvents = []) :
    (w.givingBack batch).lost = w.lost := by
  funext ch
  simp [World.givingBack,Account.add_apply,h]

lemma lost_settle {now i : ℕ} {out : Outcome}
    (hmeets : PutsBackWhole w now (.settle i out)) : (w.settle B now i out).lost = w.lost := by
  unfold World.settle
  split
  · rfl
  next turn ht =>
    split
    · rfl
    next ho =>
      have hs : turn.settled = false := by simpa using ho
      cases out with
      | finished | cancelled => rfl
      | preserveTimestamps => exact lost_givingBack (hmeets turn ht hs)
      | requeue nanos =>
        simp only [World.settleBatch,requeue]
        by_cases hd : maxRetries < w.queue.attempt turn.batch.channelId
        · simp only [if_pos hd]
        · simp only [if_neg hd]
          exact lost_givingBack ((hmeets turn ht hs).resolve_right hd)

lemma lost_step {now : ℕ} {op : Op} (hmeets : PutsBackWhole w now op) : (w.step B now op).lost = w.lost := by
  show (w.apply B now op).lost = w.lost
  cases op with
  | settle i out => exact lost_settle hmeets
  | push e =>
    simp only [World.apply,World.push]
    split <;> rfl
  | flushNext it =>
    simp only [World.apply,World.flush]
    split <;> rfl
  | complete i =>
    simp only [World.apply,World.complete]
    split
    · rfl
    · split <;> rfl
  | extend ch secs =>
    simp only [World.apply,World.extend]
    split <;> rfl
  | _ => rfl

/-- In every run that puts back only batches without cancelled events, the events a channel has
accepted are exactly those in its queue, withheld or cancelled there, held by a caller, or gone in
one of the intended ways. -/
theorem no_event_lost {secs : ℕ}
    (h : Reached B PutsBackWhole (World.start ((EventQueue.new .queue).withInFlightDeadline secs)) w)
    (ch : Uuid) : (w.accepted ch).Perm (stored w.queue ch ++ heldEvents w.turns ch ++ w.excused ch) := by
  have hl : w.lost ch = [] := h.invariant (I := fun w => w.lost ch = []) rfl
    fun w now op hl hmeets => by rw [lost_step hmeets,hl]
  have hb : Balanced w :=
    h.invariant (balanced_start _ fun _ => rfl) fun w now op hb _ => balanced_step op hb
  have hp := accepted_perm hb ch
  rw [hl,append_nil] at hp
  exact hp

end

def firstRequest : Event where
  pubkey := firstKey
  createdAt := 1700000000
  kind := 9
  tags := [⟨"h",["6f9619ff-8b86-4011-b42d-00cf4fc964ff"]⟩]
  content := "summarize the thread"
  id := .ofNat 32 0xd4cced0e867c09f9496e5ee63665aa52bfc4da23e6761f62d3ba70ea766d0dbb
  sig := .ofNat 64 0xdd5d600ecc7e5a24c73b8e83656d88b38313c73f341ac5bf385dfcfa68be5ea5382f01b9015446549dddfa41bb554c62cd6bf7ff1f53766a26f3fe80d8209dc2

def secondRequest : Event :=
  { firstRequest with
    createdAt := 1700000010
    content := "and the open questions"
    id := .ofNat 32 0x064eb0dcf516344ac6113c6932219bd7c5c6c2bba7d208033217a86f57a0f3ab
    sig := .ofNat 64 0x24c2fea17525048a0fc66c6dc22729ce07eafccba165c4f7fbd011631a03f150726700078fc143c5067c240cb4c5dd659895d423452e6fa6ae719f2f3194b370 }

def requestChannel : Uuid := .ofNat 16 0x6f9619ff8b864011b42d00cf4fc964ff

def requested (event : Event) (receivedAt : ℕ) : QueuedEvent :=
  ⟨requestChannel,event,receivedAt,"mention"⟩

def anyOrder : Iteration := ⟨[],[],[]⟩

/-- A turn is cancelled by a second request, and the merged batch succeeds. -/
def mergedTurn : List (ℕ × Op) :=
  [(0,.push (requested firstRequest 0)),(1,.flushNext anyOrder),
    (2,.push (requested secondRequest 2)),(3,.settle 0 (.cancelled .steer)),(3,.complete 0),
    (4,.flushNext anyOrder),(5,.settle 1 .finished),(5,.complete 1)]

def idleHarness : World := World.start ((EventQueue.new .queue).withInFlightDeadline 7200)

def fixedBackoff : Backoff := fun secs _ => secs*nanosPerSec

theorem no_event_lost_merged : ((idleHarness.run fixedBackoff mergedTurn).accepted requestChannel).length =
    2 ∧
    ((idleHarness.run fixedBackoff mergedTurn).accepted requestChannel).Perm
      (stored (idleHarness.run fixedBackoff mergedTurn).queue requestChannel ++
        heldEvents (idleHarness.run fixedBackoff mergedTurn).turns requestChannel ++
        (idleHarness.run fixedBackoff mergedTurn).excused requestChannel) := by
  refine ⟨by decide +kernel,no_event_lost (reached_run .start ?_) requestChannel⟩
  exact ⟨trivial,trivial,trivial,trivial,trivial,trivial,trivial,trivial,trivial⟩

/-- The merged batch finds no free agent and is put back: the request of the cancelled turn is in
none of the places where it could be, nor has it ended in one of the intended ways. -/
theorem put_back_loses_cancelled :
    let w := idleHarness.run fixedBackoff
      [(0,.push (requested firstRequest 0)),(1,.flushNext anyOrder),
        (2,.push (requested secondRequest 2)),(3,.settle 0 (.cancelled .steer)),(3,.complete 0),
        (4,.flushNext anyOrder),(4,.settle 1 .preserveTimestamps),(4,.complete 1)]
    w.accepted requestChannel = [(requested firstRequest 0).batched,(requested secondRequest 2).batched] ∧
      stored w.queue requestChannel = [(requested secondRequest 2).batched] ∧
      heldEvents w.turns requestChannel = [] ∧ w.excused requestChannel = [] := by
  decide +kernel

end BuzzSolo.Acp
