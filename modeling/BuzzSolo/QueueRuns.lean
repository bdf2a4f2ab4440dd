import BuzzSolo.EventQueue

/-! Runs of the event queue. The harness holds each batch until it settles it and marks its channel
complete. A run keeps account of the events that were accepted and of those that have left. -/
namespace BuzzSolo.Acp

open HashTable EventQueue

/-- A batch that `flush_next` has returned. `deadline` is its own in-flight deadline. -/
structure Turn where
  batch : FlushBatch
  deadline : ℕ
  settled : Bool
  completed : Bool
  deriving DecidableEq

abbrev Account := Uuid → List BatchEvent

def Account.add (account : Account) (channelId : Uuid) (events : List BatchEvent) : Account :=
  fun a => if a = channelId then account a ++ events else account a

lemma Account.add_apply (account : Account) (ch : Uuid) (es : List BatchEvent) (a : Uuid) :
    account.add ch es a = account a ++ if a = ch then es else [] := by
  by_cases h : a = ch
  · simp [Account.add,h]
  · simp [Account.add,h]

/-- The queue with its callers. `latest` has the number of the last turn of a channel. `excused`
has the events of successful and dead-lettered batches and those that were removed after a steer,
drained or evicted; `lost` has those that left the queue in no such way. -/
structure World where
  queue : EventQueue
  turns : List Turn
  latest : Table Uuid ℕ
  clock : ℕ
  accepted : Account
  excused : Account
  lost : Account

def World.start (queue : EventQueue) : World := ⟨queue,[],∅,0,fun _ => [],fun _ => [],fun _ => []⟩

/-- What becomes of a batch. A batch that its caller gives up with a notice counts as
dead-lettered; like a success it does not touch the queue. -/
inductive Outcome
  | finished
  | requeue (nanos : ℕ)
  | preserveTimestamps
  | cancelled (reason : CancelReason)

inductive Op
  | push (event : QueuedEvent)
  | flushNext (it : Iteration)
  | hasFlushableWork (it : Iteration)
  | settle (turn : ℕ) (outcome : Outcome)
  | complete (turn : ℕ)
  | extend (channelId : Uuid) (maxTurnSecs : ℕ)
  | withhold (channelId : Uuid) (eventId : String)
  | release (channelId : Uuid) (eventId : String)
  | remove (channelId : Uuid) (eventId : String)
  | drain (channelId : Uuid)
  | compact

def FlushBatch.all (batch : FlushBatch) : List BatchEvent := batch.events ++ batch.cancelledEvents

def overflow (events queue : List QueuedEvent) : List BatchEvent :=
  ((events ++ queue).drop maxPendingPerChannel).map QueuedEvent.batched

/-- What the cap drops when the withheld events of an expired channel go back to its queue. -/
def recoveryOverflow (q : EventQueue) (channelId : Uuid) : List BatchEvent :=
  match q.withheldNativeSteer.lookup channelId with
  | none => []
  | some entries => overflow entries (listAt q.queues channelId)

/-- The account of the evicted events while these channels expire. -/
def evictedByExpiry (q : EventQueue) : List Uuid → Account → Account
  | [],account => account
  | id :: ids,account =>
    evictedByExpiry (q.expireChannel id) ids (account.add id (recoveryOverflow q id))

/-- What the cap drops when a withheld event is released. -/
def releaseOverflow (q : EventQueue) (channelId : Uuid) (eventId : String) : List BatchEvent :=
  match (listAt q.withheldNativeSteer channelId).find? (hasId eventId) with
  | none => []
  | some qe => overflow [qe] (listAt q.queues channelId)

def stored (q : EventQueue) (channelId : Uuid) : List BatchEvent :=
  (listAt q.queues channelId).map QueuedEvent.batched ++
    ((listAt q.withheldNativeSteer channelId).map QueuedEvent.batched ++ listAt q.cancelledBatches channelId)

def withId (q : EventQueue) (channelId : Uuid) (eventId : String) : List BatchEvent :=
  ((listAt q.queues channelId ++ listAt q.withheldNativeSteer channelId).filter (hasId eventId)).map
    QueuedEvent.batched

namespace World

variable (B : Backoff) (now : ℕ) (w : World)

/-- The stuck entries are released before a flush or a question for work. -/
def expiring (order : List Uuid) : World :=
  { w with
    queue := w.queue.expire now order
    excused := evictedByExpiry w.queue (w.queue.expired now order) w.excused }

def flush (it : Iteration) : World :=
  let flushed := w.queue.flushNext now it
  let expiring := w.expiring now it.deadlines
  match flushed.2 with
  | none => { expiring with queue := flushed.1 }
  | some batch =>
    { expiring with
      queue := flushed.1
      turns := w.turns ++ [⟨batch,now + w.queue.inFlightDeadline,false,false⟩]
      latest := w.latest.insert batch.channelId w.turns.length }

/-- A batch goes back to its queue: the cap may evict events, and the cancelled events of the
batch are not among those that go back. -/
def givingBack (batch : FlushBatch) : World :=
  { w with
    excused := w.excused.add batch.channelId (overflow (batch.events.map fun be => be.queued batch.channelId)
        (listAt w.queue.queues batch.channelId))
    lost := w.lost.add batch.channelId batch.cancelledEvents }

def settleBatch (batch : FlushBatch) : Outcome → World
  | .finished => { w with excused := w.excused.add batch.channelId batch.all }
  | .requeue nanos =>
    let requeued := w.queue.requeue B now nanos batch
    match requeued.2 with
    | some dead => { w with queue := requeued.1, excused := w.excused.add dead.channelId dead.all }
    | none => { w.givingBack batch with queue := requeued.1 }
  | .preserveTimestamps => { w.givingBack batch with queue := w.queue.requeuePreserveTimestamps batch }
  | .cancelled reason => { w with queue := w.queue.requeueAsCancelled batch reason }

def settle (i : ℕ) (outcome : Outcome) : World :=
  match w.turns[i]? with
  | none => w
  | some turn =>
    if turn.settled then w
    else { settleBatch B now w turn.batch outcome with
      turns := w.turns.set i { turn with settled := true } }

def complete (i : ℕ) : World :=
  match w.turns[i]? with
  | none => w
  | some turn =>
    if turn.completed then w
    else { w with
      queue := w.queue.markComplete now turn.batch.channelId
      turns := w.turns.set i { turn with completed := true } }

/-- The deadline of a channel belongs to the channel's last turn. -/
def extend (channelId : Uuid) (maxTurnSecs : ℕ) : World :=
  let queue := w.queue.extendInFlightDeadline now channelId maxTurnSecs
  match queue.inFlightDeadlines.lookup channelId,w.latest.lookup channelId with
  | some deadline,some i => { w with
      queue := queue
      turns := w.turns.modify i fun turn => { turn with deadline := deadline } }
  | _,_ => { w with queue := queue }

def push (event : QueuedEvent) : World :=
  let pushed := w.queue.push event
  let queue := listAt w.queue.queues event.channelId
  if pushed.2 then
    { w with
      queue := pushed.1
      accepted := w.accepted.add event.channelId [event.batched]
      excused := w.excused.add event.channelId
        (if maxPendingPerChannel ≤ queue.length then (queue.take 1).map QueuedEvent.batched else []) }
  else w

def apply : Op → World
  | .push event => w.push event
  | .flushNext it => w.flush now it
  | .hasFlushableWork it =>
    { w.expiring now it.deadlines with queue := (w.queue.hasFlushableWork now it).1 }
  | .settle i outcome => w.settle B now i outcome
  | .complete i => w.complete now i
  | .extend channelId maxTurnSecs => w.extend now channelId maxTurnSecs
  | .withhold channelId eventId =>
    { w with queue := (w.queue.markNativeSteerPending channelId eventId).1 }
  | .release channelId eventId =>
    { w with
      queue := w.queue.releaseNativeSteer channelId eventId
      excused := w.excused.add channelId (releaseOverflow w.queue channelId eventId) }
  | .remove channelId eventId =>
    { w with
      queue := w.queue.removeEvent channelId eventId
      excused := w.excused.add channelId (withId w.queue channelId eventId) }
  | .drain channelId =>
    { w with
      queue := (w.queue.drainChannel channelId).1
      excused := w.excused.add channelId (stored w.queue channelId) }
  | .compact => { w with queue := w.queue.compactExpiredState now }

def step (op : Op) : World := { w.apply B now op with clock := now }

end World

inductive Reached (B : Backoff) (meets : World → ℕ → Op → Prop) (start : World) : World → Prop
  | start : Reached B meets start start
  | step {w : World} (h : Reached B meets start w) (now : ℕ) (op : Op) (hmeets : meets w now op) :
      Reached B meets start (w.step B now op)

variable {B : Backoff} {meets : World → ℕ → Op → Prop} {s0 w : World}

lemma Reached.invariant {I : World → Prop} (h : Reached B meets s0 w) (hs : I s0)
    (hst : ∀ w now op, I w → meets w now op → I (w.step B now op)) : I w := by
  induction h with
  | start => exact hs
  | step _ now op hmeets ih => exact hst _ now op ih hmeets

def World.run (B : Backoff) (w : World) (ops : List (ℕ × Op)) : World :=
  ops.foldl (fun w timed => w.step B timed.1 timed.2) w

/-- Each operation meets the condition in the world it is applied to. -/
def MeetsAlong (B : Backoff) (meets : World → ℕ → Op → Prop) : World → List (ℕ × Op) → Prop
  | _,[] => True
  | w,timed :: ops =>
    meets w timed.1 timed.2 ∧ MeetsAlong B meets (w.step B timed.1 timed.2) ops

lemma reached_run (h : Reached B meets s0 w) {ops : List (ℕ × Op)} (hmeets : MeetsAlong B meets w ops) :
    Reached B meets s0 (w.run B ops) := by
  induction ops generalizing w with
  | nil => exact h
  | cons timed ops ih => exact ih (h.step timed.1 timed.2 hmeets.1) hmeets.2

end BuzzSolo.Acp
