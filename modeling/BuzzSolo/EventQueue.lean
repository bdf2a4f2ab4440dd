import BuzzSolo.Event
import BuzzSolo.HashTable

/-! The event queue of the agent harness: a channel's events are flushed as one batch, and a channel
with a batch in flight waits until it is completed or its deadline passes. Times are in nanoseconds. -/
namespace BuzzSolo.Acp

open HexText HashTable

inductive DedupMode
  | drop | queue
  deriving DecidableEq

structure QueuedEvent where
  channelId : Uuid
  event : Event
  receivedAt : ℕ
  promptTag : String
  deriving DecidableEq

structure BatchEvent where
  event : Event
  promptTag : String
  receivedAt : ℕ
  deriving DecidableEq

def QueuedEvent.batched (qe : QueuedEvent) : BatchEvent := ⟨qe.event,qe.promptTag,qe.receivedAt⟩

def BatchEvent.queued (be : BatchEvent) (channelId : Uuid) : QueuedEvent :=
  ⟨channelId,be.event,be.receivedAt,be.promptTag⟩

inductive CancelReason
  | interrupt | steer
  deriving DecidableEq

structure FlushBatch where
  channelId : Uuid
  events : List BatchEvent
  cancelledEvents : List BatchEvent
  cancelReason : Option CancelReason
  deriving DecidableEq

def maxPendingPerChannel : ℕ := 500
def maxBatchEvents : ℕ := 50
def maxRetries : ℕ := 10
def baseRetryDelaySecs : ℕ := 5
def maxRetryDelaySecs : ℕ := 300
def inFlightDeadlineBufferSecs : ℕ := 100
def defaultInFlightDeadlineSecs : ℕ := 7300
def nanosPerSec : ℕ := 10^9

structure EventQueue where
  queues : Table Uuid (List QueuedEvent)
  inFlightChannels : Finset Uuid
  inFlightDeadlines : Table Uuid ℕ
  inFlightBatchSizes : Table Uuid ℕ
  retryAfter : Table Uuid ℕ
  retryCounts : Table Uuid ℕ
  dedupMode : DedupMode
  cancelledBatches : Table Uuid (List BatchEvent)
  cancelReasons : Table Uuid CancelReason
  withheldNativeSteer : Table Uuid (List QueuedEvent)
  inFlightDeadline : ℕ

/-- The orders in which a call meets the entries of the tables it goes through. -/
structure Iteration where
  deadlines : List Uuid
  queues : List Uuid
  cancelled : List Uuid

/-- The delay that floating point makes of the capped seconds and the nanoseconds of the wall
clock: the seconds, with twenty percent of jitter. -/
abbrev Backoff := ℕ → ℕ → ℕ

namespace EventQueue

def new (dedupMode : DedupMode) : EventQueue where
  queues := ∅
  inFlightChannels := ∅
  inFlightDeadlines := ∅
  inFlightBatchSizes := ∅
  retryAfter := ∅
  retryCounts := ∅
  dedupMode := dedupMode
  cancelledBatches := ∅
  cancelReasons := ∅
  withheldNativeSteer := ∅
  inFlightDeadline := defaultInFlightDeadlineSecs*nanosPerSec

def withInFlightDeadline (q : EventQueue) (maxTurnDurationSecs : ℕ) : EventQueue :=
  { q with inFlightDeadline := (maxTurnDurationSecs + inFlightDeadlineBufferSecs)*nanosPerSec }

variable (q : EventQueue)

def extendInFlightDeadline (now : ℕ) (channelId : Uuid) (maxTurnSecs : ℕ) : EventQueue :=
  match q.inFlightDeadlines.lookup channelId with
  | none => q
  | some current =>
    let extended := now + (maxTurnSecs + inFlightDeadlineBufferSecs)*nanosPerSec
    if current < extended then
      { q with inFlightDeadlines := q.inFlightDeadlines.insert channelId extended }
    else q

def push (event : QueuedEvent) : EventQueue × Bool :=
  if q.dedupMode = .drop ∧ event.channelId ∈ q.inFlightChannels then (q,false)
  else
    let queue := listAt q.queues event.channelId
    let room := if maxPendingPerChannel ≤ queue.length then queue.tail else queue
    ({ q with queues := q.queues.insert event.channelId (room ++ [event]) },true)

/-- Events go to the front of a queue in their order; what is then over the limit is dropped at
the back. -/
def putFront (events queue : List QueuedEvent) : List QueuedEvent :=
  (events ++ queue).take maxPendingPerChannel

def recoverWithheldForExpiredChannel (channelId : Uuid) : EventQueue :=
  match q.withheldNativeSteer.lookup channelId with
  | none => q
  | some entries =>
    { q with
      withheldNativeSteer := q.withheldNativeSteer.erase channelId
      queues := q.queues.insert channelId (putFront entries (listAt q.queues channelId)) }

def expireChannel (channelId : Uuid) : EventQueue :=
  recoverWithheldForExpiredChannel
    { q with
      inFlightBatchSizes := q.inFlightBatchSizes.erase channelId
      inFlightChannels := q.inFlightChannels.erase channelId
      inFlightDeadlines := q.inFlightDeadlines.erase channelId } channelId

def expired (now : ℕ) (order : List Uuid) : List Uuid :=
  ((iter order q.inFlightDeadlines).filter fun entry => entry.2 ≤ now).map Prod.fst

/-- The block at the start of `flush_next` and `has_flushable_work`. -/
def expire (now : ℕ) (order : List Uuid) : EventQueue := (q.expired now order).foldl expireChannel q

def unthrottled (now : ℕ) (channelId : Uuid) : Bool :=
  match q.retryAfter.lookup channelId with
  | none => true
  | some t => t ≤ now

def ready (now : ℕ) (entry : Uuid × List QueuedEvent) : Bool :=
  entry.2 ≠ [] ∧ entry.1 ∉ q.inFlightChannels ∧ q.unthrottled now entry.1 = true

def headTime (entry : Uuid × List QueuedEvent) : ℕ :=
  match entry.2 with
  | [] => 0
  | head :: _ => head.receivedAt

def dispatch (now : ℕ) (channelId : Uuid) (size : ℕ) : EventQueue :=
  { q with
    inFlightChannels := insert channelId q.inFlightChannels
    inFlightDeadlines := q.inFlightDeadlines.insert channelId (now + q.inFlightDeadline)
    inFlightBatchSizes := q.inFlightBatchSizes.insert channelId size }

def flushCancelled (now : ℕ) (channelId : Uuid) : EventQueue × FlushBatch :=
  let cancelled := listAt q.cancelledBatches channelId
  (dispatch { q with
      cancelledBatches := q.cancelledBatches.erase channelId
      cancelReasons := q.cancelReasons.erase channelId } now channelId cancelled.length,
    { channelId := channelId
      events := cancelled
      cancelledEvents := []
      cancelReason := q.cancelReasons.lookup channelId })

/-- The first events of a channel's queue as a batch, oldest first, with the channel's cancelled
events beside them. -/
def flushQueued (now : ℕ) (channelId : Uuid) : EventQueue × FlushBatch :=
  let queue := listAt q.queues channelId
  let events := ((queue.take maxBatchEvents).map QueuedEvent.batched).insertionSort
    fun a b => a.event.createdAt ≤ b.event.createdAt
  let cancelledEvents := listAt q.cancelledBatches channelId
  (dispatch { q with
      queues := setList q.queues channelId (queue.drop maxBatchEvents)
      cancelledBatches := q.cancelledBatches.erase channelId
      cancelReasons := q.cancelReasons.erase channelId } now channelId events.length,
    { channelId := channelId
      events := events
      cancelledEvents := cancelledEvents
      cancelReason := if cancelledEvents = [] then none else q.cancelReasons.lookup channelId })

def oldestReady (now : ℕ) (order : List Uuid) : Option Uuid :=
  (((iter order q.queues).filter (q.ready now)).argmin headTime).map Prod.fst

def idleCancelled (order : List Uuid) : Option Uuid :=
  ((iter order q.cancelledBatches).map Prod.fst).find? fun id => id ∉ q.inFlightChannels

def flushNext (now : ℕ) (it : Iteration) : EventQueue × Option FlushBatch :=
  let q := q.expire now it.deadlines
  match q.oldestReady now it.queues with
  | some channelId => ((q.flushQueued now channelId).1,some (q.flushQueued now channelId).2)
  | none =>
    match q.idleCancelled it.cancelled with
    | some channelId => ((q.flushCancelled now channelId).1,some (q.flushCancelled now channelId).2)
    | none => (q,none)

def markComplete (now : ℕ) (channelId : Uuid) : EventQueue :=
  let released := { q with
    inFlightChannels := q.inFlightChannels.erase channelId
    inFlightDeadlines := q.inFlightDeadlines.erase channelId
    inFlightBatchSizes := q.inFlightBatchSizes.erase channelId }
  match q.retryAfter.lookup channelId with
  | some deadline =>
    if now < deadline then released
    else { released with
      retryAfter := q.retryAfter.erase channelId
      retryCounts := q.retryCounts.erase channelId }
  | none => { released with retryCounts := q.retryCounts.erase channelId }

/-- Seconds of back-off: doubled with each attempt up to the sixth doubling, and capped. -/
def cappedSecs (attempt : ℕ) : ℕ := min (baseRetryDelaySecs*2^min (attempt - 1) 6) maxRetryDelaySecs

def putBack (batch : FlushBatch) : EventQueue :=
  let events := batch.events.map fun be => be.queued batch.channelId
  { q with
    queues := q.queues.insert batch.channelId (putFront events (listAt q.queues batch.channelId)) }

def attempt (channelId : Uuid) : ℕ := (q.retryCounts.lookup channelId).getD 0 + 1

def requeue (backoff : Backoff) (now nanos : ℕ) (batch : FlushBatch) : EventQueue × Option FlushBatch :=
  let attempt := q.attempt batch.channelId
  if maxRetries < attempt then
    ({ q with
        retryCounts := q.retryCounts.erase batch.channelId
        retryAfter := q.retryAfter.erase batch.channelId },some batch)
  else
    ({ putBack q batch with
        retryCounts := q.retryCounts.insert batch.channelId attempt
        retryAfter := q.retryAfter.insert batch.channelId (now + backoff (cappedSecs attempt) nanos) },
      none)

def requeuePreserveTimestamps (batch : FlushBatch) : EventQueue := q.putBack batch

def requeueAsCancelled (batch : FlushBatch) (reason : CancelReason) : EventQueue :=
  { q with
    cancelledBatches := q.cancelledBatches.insert batch.channelId
      (listAt q.cancelledBatches batch.channelId ++ batch.cancelledEvents ++ batch.events)
    cancelReasons := q.cancelReasons.insert batch.channelId reason }

def hasFlushableWork (now : ℕ) (it : Iteration) : EventQueue × Bool :=
  let q := q.expire now it.deadlines
  (q,(iter it.queues q.queues).any (q.ready now) ||
    (iter it.cancelled q.cancelledBatches).any fun entry => entry.1 ∉ q.inFlightChannels)

def drainChannel (channelId : Uuid) : EventQueue × List String :=
  ({ q with
      queues := q.queues.erase channelId
      retryAfter := q.retryAfter.erase channelId
      retryCounts := q.retryCounts.erase channelId
      cancelledBatches := q.cancelledBatches.erase channelId
      cancelReasons := q.cancelReasons.erase channelId
      withheldNativeSteer := q.withheldNativeSteer.erase channelId },
    (listAt q.queues channelId).map fun qe => qe.event.id.toHex)

def hasId (eventId : String) (qe : QueuedEvent) : Bool := qe.event.id.toHex = eventId

def markNativeSteerPending (channelId : Uuid) (eventId : String) : EventQueue × Bool :=
  let queue := listAt q.queues channelId
  match queue.find? (hasId eventId) with
  | none => (q,false)
  | some qe =>
    ({ q with
        queues := setList q.queues channelId (queue.eraseP (hasId eventId))
        withheldNativeSteer := q.withheldNativeSteer.insert channelId
          (listAt q.withheldNativeSteer channelId ++ [qe]) },true)

def releaseNativeSteer (channelId : Uuid) (eventId : String) : EventQueue :=
  let entries := listAt q.withheldNativeSteer channelId
  match entries.find? (hasId eventId) with
  | none => q
  | some qe =>
    { q with
      withheldNativeSteer := setList q.withheldNativeSteer channelId (entries.eraseP (hasId eventId))
      queues := q.queues.insert channelId (putFront [qe] (listAt q.queues channelId)) }

def removeEvent (channelId : Uuid) (eventId : String) : EventQueue :=
  { q with
    withheldNativeSteer := setList q.withheldNativeSteer channelId
      ((listAt q.withheldNativeSteer channelId).filter fun qe => !hasId eventId qe)
    queues := setList q.queues channelId ((listAt q.queues channelId).filter fun qe => !hasId eventId qe) }

def compactExpiredState (now : ℕ) : EventQueue :=
  let retryAfter := ((q.retryAfter.entries.filter fun entry => now < entry.2)).toAList
  { q with
    retryAfter := retryAfter
    retryCounts := (q.retryCounts.entries.filter fun entry => (retryAfter.lookup entry.1).isSome ||
      listAt q.queues entry.1 ≠ [] || entry.1 ∈ q.inFlightChannels).toAList }

end EventQueue

end BuzzSolo.Acp
