import BuzzSolo.QueueTurns

/-! What there is to flush. The two calls that look for work agree, whatever the order of the
tables. A batch that is put back at once leaves its channel as it was only where nothing but queued
events went into it, in their order. -/
namespace BuzzSolo.Acp

open HashTable EventQueue HexText Option

section

variable {q : EventQueue} {now : ℕ} {ch : Uuid}

/-- The queue of a channel with the events that were withheld from it. -/
def recovered (q : EventQueue) (ch : Uuid) : Option (List QueuedEvent) :=
  match q.withheldNativeSteer.lookup ch with
  | none => q.queues.lookup ch
  | some entries => some (putFront entries (listAt q.queues ch))

lemma expireChannel_queues (id : Uuid) : (q.expireChannel id).queues.lookup ch =
    if ch = id then recovered q ch else q.queues.lookup ch := by
  unfold expireChannel recoverWithheldForExpiredChannel recovered
  by_cases h : ch = id
  · subst h
    cases q.withheldNativeSteer.lookup ch <;> simp
  · cases q.withheldNativeSteer.lookup id <;> simp [h]

lemma recovered_expireChannel (id : Uuid) : recovered (q.expireChannel id) ch = recovered q ch := by
  have hw : (q.expireChannel id).withheldNativeSteer.lookup ch =
      if ch = id then none else q.withheldNativeSteer.lookup ch := by
    unfold expireChannel recoverWithheldForExpiredChannel
    cases he : q.withheldNativeSteer.lookup id with
    | none =>
      split_ifs with h
      · rw [h]
        exact he
      · rfl
    | some ents => exact lookup_erase_eq ch id _
  by_cases h : ch = id
  · rw [if_pos h] at hw
    rw [recovered,hw]
    exact (expireChannel_queues id).trans (if_pos h)
  · rw [if_neg h] at hw
    have hq := (@expireChannel_queues q ch id).trans (if_neg h)
    rw [recovered,recovered,hw,listAt,listAt,hq]

lemma queues_expire (order : List Uuid) : (q.expire now order).queues.lookup ch =
    if ch ∈ q.expired now order then recovered q ch else q.queues.lookup ch := by
  unfold expire
  generalize q.expired now order = ids
  induction ids generalizing q with
  | nil => simp
  | cons id ids ih =>
    rw [List.foldl_cons,ih,recovered_expireChannel,expireChannel_queues]
    by_cases hid : ch = id
    · simp [hid]
    · simp [hid]

lemma inFlightChannels_expire (order : List Uuid) : ch ∈ (q.expire now order).inFlightChannels ↔
    ch ∈ q.inFlightChannels ∧ ch ∉ q.expired now order := by
  unfold expire
  generalize q.expired now order = ids
  induction ids generalizing q with
  | nil => simp
  | cons id ids ih =>
    rw [List.foldl_cons,ih,(expireChannel_releases id).channels,Finset.mem_erase,List.mem_cons]
    tauto

lemma expire_frame (order : List Uuid) : (q.expire now order).cancelledBatches = q.cancelledBatches ∧
    (q.expire now order).retryAfter = q.retryAfter := by
  unfold expire
  generalize q.expired now order = ids
  induction ids generalizing q with
  | nil => exact ⟨rfl,rfl⟩
  | cons id ids ih =>
    rw [List.foldl_cons,ih.1,ih.2]
    unfold expireChannel recoverWithheldForExpiredChannel
    split <;> exact ⟨rfl,rfl⟩

end

section

variable {q : EventQueue} {now : ℕ}

/-- Some queue is ready, or some cancelled events wait in an idle channel. -/
def HasWork (q : EventQueue) (now : ℕ) : Prop :=
  (∃ ch queue, q.queues.lookup ch = some queue ∧ q.ready now (ch,queue) = true) ∨
    ∃ ch events, q.cancelledBatches.lookup ch = some events ∧ ch ∉ q.inFlightChannels

lemma oldestReady_eq_none {order : List Uuid} : q.oldestReady now order = none ↔
    ∀ ch queue, q.queues.lookup ch = some queue → q.ready now (ch,queue) = false := by
  simp only [oldestReady,map_eq_none_iff,List.argmin_eq_none,List.filter_eq_nil_iff,Prod.forall,
    mem_iter,Bool.not_eq_true]

lemma idleCancelled_eq_none {order : List Uuid} : q.idleCancelled order = none ↔
    ∀ ch es, q.cancelledBatches.lookup ch = some es → ch ∈ q.inFlightChannels := by
  simp [idleCancelled,mem_iter]

lemma flushNext_eq_none {it : Iteration} :
    (q.flushNext now it).2 = none ↔ ¬HasWork (q.expire now it.deadlines) now := by
  have hi : ¬HasWork (q.expire now it.deadlines) now ↔
      (q.expire now it.deadlines).oldestReady now it.queues = none ∧
        (q.expire now it.deadlines).idleCancelled it.cancelled = none := by
    simp [HasWork,oldestReady_eq_none,idleCancelled_eq_none]
  rw [hi,flushNext]
  cases (q.expire now it.deadlines).oldestReady now it.queues with
  | some id => simp
  | none => cases (q.expire now it.deadlines).idleCancelled it.cancelled <;> simp

lemma hasFlushableWork_iff {it : Iteration} :
    (q.hasFlushableWork now it).2 = true ↔ HasWork (q.expire now it.deadlines) now := by
  simp only [hasFlushableWork,HasWork,Bool.or_eq_true,List.any_eq_true,Prod.exists,mem_iter,decide_eq_true_eq]

/-- Whether there is work does not depend on the order in which deadlines expire. -/
lemma hasWork_expire (order order' : List Uuid) :
    HasWork (q.expire now order) now ↔ HasWork (q.expire now order') now := by
  have he : ∀ ch, ch ∈ q.expired now order ↔ ch ∈ q.expired now order' := fun ch =>
    mem_expired.trans mem_expired.symm
  have hfl : ∀ ch, ch ∈ (q.expire now order).inFlightChannels ↔
      ch ∈ (q.expire now order').inFlightChannels := by
    intro ch
    rw [inFlightChannels_expire,inFlightChannels_expire,he]
  simp only [HasWork,ready,unthrottled,queues_expire,he,hfl,(expire_frame _).1,(expire_frame _).2]

/-- The call that asks for work says yes exactly when the call that flushes returns a batch. -/
theorem flush_readiness_exact (q : EventQueue) (now : ℕ) (it it' : Iteration) :
    (q.hasFlushableWork now it).2 = true ↔ ∃ batch, (q.flushNext now it').2 = some batch := by
  rw [hasFlushableWork_iff,hasWork_expire it.deadlines it'.deadlines,← ne_none_iff_exists',ne_eq,
    flushNext_eq_none,not_not]

end

section

variable {q after : EventQueue} {now later : ℕ} {it : Iteration} {batch : FlushBatch}

/-- The branch of `dispatch_pending` without a free agent: a batch is flushed, put back and its
channel completed. -/
def flushAndPutBack (q : EventQueue) (now later : ℕ) (it : Iteration) : Option (FlushBatch × EventQueue) :=
  (q.flushNext now it).2.map fun batch =>
    (batch,((q.flushNext now it).1.requeuePreserveTimestamps batch).markComplete later batch.channelId)

lemma markComplete_queues (id : Uuid) : (q.markComplete now id).queues = q.queues := by
  unfold markComplete
  split
  · split <;> rfl
  · rfl

lemma head_sorted (queue : List QueuedEvent) :
    ((queue.map QueuedEvent.batched).insertionSort fun a b => a.event.createdAt ≤ b.event.createdAt).head? =
      (queue.argmin fun qe => qe.event.createdAt).map QueuedEvent.batched := by
  induction queue with
  | nil => rfl
  | cons qe queue ih =>
    rw [List.map_cons,List.insertionSort_cons,List.argmin_cons]
    cases hs : (queue.map QueuedEvent.batched).insertionSort fun a b =>
      a.event.createdAt ≤ b.event.createdAt with
    | nil =>
      rw [hs] at ih
      rw [map_eq_none_iff.1 ih.symm]
      rfl
    | cons first more =>
      rw [hs] at ih
      obtain ⟨c,hc,rfl⟩ := map_eq_some_iff.1 ih.symm
      rw [hc,List.orderedInsert_cons]
      by_cases hle : qe.event.createdAt ≤ c.event.createdAt
      · simp [QueuedEvent.batched,hle,hle.not_gt]
      · simp [QueuedEvent.batched,hle,not_le.1 hle]

/-- A batch is one of a queue, or one of cancelled events alone. -/
lemma flushNext_cases (hf : (q.flushNext now it).2 = some batch) :
    q.flushNext now it = Prod.map id some ((q.expire now it.deadlines).flushQueued now batch.channelId) ∨
    q.cancelledBatches.lookup batch.channelId ≠ none ∧ q.flushNext now it = Prod.map id
        some ((q.expire now it.deadlines).flushCancelled now batch.channelId) := by
  unfold flushNext at hf ⊢
  cases hr : (q.expire now it.deadlines).oldestReady now it.queues with
  | some id =>
    simp only [hr,some.injEq] at hf ⊢
    obtain rfl := hf
    exact .inl rfl
  | none =>
    cases hi : (q.expire now it.deadlines).idleCancelled it.cancelled with
    | none => simp [hr,hi] at hf
    | some id =>
      simp only [hr,hi,some.injEq] at hf ⊢
      obtain rfl := hf
      obtain ⟨⟨id,es⟩,he,rfl⟩ := List.mem_map.1 (List.mem_of_find?_eq_some hi)
      rw [mem_iter,(expire_frame _).1] at he
      exact .inr ⟨ne_none_iff_exists'.2 ⟨es,he⟩,rfl⟩

/-- A flush leaves its channel no cancelled events and no reason, and they do not come back with the batch. -/
lemma flushAndPutBack_cancelled (hrun : flushAndPutBack q now later it = some (batch,after)) :
    after.cancelledBatches.lookup batch.channelId = none ∧
      after.cancelReasons.lookup batch.channelId = none := by
  obtain ⟨flushed,hf,heq⟩ := map_eq_some_iff.1 hrun
  obtain ⟨rfl,rfl⟩ := Prod.mk.inj heq
  have hm (q : EventQueue) : (q.markComplete later flushed.channelId).cancelledBatches = q.cancelledBatches ∧
      (q.markComplete later flushed.channelId).cancelReasons = q.cancelReasons := by
    unfold markComplete
    split
    · split <;> exact ⟨rfl,rfl⟩
    · exact ⟨rfl,rfl⟩
  rw [(hm _).1,(hm _).2]
  rcases flushNext_cases hf with hn | ⟨-,hn⟩ <;> rw [hn] <;>
    simp [requeuePreserveTimestamps,putBack,flushQueued,flushCancelled,dispatch]

/-- Putting a batch back at once is neutral exactly where the channel has no cancelled events and the first
written of the flushed events was received when the head of the queue was. -/
theorem put_back_neutral (hrun : flushAndPutBack q now later it = some (batch,after)) :
    ((batch.events.map fun be => be.queued batch.channelId) <+: listAt after.queues batch.channelId ∧
      after.cancelledBatches.lookup batch.channelId = q.cancelledBatches.lookup batch.channelId ∧
      after.cancelReasons.lookup batch.channelId = batch.cancelReason ∧
      batch.channelId ∉ after.inFlightChannels ∧
      (listAt after.queues batch.channelId).head?.map QueuedEvent.receivedAt =
        (listAt q.queues batch.channelId).head?.map QueuedEvent.receivedAt) ↔
    q.cancelledBatches.lookup batch.channelId = none ∧
      (((listAt (q.expire now it.deadlines).queues batch.channelId).take maxBatchEvents).argmin
        fun qe => qe.event.createdAt).map QueuedEvent.receivedAt =
          (listAt q.queues batch.channelId).head?.map QueuedEvent.receivedAt := by
  obtain ⟨hca,hre⟩ := flushAndPutBack_cancelled hrun
  rw [hca,hre]
  by_cases hcancelled : q.cancelledBatches.lookup batch.channelId = none
  swap
  · exact iff_of_false (fun h => hcancelled h.2.1.symm) fun h => hcancelled h.1
  obtain ⟨flushed,hf,heq⟩ := map_eq_some_iff.1 hrun
  obtain ⟨rfl,rfl⟩ := Prod.mk.inj heq
  have hn := (flushNext_cases hf).resolve_right fun h => h.1 hcancelled
  rw [hn] at hf
  have hf := some.inj hf
  set queue := listAt (q.expire now it.deadlines).queues flushed.channelId with hq
  have he : flushed.events = ((queue.take maxBatchEvents).map
      QueuedEvent.batched).insertionSort fun a b => a.event.createdAt ≤ b.event.createdAt :=
    congrArg FlushBatch.events hf.symm
  have hl : (flushed.events.map fun be => be.queued flushed.channelId).length ≤ maxPendingPerChannel := by
    rw [List.length_map,he,List.length_insertionSort,List.length_map,List.length_take]
    exact (min_le_left _ _).trans (by decide)
  have hb : listAt (((q.flushNext now it).1.requeuePreserveTimestamps flushed).markComplete later
      flushed.channelId).queues flushed.channelId =
      putFront (flushed.events.map fun be => be.queued flushed.channelId) (queue.drop maxBatchEvents) := by
    rw [markComplete_queues,requeuePreserveTimestamps,putBack,listAt_insert,if_pos rfl,hn]
    simp only [Prod.map,id,flushQueued,dispatch,listAt_setList,if_true,hq]
  have hno : flushed.cancelReason = none := by
    refine (congrArg FlushBatch.cancelReason hf.symm).trans (if_pos ?_)
    rw [listAt,(expire_frame _).1,hcancelled]
    rfl
  have hidle :
    flushed.channelId ∉ (((q.flushNext now it).1.requeuePreserveTimestamps flushed).markComplete later
      flushed.channelId).inFlightChannels := by
    rw [(markComplete_releases later flushed.channelId).channels]
    exact Finset.notMem_erase _ _
  have hhead : (putFront (flushed.events.map fun be => be.queued flushed.channelId)
      (queue.drop maxBatchEvents)).head?.map QueuedEvent.receivedAt =
      ((queue.take maxBatchEvents).argmin fun qe => qe.event.createdAt).map QueuedEvent.receivedAt := by
    have hs := head_sorted (queue.take maxBatchEvents)
    rw [← he] at hs
    cases hev : flushed.events with
    | nil =>
      have hnil : queue = [] := by
        have hlen := congrArg List.length he
        simp only [hev,List.length_nil,List.length_insertionSort,List.length_map,List.length_take,
          maxBatchEvents] at hlen
        exact List.eq_nil_of_length_eq_zero (by omega)
      simp [hnil,putFront]
    | cons first more =>
      rw [hev] at hs
      obtain ⟨qe,hqe,rfl⟩ := map_eq_some_iff.1 hs.symm
      rw [hqe]
      rfl
  rw [hb,hhead,putFront,List.take_append,List.take_of_length_le hl]
  simp [hcancelled,hno,hidle]

end

def requestQueue (events : List QueuedEvent) : EventQueue :=
  events.foldl (fun q event => (q.push event).1) (EventQueue.new .queue)

/-- Two requests in the order in which they were written. -/
theorem put_back_neutral_requests : let q := requestQueue [requested firstRequest 0,requested secondRequest 1]
    ∃ batch after, flushAndPutBack q 2 3 anyOrder = some (batch,after) ∧ batch.events.length = 2 ∧
      (batch.events.map fun be => be.queued requestChannel) <+: listAt after.queues requestChannel ∧
      (listAt after.queues requestChannel).head?.map QueuedEvent.receivedAt = some 0 := by
  intro q
  have hrun : (flushAndPutBack q 2 3 anyOrder).map (fun r => (r.1.channelId,r.1.events.length)) =
      some (requestChannel,2) := by decide +kernel
  obtain ⟨⟨batch,after⟩,hrun,heq⟩ := map_eq_some_iff.1 hrun
  obtain ⟨hch,hl⟩ : batch.channelId = requestChannel ∧ batch.events.length = 2 := Prod.mk.inj heq
  have hq : listAt q.queues requestChannel = [requested firstRequest 0,requested secondRequest 1] := by
    decide +kernel
  obtain ⟨hb,-,-,-,hh⟩ := (put_back_neutral hrun).2 (by rw [hch]; decide +kernel)
  rw [hch] at hb hh
  exact ⟨batch,after,hrun,hl,hb,by rw [hh,hq]; rfl⟩

/-- A merged batch is put back without its cancelled request and the reason of the cancellation;
and a replay that delivers the newest request first moves a channel's queue to a later time. -/
theorem put_back_changes_queue :
    (flushAndPutBack (idleHarness.run fixedBackoff (mergedTurn.take 5)).queue 4 4 anyOrder).map
        (fun r => (r.1.cancelledEvents,r.1.cancelReason,stored r.2 requestChannel,
          r.2.cancelReasons.lookup requestChannel)) =
      some ([(requested firstRequest 0).batched],some .steer,[(requested secondRequest 2).batched],none) ∧
    (flushAndPutBack (requestQueue [requested secondRequest 0,requested firstRequest 1]) 2 2 anyOrder).map
        (fun r => (listAt r.2.queues requestChannel).map QueuedEvent.receivedAt) = some [1,0] := by
  decide +kernel

section

variable {q : EventQueue} {ch : Uuid}

/-- Nothing in the queue is of the channel. -/
structure Gone (q : EventQueue) (ch : Uuid) : Prop where
  events : stored q ch = []
  reason : q.cancelReasons.lookup ch = none
  throttle : q.retryAfter.lookup ch = none
  retries : q.retryCounts.lookup ch = none
  flight : ch ∉ q.inFlightChannels
  deadline : q.inFlightDeadlines.lookup ch = none
  size : q.inFlightBatchSizes.lookup ch = none

/-- Draining a channel leaves nothing of it and reports all its events exactly when it has no turn in flight
and each withheld and cancelled event has the id of a queued one. Other channels keep their events. -/
theorem drain_reports_discarded (q : EventQueue) (ch : Uuid) :
    (Gone (q.drainChannel ch).1 ch ∧ (∀ be ∈ stored q ch, be.event.id.toHex ∈ (q.drainChannel ch).2) ↔
      (ch ∉ q.inFlightChannels ∧ q.inFlightDeadlines.lookup ch = none ∧
        q.inFlightBatchSizes.lookup ch = none) ∧
      ∀ be ∈ (listAt q.withheldNativeSteer ch).map QueuedEvent.batched ++ listAt q.cancelledBatches ch,
        ∃ qe ∈ listAt q.queues ch, qe.event.id = be.event.id) ∧
    ∀ other ≠ ch, stored (q.drainChannel ch).1 other = stored q other := by
  have hg : Gone (q.drainChannel ch).1 ch ↔ ch ∉ q.inFlightChannels ∧ q.inFlightDeadlines.lookup ch = none ∧
        q.inFlightBatchSizes.lookup ch = none := by
    refine ⟨fun h => ⟨h.flight,h.deadline,h.size⟩,fun h => ⟨?_,?_,?_,?_,h.1,h.2.1,h.2.2⟩⟩ <;>
      simp [drainChannel,stored,listAt_erase]
  have hr : (∀ be ∈ stored q ch, be.event.id.toHex ∈ (q.drainChannel ch).2) ↔
      ∀ be ∈ (listAt q.withheldNativeSteer ch).map QueuedEvent.batched ++ listAt q.cancelledBatches ch,
        ∃ qe ∈ listAt q.queues ch, qe.event.id = be.event.id := by
    simp only [stored,drainChannel,List.mem_map,FixedBytes.toHex_injective.eq_iff]
    refine ⟨fun h be hbe => h be (List.mem_append_right _ hbe),fun h be hbe => ?_⟩
    rcases List.mem_append.1 hbe with hq | ho
    · obtain ⟨qe,hqe,rfl⟩ := List.mem_map.1 hq
      exact ⟨qe,hqe,rfl⟩
    · exact h be ho
  refine ⟨and_congr hg hr,fun other hne => ?_⟩
  simp [drainChannel,stored,listAt_erase,hne]

end

/-- The request of a cancelled turn, and one withheld for a steer, go without being reported. -/
theorem drain_drops_unreported : let cancelled := (idleHarness.run fixedBackoff (mergedTurn.take 5)).queue
    let withheld := (idleHarness.run fixedBackoff
      [(0,.push (requested firstRequest 0)),(1,.withhold requestChannel firstRequest.id.toHex)]).queue
    (stored cancelled requestChannel).map BatchEvent.event = [secondRequest,firstRequest] ∧
    (cancelled.drainChannel requestChannel).2 = [secondRequest.id.toHex] ∧
    (stored withheld requestChannel).map BatchEvent.event = [firstRequest] ∧
    (withheld.drainChannel requestChannel).2 = [] := by
  decide +kernel

section

variable {q : EventQueue} {now : ℕ} {ch : Uuid} {ord : List Uuid}

lemma oldestReady_le (h : q.oldestReady now ord = some ch) : ∃ queue, q.queues.lookup ch = some queue ∧
    queue ≠ [] ∧ ∀ o more, q.queues.lookup o = some more → q.ready now (o,more) = true →
      headTime (ch,queue) ≤ headTime (o,more) := by
  obtain ⟨⟨ch,queue⟩,he,rfl⟩ := map_eq_some_iff.1 h
  obtain ⟨hme,hr⟩ := List.mem_filter.1 (List.argmin_mem he)
  refine ⟨queue,mem_iter.1 hme,(of_decide_eq_true hr).1,fun o more hm ho => ?_⟩
  exact List.le_of_mem_argmin (List.mem_filter.2 ⟨mem_iter.2 hm,ho⟩) he

def Received (events : List QueuedEvent) : Prop := events.Pairwise fun a b => a.receivedAt ≤ b.receivedAt

instance : DecidablePred Received := fun events => inferInstanceAs (Decidable (events.Pairwise _))

/-- What a step puts into a queue is received after what stands before it, and before what stands behind. -/
def KeepsOrder (w : World) (now : ℕ) : Op → Prop
  | .push e => Received (listAt w.queue.queues e.channelId ++ [e])
  | .settle i (.requeue _) | .settle i .preserveTimestamps => ∀ turn ∈ w.turns[i]?,
      Received ((turn.batch.events.map fun be => be.queued turn.batch.channelId) ++
        listAt w.queue.queues turn.batch.channelId)
  | .release ch id => ∀ qe ∈ (listAt w.queue.withheldNativeSteer ch).find? (hasId id),
      Received (qe :: listAt w.queue.queues ch)
  | .flushNext it | .hasFlushableWork it => ∀ ch ∈ w.queue.expired now it.deadlines,
      Received (listAt w.queue.withheldNativeSteer ch ++ listAt w.queue.queues ch)
  | _ => True

def Ordered (q : EventQueue) : Prop := ∀ ch, Received (listAt q.queues ch)

lemma Ordered.insert {t : Table Uuid (List QueuedEvent)} (h : ∀ a, Received (listAt t a))
    {queue : List QueuedEvent}
    (hq : Received queue) (a : Uuid) : Received (listAt (t.insert ch queue) a) := by
  rw [listAt_insert]
  split_ifs
  · exact hq
  · exact h a

lemma ordered_expire (h : Ordered q)
    (hk : ∀ ch ∈ q.expired now ord, Received (listAt q.withheldNativeSteer ch ++ listAt q.queues ch)) :
    Ordered (q.expire now ord) := by
  intro ch
  rw [listAt,queues_expire]
  split_ifs with he
  · have hk := hk ch he
    unfold recovered
    cases hw : q.withheldNativeSteer.lookup ch with
    | none => exact h ch
    | some es =>
      rw [listAt,hw] at hk
      exact hk.sublist (List.take_sublist _ _)
  · exact h ch

lemma ordered_setList {t : Table Uuid (List QueuedEvent)} (h : ∀ a, Received (listAt t a))
    {queue : List QueuedEvent}
    (hq : queue.Sublist (listAt t ch)) (a : Uuid) : Received (listAt (setList t ch queue) a) := by
  rw [listAt_setList]
  split_ifs
  · exact (h ch).sublist hq
  · exact h a

lemma ordered_putBack {batch : FlushBatch} (h : Ordered q) (hk :
      Received ((batch.events.map fun be => be.queued batch.channelId) ++ listAt q.queues batch.channelId)) :
    Ordered (q.putBack batch) :=
  Ordered.insert h (hk.sublist (List.take_sublist _ _))

lemma ordered_step {B : Backoff} {w : World} (op : Op) (h : Ordered w.queue) (hk : KeepsOrder w now op) :
    Ordered (w.step B now op).queue := by
  cases op with
  | push e =>
    have hp : Ordered (w.queue.push e).1 := by
      unfold EventQueue.push
      split_ifs
      · exact h
      · refine Ordered.insert h (hk.sublist ?_)
        split_ifs
        · exact (List.tail_sublist _).append_right _
        · exact .refl _
    simp only [World.step,World.apply,World.push]
    split
    · exact hp
    · exact h
  | flushNext it =>
    have he := ordered_expire h hk
    simp only [World.step,World.apply,World.flush]
    cases hf : (w.queue.flushNext now it).2 with
    | none => exact (flushNext_none hf).symm ▸ he
    | some batch =>
      rcases flushNext_cases hf with hn | ⟨-,hn⟩
      · simp only [hn]
        exact ordered_setList he (List.drop_sublist _ _)
      · simp only [hn]
        exact he
  | hasFlushableWork it => exact ordered_expire h hk
  | settle i out =>
    simp only [World.step,World.apply,World.settle]
    split
    · exact h
    next turn ht =>
      split_ifs
      · exact h
      · cases out with
        | requeue nanos =>
          simp only [World.settleBatch,requeue]
          split_ifs
          · exact h
          · exact ordered_putBack h (hk turn ht)
        | preserveTimestamps => exact ordered_putBack h (hk turn ht)
        | _ => exact h
  | complete i =>
    simp only [World.step,World.apply,World.complete]
    split
    · exact h
    · split_ifs
      · exact h
      · simpa only [Ordered,markComplete_queues] using h
  | extend ch secs =>
    have he : Ordered (w.queue.extendInFlightDeadline now ch secs) := by
      simp only [extendInFlightDeadline]
      split
      · exact h
      · split <;> exact h
    simp only [World.step,World.apply,World.extend]
    split <;> exact he
  | withhold ch id =>
    simp only [World.step,World.apply,markNativeSteerPending]
    split
    · exact h
    · exact ordered_setList h List.eraseP_sublist
  | release ch id =>
    simp only [World.step,World.apply,releaseNativeSteer]
    split
    · exact h
    next qe hqe => exact Ordered.insert h ((hk qe hqe).sublist (List.take_sublist _ _))
  | remove ch id => exact ordered_setList h List.filter_sublist
  | drain ch =>
    intro a
    simp only [World.step,World.apply,drainChannel,listAt_erase]
    split_ifs
    · exact .nil
    · exact h a
  | compact => exact h

/-- In every run that puts events into the queues in the order in which they were received, a flush takes the
queue that holds the event received first of those in idle channels without a throttle. -/
theorem flush_oldest_first {B : Backoff} {mode : DedupMode} {deadline : ℕ} {w : World} {it : Iteration}
    (hr : Reached B KeepsOrder (World.start { EventQueue.new mode with inFlightDeadline := deadline }) w)
    (hk : KeepsOrder w now (.flushNext it))
    (hready : (w.queue.expire now it.deadlines).oldestReady now it.queues = some ch) :
    (w.queue.flushNext now it).2 = some ((w.queue.expire now it.deadlines).flushQueued now ch).2 ∧
    ∃ oldest ∈ listAt (w.queue.expire now it.deadlines).queues ch,
      ∀ other ∉ (w.queue.expire now it.deadlines).inFlightChannels, w.queue.unthrottled now other = true →
        ∀ qe ∈ listAt (w.queue.expire now it.deadlines).queues other, oldest.receivedAt ≤ qe.receivedAt := by
  refine ⟨by simp [flushNext,hready],?_⟩
  have ho : Ordered w.queue := hr.invariant (fun ch => .nil) fun w now op h hk => ordered_step op h hk
  have ho := ordered_expire ho hk
  obtain ⟨queue,hq,hne,hle⟩ := oldestReady_le hready
  obtain ⟨oldest,older,rfl⟩ := List.exists_cons_of_ne_nil hne
  refine ⟨oldest,by simp [listAt,hq],fun other hidle hfree qe hqe => ?_⟩
  cases hm : (w.queue.expire now it.deadlines).queues.lookup other with
  | none => simp [listAt,hm] at hqe
  | some queue =>
    obtain ⟨head,rest,rfl⟩ := List.exists_cons_of_ne_nil (l := queue) (by rintro rfl; simp [listAt,hm] at hqe)
    have hfree' : (w.queue.expire now it.deadlines).unthrottled now other = true := by
      rwa [unthrottled,(expire_frame _).2]
    have hh := hle other _ hm (decide_eq_true ⟨by simp,hidle,hfree'⟩)
    have hs := ho other
    rw [listAt,hm] at hs hqe
    rcases List.mem_cons.1 hqe with rfl | hqe
    · exact hh
    · exact hh.trans (List.rel_of_pairwise_cons hs hqe)

end

/-- A request is put back with its timestamp, in front of one received later. -/
def givenBack : List (ℕ × Op) :=
  [(0,.push (requested firstRequest 0)),(1,.flushNext anyOrder),(2,.push (requested secondRequest 2)),
    (3,.settle 0 .preserveTimestamps),(3,.complete 0)]

theorem flush_oldest_first_request : let q := (idleHarness.run fixedBackoff givenBack).queue
    ∃ oldest ∈ listAt (q.expire 4 []).queues requestChannel, ∀ other ∉ (q.expire 4 []).inFlightChannels,
      q.unthrottled 4 other = true → ∀ qe ∈ listAt (q.expire 4 []).queues other,
        oldest.receivedAt ≤ qe.receivedAt := by
  have hm : MeetsAlong fixedBackoff KeepsOrder idleHarness givenBack := by
    refine ⟨?_,?_,?_,?_,?_,trivial⟩ <;> simp only [KeepsOrder] <;> decide +kernel
  have hk : KeepsOrder (idleHarness.run fixedBackoff givenBack) 4 (.flushNext anyOrder) := by
    simp only [KeepsOrder]
    decide +kernel
  exact (flush_oldest_first (reached_run .start hm) hk (by decide +kernel)).2

/-- A batch with the newer request first is put back in the order in which the requests were written:
another channel is then flushed although its request was received later. -/
theorem put_back_loses_turn : let elsewhere := { requested firstRequest 1 with channelId := .ofNat 16 1 }
    let q := (idleHarness.run fixedBackoff [(0,.push (requested secondRequest 0)),(1,.push elsewhere),
      (2,.push (requested firstRequest 2)),(3,.flushNext anyOrder),(3,.settle 0 .preserveTimestamps),
      (3,.complete 0)]).queue
    (listAt q.queues requestChannel).map QueuedEvent.receivedAt = [2,0] ∧ q.inFlightChannels = ∅ ∧
    q.unthrottled 4 requestChannel = true ∧
    (q.flushNext 4 anyOrder).2.map (fun batch => (batch.channelId,batch.events)) =
      some (elsewhere.channelId,[elsewhere.batched]) := by
  decide +kernel

end BuzzSolo.Acp
