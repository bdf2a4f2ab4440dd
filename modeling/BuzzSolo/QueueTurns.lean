import BuzzSolo.QueueCustody

/-! One turn at a time in a channel. A batch is in flight from its flush to its completion or the
end of its deadline; the queue knows this by channel only, so a completion has to be that of the
batch in flight. -/
namespace BuzzSolo.Acp

open HashTable EventQueue List Option

section

variable {q : EventQueue} {now : ℕ} {ch : Uuid} {d : ℕ}

def InFlight (q : EventQueue) (ch : Uuid) (d : ℕ) : Prop :=
  ch ∈ q.inFlightChannels ∧ q.inFlightDeadlines.lookup ch = some d

def DeadlinesInFlight (q : EventQueue) : Prop :=
  ∀ ch d, q.inFlightDeadlines.lookup ch = some d → ch ∈ q.inFlightChannels

structure Releases (q : EventQueue) (ch : Uuid) (q' : EventQueue) : Prop where
  channels : q'.inFlightChannels = q.inFlightChannels.erase ch
  deadlines : q'.inFlightDeadlines = q.inFlightDeadlines.erase ch

lemma expireChannel_releases (id : Uuid) : Releases q id (q.expireChannel id) := by
  unfold expireChannel recoverWithheldForExpiredChannel
  split <;> exact ⟨rfl,rfl⟩

lemma markComplete_releases (now : ℕ) (id : Uuid) : Releases q id (q.markComplete now id) := by
  unfold markComplete
  split
  · split <;> exact ⟨rfl,rfl⟩
  · exact ⟨rfl,rfl⟩

variable {q' : EventQueue}

lemma inFlight_releases {id : Uuid} (hr : Releases q id q') (hne : ch ≠ id)
    (h : InFlight q ch d) : InFlight q' ch d := by
  refine ⟨?_,?_⟩
  · rw [hr.channels]
    exact Finset.mem_erase.2 ⟨hne,h.1⟩
  · rw [hr.deadlines,lookup_erase_eq,if_neg hne]
    exact h.2

lemma deadlinesInFlight_releases {id : Uuid} (hr : Releases q id q')
    (h : DeadlinesInFlight q) : DeadlinesInFlight q' := by
  intro ch d hl
  rw [hr.deadlines,lookup_erase_eq] at hl
  rw [hr.channels,Finset.mem_erase]
  by_cases hid : ch = id
  · simp [hid] at hl
  · exact ⟨hid,h ch d (by simpa [hid] using hl)⟩

lemma expireChannel_inFlightDeadline (id : Uuid) :
    (q.expireChannel id).inFlightDeadline = q.inFlightDeadline := by
  unfold expireChannel recoverWithheldForExpiredChannel
  split <;> rfl

variable {ord : List Uuid}

lemma mem_expired : ch ∈ q.expired now ord ↔ ∃ d, q.inFlightDeadlines.lookup ch = some d ∧ d ≤ now := by
  simp [expired,mem_iter]

lemma inFlight_expire {ord : List Uuid} (h : InFlight q ch d) (hlive : now < d) :
    InFlight (q.expire now ord) ch d := by
  have hn : ch ∉ q.expired now ord := by
    intro hm
    obtain ⟨d',hl,hle⟩ := mem_expired.1 hm
    rw [h.2,some.injEq] at hl
    omega
  unfold expire
  generalize q.expired now ord = ids at hn
  induction ids generalizing q with
  | nil => exact h
  | cons id ids ih =>
    rw [mem_cons,not_or] at hn
    exact ih (inFlight_releases (expireChannel_releases id) hn.1 h) hn.2

lemma deadlinesInFlight_expire (ord : List Uuid) (h : DeadlinesInFlight q) :
    DeadlinesInFlight (q.expire now ord) := by
  unfold expire
  generalize q.expired now ord = ids
  induction ids generalizing q with
  | nil => exact h
  | cons id ids ih => exact ih (deadlinesInFlight_releases (expireChannel_releases id) h)

lemma inFlightDeadline_expire (ord : List Uuid) :
    (q.expire now ord).inFlightDeadline = q.inFlightDeadline := by
  unfold expire
  generalize q.expired now ord = ids
  induction ids generalizing q with
  | nil => rfl
  | cons id ids ih => rw [foldl_cons,ih,expireChannel_inFlightDeadline]

lemma oldestReady_idle (h : q.oldestReady now ord = some ch) : ch ∉ q.inFlightChannels := by
  simp only [oldestReady,map_eq_some_iff] at h
  obtain ⟨en,he,rfl⟩ := h
  have hr := of_mem_filter (argmin_mem he)
  simp only [ready,decide_eq_true_eq] at hr
  exact hr.2.1

lemma idleCancelled_idle (h : q.idleCancelled ord = some ch) : ch ∉ q.inFlightChannels := by
  simpa using find?_some h

/-- What a flush does to the channels in flight: it adds the channel of its batch, which was not
among them. -/
structure Dispatches (q : EventQueue) (now : ℕ) (q' : EventQueue) (batch : FlushBatch) : Prop where
  idle : batch.channelId ∉ q.inFlightChannels
  channels : q'.inFlightChannels = insert batch.channelId q.inFlightChannels
  deadlines : q'.inFlightDeadlines = q.inFlightDeadlines.insert batch.channelId (now + q.inFlightDeadline)

lemma flushNext_none {it : Iteration} (h : (q.flushNext now it).2 = none) :
    (q.flushNext now it).1 = q.expire now it.deadlines := by
  simp only [flushNext] at h ⊢
  cases hr : (q.expire now it.deadlines).oldestReady now it.queues with
  | some id => simp [hr] at h
  | none =>
    cases hi : (q.expire now it.deadlines).idleCancelled it.cancelled with
    | some id => simp [hr,hi] at h
    | none => rfl

lemma flushNext_some {it : Iteration} {b : FlushBatch} (h : (q.flushNext now it).2 = some b) :
    Dispatches (q.expire now it.deadlines) now (q.flushNext now it).1 b := by
  simp only [flushNext] at h ⊢
  cases hr : (q.expire now it.deadlines).oldestReady now it.queues with
  | some id =>
    simp only [hr,some.injEq] at h
    obtain rfl := h
    exact ⟨oldestReady_idle hr,rfl,rfl⟩
  | none =>
    cases hi : (q.expire now it.deadlines).idleCancelled it.cancelled with
    | some id =>
      simp only [hr,hi,some.injEq] at h
      obtain rfl := h
      exact ⟨idleCancelled_idle hi,rfl,rfl⟩
    | none => simp [hr,hi] at h

lemma inFlight_dispatches {b : FlushBatch}
    (hd : Dispatches q now q' b) (h : InFlight q ch d) : InFlight q' ch d := by
  have hne : ch ≠ b.channelId := fun heq => hd.idle (heq ▸ h.1)
  refine ⟨?_,?_⟩
  · rw [hd.channels]
    exact Finset.mem_insert_of_mem h.1
  · rw [hd.deadlines,lookup_insert_eq,if_neg hne]
    exact h.2

end

/-- What the callers know of a turn that concerns its time in flight. -/
structure Flight where
  channelId : Uuid
  deadline : ℕ
  completed : Bool

def Turn.flight (turn : Turn) : Flight := ⟨turn.batch.channelId,turn.deadline,turn.completed⟩

def World.flights (w : World) : List Flight := w.turns.map Turn.flight

/-- A turn that is neither completed nor past its deadline is the last one of its channel, and
the channel is in flight with the turn's own deadline. -/
structure Exclusive (w : World) : Prop where
  open_inFlight : ∀ i flight, w.flights[i]? = some flight → flight.completed = false →
    w.clock < flight.deadline → w.latest.lookup flight.channelId = some i ∧
      InFlight w.queue flight.channelId flight.deadline
  latest_channel : ∀ ch i, w.latest.lookup ch = some i → ∃ flight, w.flights[i]? = some flight ∧
    flight.channelId = ch
  deadlines : DeadlinesInFlight w.queue

/-- The operation completes the batch that is in flight in its channel, if there is one. -/
def CompletesOwn (w : World) : Op → Prop
  | .complete i => ∀ turn, w.turns[i]? = some turn → turn.completed = false →
      w.latest.lookup turn.batch.channelId = some i ∨ turn.batch.channelId ∉ w.queue.inFlightChannels
  | _ => True

/-- The clock does not go back, and only the batch in flight is completed. -/
def Timely (w : World) (now : ℕ) (op : Op) : Prop := w.clock ≤ now ∧ CompletesOwn w op

section

variable {B : Backoff} {now : ℕ} {w w' : World}

/-- Nothing that concerns the channels in flight has changed, but time may have passed. -/
structure SameFlights (w w' : World) : Prop where
  clock : w.clock ≤ w'.clock
  flights : w'.flights = w.flights
  latest : w'.latest = w.latest
  channels : w'.queue.inFlightChannels = w.queue.inFlightChannels
  deadlines : w'.queue.inFlightDeadlines = w.queue.inFlightDeadlines

lemma exclusive_of_same (h : Exclusive w) (hs : SameFlights w w') : Exclusive w' := by
  have hc := hs.clock
  refine ⟨?_,?_,?_⟩
  · intro i fl hfl ho hlive
    rw [hs.flights] at hfl
    rw [hs.latest,InFlight,hs.channels,hs.deadlines]
    exact h.open_inFlight i fl hfl ho (by omega)
  · intro ch i hl
    rw [hs.latest] at hl
    rw [hs.flights]
    exact h.latest_channel ch i hl
  · intro ch d hlookup
    rw [hs.deadlines] at hlookup
    rw [hs.channels]
    exact h.deadlines ch d hlookup

lemma exclusive_clock (h : Exclusive w) (hc : w.clock ≤ now) : Exclusive { w with clock := now } :=
  exclusive_of_same h ⟨hc,rfl,rfl,rfl,rfl⟩

lemma exclusive_expiring (order : List Uuid) (h : Exclusive w) (hc : w.clock = now) :
    Exclusive (w.expiring now order) := by
  refine ⟨?_,h.latest_channel,deadlinesInFlight_expire order h.deadlines⟩
  intro i fl hfl ho hlive
  obtain ⟨hl,hin⟩ := h.open_inFlight i fl hfl ho hlive
  have hb : now < fl.deadline := by rwa [← hc]
  exact ⟨hl,inFlight_expire hin hb⟩

lemma flights_append (turn : Turn) (i : ℕ) : ((w.turns ++ [turn]).map Turn.flight)[i]? =
      if i = w.turns.length then some turn.flight else w.flights[i]? := by
  have hl : w.flights.length = w.turns.length := by simp [World.flights]
  rw [map_append,← World.flights,map_cons,map_nil]
  rcases Nat.lt_trichotomy i w.turns.length with hlt | rfl | hgt
  · rw [getElem?_append_left (by omega),if_neg (by omega)]
  · rw [← hl,getElem?_concat_length,if_pos rfl]
  · rw [getElem?_eq_none (by simp; omega),if_neg (by omega),getElem?_eq_none (by omega)]

variable {q : EventQueue}

lemma deadlinesInFlight_dispatches {q' : EventQueue} {b : FlushBatch}
    (hd : Dispatches q now q' b) (h : DeadlinesInFlight q) : DeadlinesInFlight q' := by
  intro ch d hl
  rw [hd.channels,Finset.mem_insert]
  rw [hd.deadlines,lookup_insert_eq] at hl
  by_cases hch : ch = b.channelId
  · exact .inl hch
  · exact .inr (h ch d (by simpa [hch] using hl))

lemma exclusive_dispatches {b : FlushBatch} (h : Exclusive w) (hd : Dispatches w.queue now q b) :
    Exclusive { w with
      queue := q
      turns := w.turns ++ [⟨b,now + w.queue.inFlightDeadline,false,false⟩]
      latest := w.latest.insert b.channelId w.turns.length } := by
  refine ⟨?_,?_,deadlinesInFlight_dispatches hd h.deadlines⟩
  · intro i fl hfl ho hlive
    simp only [World.flights] at hfl
    rw [flights_append] at hfl
    rw [lookup_insert_eq]
    by_cases hi : i = w.turns.length
    · rw [if_pos hi] at hfl
      obtain rfl := some.inj hfl
      refine ⟨by simp [Turn.flight,hi],?_,?_⟩
      · rw [hd.channels]
        exact Finset.mem_insert_self _ _
      · rw [hd.deadlines]
        exact AList.lookup_insert _
    · rw [if_neg hi] at hfl
      obtain ⟨hl,hin⟩ := h.open_inFlight i fl hfl ho hlive
      have hne : fl.channelId ≠ b.channelId := fun heq => hd.idle (heq ▸ hin.1)
      rw [if_neg hne]
      exact ⟨hl,inFlight_dispatches hd hin⟩
  · intro ch i hl
    simp only [World.flights]
    rw [flights_append]
    rw [lookup_insert_eq] at hl
    by_cases hch : ch = b.channelId
    · rw [if_pos hch,some.injEq] at hl
      exact ⟨_,if_pos hl.symm,hch.symm⟩
    · rw [if_neg hch] at hl
      obtain ⟨fl,hfl,hc⟩ := h.latest_channel ch i hl
      have hlt : i < w.flights.length := (List.getElem?_eq_some_iff.1 hfl).1
      have hne : i ≠ w.turns.length := by simp [World.flights] at hlt; omega
      exact ⟨fl,by rw [if_neg hne,hfl],hc⟩

lemma exclusive_flush (it : Iteration) (h : Exclusive w) (hc : w.clock = now) :
    Exclusive (w.flush now it) := by
  have he := exclusive_expiring it.deadlines h hc
  simp only [World.flush]
  cases hb : (w.queue.flushNext now it).2 with
  | none =>
    rw [flushNext_none hb]
    exact he
  | some b =>
    have hd := flushNext_some hb
    have hnew := exclusive_dispatches he hd
    have hde : (w.expiring now it.deadlines).queue.inFlightDeadline = w.queue.inFlightDeadline :=
      inFlightDeadline_expire it.deadlines
    rw [hde] at hnew
    exact hnew

lemma set_same {α : Type} {l : List α} {i : ℕ} {x : α} (h : l[i]? = some x) : l.set i x = l := by
  obtain ⟨hlt,hx⟩ := List.getElem?_eq_some_iff.1 h
  rw [← hx]
  exact set_getElem_self hlt

lemma sameFlights_settleBatch (now : ℕ) (b : FlushBatch) (out : Outcome) :
    SameFlights w (w.settleBatch B now b out) := by
  cases out with
  | requeue nanos =>
    simp only [World.settleBatch,requeue]
    by_cases hd : maxRetries < w.queue.attempt b.channelId
    · simp only [if_pos hd]
      exact ⟨le_rfl,rfl,rfl,rfl,rfl⟩
    · simp only [if_neg hd]
      exact ⟨le_rfl,rfl,rfl,rfl,rfl⟩
  | _ => exact ⟨le_rfl,rfl,rfl,rfl,rfl⟩

lemma sameFlights_settle (i : ℕ) (out : Outcome) : SameFlights w (w.settle B now i out) := by
  unfold World.settle
  split
  · exact ⟨le_rfl,rfl,rfl,rfl,rfl⟩
  next turn ht =>
    split
    · exact ⟨le_rfl,rfl,rfl,rfl,rfl⟩
    · have hs := sameFlights_settleBatch (B := B) (w := w) now turn.batch out
      refine ⟨hs.clock,?_,hs.latest,hs.channels,hs.deadlines⟩
      simp only [World.flights,map_set]
      exact set_same (by simp [ht,Turn.flight])

lemma flights_complete {i : ℕ} {turn : Turn} (ht : w.turns[i]? = some turn) (j : ℕ) :
    ((w.turns.set i { turn with completed := true }).map Turn.flight)[j]? =
      if i = j then some { turn.flight with completed := true } else w.flights[j]? := by
  have hlt : i < w.turns.length := (List.getElem?_eq_some_iff.1 ht).1
  rw [map_set,getElem?_set]
  simp [World.flights,hlt,Turn.flight]

/-- A completion releases the channel of the turn. Any other turn of that channel is over, as the
completed one was the last, or nothing was in flight. -/
lemma exclusive_complete (i : ℕ) (h : Exclusive w) (how : CompletesOwn w (.complete i)) :
    Exclusive (w.complete now i) := by
  unfold World.complete
  split
  · exact h
  next turn ht =>
    split
    · exact h
    next hco =>
      have ho : turn.completed = false := by simpa using hco
      have hr := markComplete_releases (q := w.queue) now turn.batch.channelId
      refine ⟨?_,?_,deadlinesInFlight_releases hr h.deadlines⟩
      · intro j fl hj hs hlive
        simp only [World.flights] at hj
        rw [flights_complete ht] at hj
        by_cases hij : i = j
        · rw [if_pos hij] at hj
          obtain rfl := some.inj hj
          simp at hs
        · rw [if_neg hij] at hj
          obtain ⟨hl,hin⟩ := h.open_inFlight j fl hj hs hlive
          have hne : fl.channelId ≠ turn.batch.channelId := by
            intro heq
            rcases how turn ht ho with hla | hidle
            · rw [← heq,hl,some.injEq] at hla
              exact hij hla.symm
            · exact hidle (heq ▸ hin.1)
          exact ⟨hl,inFlight_releases hr hne hin⟩
      · intro ch j hl
        obtain ⟨fl,hj,hc⟩ := h.latest_channel ch j hl
        simp only [World.flights]
        rw [flights_complete ht]
        by_cases hij : i = j
        · subst hij
          obtain rfl : turn.flight = fl := by simpa [World.flights,ht] using hj
          exact ⟨_,if_pos rfl,hc⟩
        · exact ⟨fl,by rw [if_neg hij,hj],hc⟩

lemma extend_inFlightChannels (q : EventQueue) (ch : Uuid) (secs : ℕ) :
    (q.extendInFlightDeadline now ch secs).inFlightChannels = q.inFlightChannels := by
  simp only [extendInFlightDeadline]
  split
  · rfl
  · split <;> rfl

lemma extend_lookup (now : ℕ) (q : EventQueue) (ch : Uuid) (secs : ℕ) (a : Uuid) :
    (a ≠ ch → (q.extendInFlightDeadline now ch secs).inFlightDeadlines.lookup a =
      q.inFlightDeadlines.lookup a) ∧
    ((q.extendInFlightDeadline now ch secs).inFlightDeadlines.lookup a = none ↔
      q.inFlightDeadlines.lookup a = none) := by
  simp only [extendInFlightDeadline]
  split
  · exact ⟨fun _ => rfl,Iff.rfl⟩
  next cur hc =>
    split
    · by_cases hch : a = ch
      · subst hch
        simp [hc]
      · simp [hch]
    · exact ⟨fun _ => rfl,Iff.rfl⟩

lemma deadlinesInFlight_extend (now : ℕ) (ch : Uuid) (secs : ℕ) (h : DeadlinesInFlight q) :
    DeadlinesInFlight (q.extendInFlightDeadline now ch secs) := by
  intro a d hl
  rw [extend_inFlightChannels]
  cases hb : q.inFlightDeadlines.lookup a with
  | none => simp [(extend_lookup now q ch secs a).2.2 hb] at hl
  | some d' => exact h a d' hb

lemma inFlight_extend {ch a : Uuid} {secs d : ℕ} (hne : a ≠ ch)
    (h : InFlight q a d) : InFlight (q.extendInFlightDeadline now ch secs) a d := by
  refine ⟨?_,?_⟩
  · rw [extend_inFlightChannels]
    exact h.1
  · rw [(extend_lookup now q ch secs a).1 hne]
    exact h.2

lemma flights_extend (i dl j : ℕ) :
    ((w.turns.modify i fun turn => { turn with deadline := dl }).map Turn.flight)[j]? =
      (w.flights[j]?).map fun fl =>
        if i = j then { fl with deadline := dl } else fl := by
  simp only [World.flights,getElem?_map,getElem?_modify]
  cases w.turns[j]? with
  | none => rfl
  | some turn =>
    by_cases hij : i = j
    · simp [hij,Turn.flight]
    · simp [hij]

/-- The last turn of the channel gets the deadline that the channel now has. -/
lemma exclusive_extend (cid : Uuid) (secs : ℕ) (h : Exclusive w) :
    Exclusive (w.extend now cid secs) := by
  have hd := deadlinesInFlight_extend now cid secs h.deadlines
  simp only [World.extend]
  split
  next dl i hde hl =>
    obtain ⟨last,hla,rfl⟩ := h.latest_channel cid i hl
    refine ⟨?_,?_,hd⟩
    · intro j fl hj ho hlive
      simp only [World.flights] at hj
      rw [flights_extend] at hj
      by_cases hij : i = j
      · subst hij
        rw [hla] at hj
        simp only [map_some,some.injEq] at hj
        obtain rfl := hj
        exact ⟨hl,hd _ _ hde,hde⟩
      · simp only [if_neg hij,Option.map_id'] at hj
        obtain ⟨hl',hin⟩ := h.open_inFlight j fl hj ho hlive
        have hne : fl.channelId ≠ last.channelId := by
          intro heq
          rw [heq,hl,some.injEq] at hl'
          exact hij hl'
        exact ⟨hl',inFlight_extend hne hin⟩
    · intro ch j hl'
      obtain ⟨fl,hj,hch⟩ := h.latest_channel ch j hl'
      simp only [World.flights]
      rw [flights_extend,hj]
      refine ⟨_,rfl,?_⟩
      split <;> exact hch
  next hn =>
    refine ⟨?_,h.latest_channel,hd⟩
    intro j fl hj ho hlive
    obtain ⟨hl,hin⟩ := h.open_inFlight j fl hj ho hlive
    refine ⟨hl,inFlight_extend ?_ hin⟩
    rintro rfl
    cases ha : (w.queue.extendInFlightDeadline now fl.channelId secs).inFlightDeadlines.lookup
        fl.channelId with
    | none => exact absurd hin.2 (by simp [(extend_lookup now w.queue _ secs _).2.1 ha])
    | some d => exact hn d j ha hl

lemma step_eq_apply (op : Op) : w.step B now op = World.apply B now { w with clock := now } op := by
  cases op with
  | push e =>
    simp only [World.step,World.apply,World.push]
    split <;> rfl
  | flushNext it =>
    simp only [World.step,World.apply,World.flush]
    split <;> rfl
  | settle i out =>
    simp only [World.step,World.apply,World.settle]
    split
    · rfl
    · split
      · rfl
      · cases out with
        | requeue nanos =>
          simp only [World.settleBatch]
          split <;> rfl
        | _ => rfl
  | complete i =>
    simp only [World.step,World.apply,World.complete]
    split
    · rfl
    · split <;> rfl
  | extend ch secs =>
    simp only [World.step,World.apply,World.extend]
    split <;> rfl
  | _ => rfl

lemma exclusive_step (op : Op) (h : Exclusive w) (ht : Timely w now op) : Exclusive (w.step B now op) := by
  have hn := exclusive_clock h ht.1
  rw [step_eq_apply]
  cases op with
  | push e =>
    simp only [World.apply,World.push]
    split
    · refine exclusive_of_same hn ⟨le_rfl,rfl,rfl,?_,?_⟩
      · simp only [EventQueue.push]
        split <;> rfl
      · simp only [EventQueue.push]
        split <;> rfl
    · exact hn
  | flushNext it => exact exclusive_flush it hn rfl
  | hasFlushableWork it => exact exclusive_expiring it.deadlines hn rfl
  | settle i out => exact exclusive_of_same hn (sameFlights_settle i out)
  | complete i => exact exclusive_complete i hn ht.2
  | extend ch secs => exact exclusive_extend ch secs hn
  | withhold ch eid =>
    refine exclusive_of_same hn ⟨le_rfl,rfl,rfl,?_,?_⟩
    · simp only [World.apply,markNativeSteerPending]
      split <;> rfl
    · simp only [World.apply,markNativeSteerPending]
      split <;> rfl
  | release ch eid =>
    refine exclusive_of_same hn ⟨le_rfl,rfl,rfl,?_,?_⟩
    · simp only [World.apply,releaseNativeSteer]
      split <;> rfl
    · simp only [World.apply,releaseNativeSteer]
      split <;> rfl
  | remove | drain | compact => exact exclusive_of_same hn ⟨le_rfl,rfl,rfl,rfl,rfl⟩

end

/-- In every run in which the clock does not go back and only the batch in flight in a channel is
completed: a flush returns a batch only for a channel all of whose turns are completed or past
their own deadlines. -/
theorem one_turn_per_channel {B : Backoff} {mode : DedupMode} {secs : ℕ} {w : World}
    (h : Reached B Timely (World.start ((EventQueue.new mode).withInFlightDeadline secs)) w)
    {now : ℕ} {it : Iteration} {batch : FlushBatch} (hclock : w.clock ≤ now)
    (hflush : (w.queue.flushNext now it).2 = some batch) {turn : Turn} (hturn : turn ∈ w.turns)
    (hchannel : turn.batch.channelId = batch.channelId) (hopen : turn.completed = false) :
    turn.deadline ≤ now := by
  have he : Exclusive w := by
    refine h.invariant ⟨?_,?_,?_⟩ fun w now op hw ht => exclusive_step op hw ht
    · simp [World.start,World.flights]
    · simp [World.start]
    · simp [World.start,DeadlinesInFlight,EventQueue.new,withInFlightDeadline]
  by_contra hlive
  obtain ⟨i,hi⟩ := mem_iff_getElem?.1 hturn
  have hflight : w.flights[i]? = some turn.flight := by simp [World.flights,hi]
  have hb : w.clock < turn.flight.deadline := by
    show w.clock < turn.deadline
    omega
  obtain ⟨-,hin⟩ := he.open_inFlight i turn.flight hflight hopen hb
  have hs := @inFlight_expire _ _ _ _ it.deadlines hin (Nat.lt_of_not_le hlive)
  exact (flushNext_some hflush).idle (hchannel ▸ hs.1)

def stuckTurn : List (ℕ × Op) :=
  [(0,.push (requested firstRequest 0)),(1,.flushNext anyOrder),(2,.push (requested secondRequest 2))]

def stuckDeadline : ℕ := 1 + 7300*nanosPerSec

def requestTurn (event : QueuedEvent) (deadline : ℕ) : Turn :=
  ⟨⟨requestChannel,[event.batched],[],none⟩,deadline,false,false⟩

/-- The channel is flushed again when the deadline has passed. -/
theorem one_turn_per_channel_stuck :
    ((idleHarness.run fixedBackoff stuckTurn).queue.flushNext stuckDeadline anyOrder).2 =
      some (requestTurn (requested secondRequest 2) 0).batch ∧
    requestTurn (requested firstRequest 0) stuckDeadline ∈ (idleHarness.run fixedBackoff stuckTurn).turns ∧
    (requestTurn (requested firstRequest 0) stuckDeadline).deadline ≤ stuckDeadline := by
  have hf : ((idleHarness.run fixedBackoff stuckTurn).queue.flushNext stuckDeadline anyOrder).2 =
      some (requestTurn (requested secondRequest 2) 0).batch := by decide +kernel
  have hturn : requestTurn (requested firstRequest 0) stuckDeadline ∈
      (idleHarness.run fixedBackoff stuckTurn).turns := by decide +kernel
  refine ⟨hf,hturn,one_turn_per_channel (reached_run .start ?_) ?_ hf hturn rfl rfl⟩
  · exact ⟨⟨le_rfl,trivial⟩,⟨Nat.zero_le 1,trivial⟩,⟨Nat.le_succ 1,trivial⟩,trivial⟩
  · decide +kernel

def thirdRequest : Event where
  pubkey := firstKey
  createdAt := 1700000020
  kind := 9
  tags := [⟨"h",["6f9619ff-8b86-4011-b42d-00cf4fc964ff"]⟩]
  content := "thanks"
  id := .ofNat 32 0x914e5ab581543a8518db753099c741fd58225d17f91f270d46313ce44dadccf4
  sig := .ofNat 64 0x3627072273d6d155740cbbd783c0e3c2272e109249409366e0c46e778f0e610fba4f4efc8f7bdea37ad2244cc42cf3e268eea63820af8881355b3fbfa3aef446

/-- The stuck batch is completed after all, when the channel has been flushed again: the completion
releases the channel of the second batch, and a third batch is returned while the second is
neither completed nor past its deadline. -/
theorem late_completion_opens_channel : let w := idleHarness.run fixedBackoff (stuckTurn ++
      [(stuckDeadline,.flushNext anyOrder),(stuckDeadline + 1,.push (requested thirdRequest 3)),
        (stuckDeadline + 2,.complete 0)])
    (w.queue.flushNext (stuckDeadline + 3) anyOrder).2 =
      some (requestTurn (requested thirdRequest 3) 0).batch ∧
      requestTurn (requested secondRequest 2) (stuckDeadline + 7300*nanosPerSec) ∈ w.turns ∧
      stuckDeadline + 3 < stuckDeadline + 7300*nanosPerSec := by
  decide +kernel

end BuzzSolo.Acp
