import BuzzSolo.AcpRelaySteps

/-! What the functions of the background task do on a live connection, one lemma for each: those
that only work on it, and those that deal with a command. -/
namespace BuzzSolo.AcpRelay

open HashTable Suspension BoundedQueue List

variable {E : Env} {w : World} {α β : Type}

section

variable {S : Site → World → Prop}

@[simp] lemma ends_ask {Q : Answer → World → Prop} :
    Ends (ask E) w Q S ↔ Q (E.answers w.tick) { w with tick := w.tick + 1 } := Iff.rfl

variable {Q : Unit → World → Prop}

@[simp] lemma ends_note {n : Note} : Ends (note n) w Q S ↔ Q () { w with history := n :: w.history } :=
  Iff.rfl

@[simp] lemma ends_readState {Q : BgState → World → Prop} : Ends readState w Q S ↔ Q w.state w := Iff.rfl

@[simp] lemma ends_modifyState {f : BgState → BgState} :
    Ends (modifyState f) w Q S ↔ Q () { w with state := f w.state } := Iff.rfl

lemma ends_waitFor {site : Site} {accept : Input → Option α} {Q : α → World → Prop} (hS : S site w)
    (hQ : ∀ a rest, Q a { w with inputs := rest }) : Ends (waitFor site accept) w Q S := by
  unfold Ends waitFor
  cases w.inputs with
  | nil => exact hS
  | cons input rest =>
    dsimp only
    cases accept input with
    | none => exact hS
    | some a => exact hQ a rest

/-- Once the gate is found open it stays open until it is armed again. -/
lemma ends_checkRateGate {Q : Option ℕ → World → Prop}
    (h : ∀ r gate tick, (r = none → gate = none) → (w.state.rateLimitGate = none → r = none) →
      Q r { w with state := { w.state with rateLimitGate := gate }, tick := tick }) :
    Ends (checkRateGate E) w Q S := by
  simp only [checkRateGate,ends_bind,ends_readState]
  cases hg : w.state.rateLimitGate with
  | none => exact h none w.state.rateLimitGate w.tick (fun _ => hg) fun _ => rfl
  | some dl =>
    simp only [ends_bind,ends_ask]
    split
    · exact h (some dl) w.state.rateLimitGate (w.tick + 1) (by simp) (by simp [hg])
    · exact h none none (w.tick + 1) (fun _ => rfl) fun _ => rfl

variable {og : Origin}

lemma ends_wsSend {fm : Frame} {Q : Bool → World → Prop}
    (hs : ∀ tick, Q true { w with tick := tick, history := .sent og fm :: w.history })
    (hf : ∀ tick, Q false { w with tick := tick }) : Ends (wsSend E og fm) w Q S := by
  simp only [wsSend,ends_bind,ends_ask]
  split
  · exact hs _
  · exact hf _

lemma ends_sendSubscribe {ch : Uuid} {since : Option ℕ} {filter : ChannelFilter} {Q : Bool → World → Prop}
    (hs : ∀ tick req, (∀ m, since = some m → ReqFilter.since req = m - sinceSkewSecs) →
      Q true { w with tick := tick, history := .sent og (.req (.channel ch) req) :: w.history })
    (hf : ∀ tick, Q false { w with tick := tick }) : Ends (sendSubscribe E og ch since filter) w Q S := by
  refine ends_wsSend (fun tick => hs tick _ ?_) hf
  rintro m rfl
  rfl

end

/-- A job that never waits and only does work on the live connection. -/
def Tame (m : Job α) : Prop := ∀ w, Ends m w (fun _ v => Works w.core v.core) fun _ _ => False

section

variable {m : Job α} {f : α → Job β}

lemma Tame.ends {Q : α → World → Prop} {S : Site → World → Prop} (h : Tame m)
    (hQ : ∀ a v, Works w.core v.core → Q a v) : Ends m w Q S :=
  (h w).mono hQ fun _ _ hf => hf.elim

lemma Tame.bind (hm : Tame m) (hf : ∀ a, Tame (f a)) : Tame (m >>= f) := by
  intro w
  rw [ends_bind]
  exact hm.ends fun a v hv => (hf a).ends fun _ _ hv' => hv.trans hv'

lemma tame_pure (a : α) : Tame (pure a : Job α) := fun w => Works.refl w.core

lemma tame_ask : Tame (ask E) := fun w => Works.refl w.core

lemma tame_readState : Tame readState := fun w => Works.refl w.core

lemma tame_modifyState {g : BgState → BgState}
    (h : ∀ w : World, Works w.core { w with state := g w.state }.core) : Tame (modifyState g) := h

/-- A change of the state that nothing of the core shows. -/
lemma tame_touch {g : BgState → BgState}
    (h : ∀ w : World, { w with state := g w.state }.core = w.core) (a : α) :
    Tame (do modifyState g; pure a) :=
      .bind (tame_modifyState fun w => h w ▸ .refl w.core) fun _ => tame_pure a

lemma tame_note {n : Note} (h : n.Plain) : Tame (note n) := fun _ => (Work.plain h).works

lemma tame_wsSend {origin : Origin} {fm : Frame}
    (h : ∀ ch filter, fm ≠ .req (.channel ch) filter) : Tame (wsSend E origin fm) := by
  intro w
  exact ends_wsSend (fun _ => (Work.plain (n := .sent origin fm) h).works) fun _ => .refl _

lemma tame_checkRateGate : Tame (checkRateGate E) := fun _ => ends_checkRateGate fun _ _ _ _ _ => .refl _

lemma tame_setRateLimitGate (retrySecs : ℕ) : Tame (setRateLimitGate E retrySecs) := by
  refine .bind tame_ask fun ans => .bind tame_readState fun s => ?_
  exact tame_touch (fun _ => rfl) _

lemma tame_signalLoss : Tame (signalLoss E) := .bind tame_ask fun _ => tame_pure _

lemma tame_sendMembershipSubscribe (origin : Origin) (since : Option ℕ) :
    Tame (sendMembershipSubscribe E origin since) := .bind tame_ask fun _ => tame_wsSend (by simp)

lemma tame_sendObserverControlSubscribe (origin : Origin) :
    Tame (sendObserverControlSubscribe E origin) := .bind tame_ask fun _ => tame_wsSend (by simp)

lemma tame_after_send {send : Job Bool} {sent failed : Job α} (h : Tame send) (hs : Tame sent)
    (hf : Tame failed) : Tame (do if ← send then sent else failed) := by
  refine .bind h fun ok => ?_
  split
  · exact hs
  · exact hf

end

section

variable {c : Core} {added inFlight gated evs : List Event}

/-- The evicted frames are cut out of the queues in one piece. -/
lemma Shift.of_split (fr back : List Event) (hb : c.inFlight ++ c.gated ++ added = fr ++ evs ++ back)
    (ha : inFlight ++ gated = fr ++ back)
    (hc : c.inFlight.length ≤ gatedObserverQueueCap → c.gated.length ≤ gatedObserverQueueCap →
      inFlight.length ≤ gatedObserverQueueCap ∧ gated.length ≤ gatedObserverQueueCap) :
    Shift c added inFlight gated evs where
  order := by
    rw [hb,ha]
    exact (sublist_append_left fr evs).append (.refl back)
  account := by
    rw [hb,ha,append_assoc,append_assoc]
    exact (perm_append_comm).append_left fr
  caps := hc

lemma shift_park (c : Core) (e : Event) :
    Shift c [e] c.inFlight (push gatedObserverQueueCap c.gated e).1
      (push gatedObserverQueueCap c.gated e).2 := by
  refine .of_split c.inFlight (push gatedObserverQueueCap c.gated e).1 ?_ rfl ?_
  · rw [append_assoc,append_assoc,push_append]
  · exact fun hfl hg => ⟨hfl,length_push _ _ gatedObserverQueueCap_pos hg⟩

lemma shift_track (c : Core) (e : Event) (hg : c.gated = []) :
    Shift c [e] (push gatedObserverQueueCap c.inFlight e).1 c.gated
      (push gatedObserverQueueCap c.inFlight e).2 := by
  refine .of_split [] (push gatedObserverQueueCap c.inFlight e).1 ?_ ?_ ?_
  · rw [hg,append_nil,nil_append,push_append]
  · rw [hg,append_nil,nil_append]
  · exact fun hfl hl => ⟨length_push _ _ gatedObserverQueueCap_pos hfl,hl⟩

lemma shift_drain (c : Core) (e : Event) (rest : List Event) (hg : c.gated = e :: rest) :
    Shift c [] (push gatedObserverQueueCap c.inFlight e).1 rest
      (push gatedObserverQueueCap c.inFlight e).2 := by
  refine .of_split [] ((push gatedObserverQueueCap c.inFlight e).1 ++ rest) ?_ rfl ?_
  · rw [nil_append,← append_assoc,push_append,hg,append_nil,append_assoc]
    rfl
  · intro hfl hl
    rw [hg,length_cons] at hl
    exact ⟨length_push _ _ gatedObserverQueueCap_pos hfl,by omega⟩

lemma shift_requeue (c : Core) : Shift c [] [] (trim gatedObserverQueueCap (c.inFlight.foldr cons c.gated)).1
      (trim gatedObserverQueueCap (c.inFlight.foldr cons c.gated)).2 := by
  refine .of_split [] (trim gatedObserverQueueCap (c.inFlight.foldr cons c.gated)).1 ?_ rfl ?_
  · rw [nil_append,trim_append,foldr_cons_eq_append,append_nil,map_id']
  · exact fun _ _ => ⟨Nat.zero_le _,length_trim _⟩

end

section

variable {ch : Uuid}

lemma recordEvent_new {s t : BgState} {e : Event} (h : s.recordEvent ch e = (t,true)) :
    ∃ seenIds, t = { s with
      seenIds := seenIds, lastSeen := BgState.raise s.lastSeen ch e.createdAt } := by
  unfold BgState.recordEvent at h
  split at h
  · simp at h
  next seenIds _ => exact ⟨seenIds,(congrArg Prod.fst h).symm⟩

lemma channelSince_of_mark {m : ℕ} (h : w.core.mark ch = some m) :
    w.state.channelSince ch = some m := by
  cases hl : w.state.lastSeen.lookup ch with
  | some l =>
    cases hd : w.state.channelDroppedSince.lookup ch with
    | some | none => simpa [Core.mark,BgState.channelSince,World.core,hl,hd] using h
  | none =>
    cases hd : w.state.channelDroppedSince.lookup ch with
    | some d => simpa [Core.mark,BgState.channelSince,World.core,hl,hd] using h
    | none => simp [Core.mark,World.core,hl,hd] at h

lemma ends_replay {filter : ChannelFilter} {Q : Bool → World → Prop}
    {S : Site → World → Prop} (hfilter : w.state.activeFilters.lookup ch = some filter)
    (hs : ∀ tick req, Works w.core { w.core with
        droppedSince := w.core.droppedSince.erase ch
        history := .sent .replay (.req (.channel ch) req) :: w.history } → Q true { w with
        tick := tick, history := .sent .replay (.req (.channel ch) req) :: w.history })
    (hf : ∀ tick, Q false { w with tick := tick }) :
    Ends (sendSubscribe E .replay ch (w.state.channelSince ch) filter) w Q S := by
  refine ends_sendSubscribe (fun tick req hsince => hs tick req ?_) hf
  refine (Work.replayed ch req ?_ ?_).works
  · simp [World.core,hfilter]
  · exact fun m hm => hsince m (channelSince_of_mark hm)

lemma tame_requeue : Tame (onQueues fun s => s.requeueObserverInFlight) :=
  fun w => (Work.shifted (shift_requeue w.core)).works

lemma tame_handleChannelEvent (ch : Uuid) (e : Event) : Tame (handleChannelEvent E ch e) := by
  intro w
  simp only [handleChannelEvent,ends_bind,ends_readState]
  rcases hr : w.state.recordEvent ch e with ⟨recorded,_ | _⟩
  · exact .refl _
  · obtain ⟨seenIds,rfl⟩ := recordEvent_new hr
    simp only [offer,ends_bind,ends_modifyState,ends_ask]
    cases (E.answers w.tick).offered with
    | ok => exact (Work.received ch e .ok).works
    | full => exact (Work.received ch e .full).works
    | closed => exact (Work.received ch e .closed).works

lemma tame_offer {sub : Subscription} (e : Event) (h : ∀ ch, sub ≠ .channel ch) : Tame (offer E sub e) :=
  .bind tame_ask fun ans => .bind (tame_note (n := .offered sub e ans.offered) h)
    fun _ => tame_pure _

lemma tame_handleMembershipEvent (e : Event) : Tame (handleMembershipEvent E e) := by
  unfold handleMembershipEvent
  split
  · exact tame_pure _
  · refine .bind tame_readState fun s => ?_
    split
    · exact tame_pure _
    · refine .bind (tame_modifyState fun w => .refl w.core) fun _ => ?_
      refine .bind (tame_offer e (by simp)) fun out => ?_
      cases out with
      | ok | full => exact tame_touch (fun _ => rfl) _
      | closed => exact tame_pure _

lemma tame_handleEvent (sid : String) (e : Event) : Tame (handleEvent E sid e) := by
  unfold handleEvent
  split
  · exact .bind (tame_offer e (by simp)) fun _ => tame_pure _
  · split
    · exact tame_handleMembershipEvent e
    · split
      · exact tame_handleChannelEvent _ e
      · exact tame_pure _

lemma tame_handleNotice (msg : String) : Tame (handleNotice E msg) := by
  unfold handleNotice
  split
  · exact .bind (tame_setRateLimitGate _) fun _ => .bind tame_requeue fun _ => tame_pure _
  · exact tame_pure _

lemma tame_dropChannelOnAccessDenied (subId msg : String) : Tame (dropChannelOnAccessDenied E subId msg) := by
  unfold dropChannelOnAccessDenied
  split
  · split
    · exact tame_pure _
    next ch _ => exact fun w => (Work.left ch (.denied ch) (.inr rfl)).works
  · exact tame_pure _

lemma tame_parkRateLimited (sid : String) (dl : ℕ) : Tame (parkRateLimited E sid dl) := by
  unfold parkRateLimited
  split
  next ch _ => exact tame_modifyState fun w => (Work.parked ch dl).works
  · split
    · exact tame_modifyState fun w => .refl w.core
    · split
      · exact tame_modifyState fun w => .refl w.core
      · exact tame_pure _

lemma tame_resubscribeClosedChannel (ch : Uuid) : Tame (resubscribeClosedChannel E ch) := by
  intro w
  simp only [resubscribeClosedChannel,ends_bind,ends_readState]
  cases ha : w.state.activeSubscriptions.lookup ch with
  | none => exact .refl _
  | some subId =>
    cases hf : w.state.activeFilters.lookup ch with
    | none => exact .refl _
    | some filter =>
      simp only [ends_bind]
      refine ends_replay hf (fun tick req hw => ?_) fun tick => .refl _
      exact hw.step (.renewed ch (channelSubId ch) (by simp [World.core,ha]))

lemma tame_resubscribeClosed (sid : String) : Tame (resubscribeClosed E sid) := by
  unfold resubscribeClosed
  split
  · refine tame_after_send (tame_sendObserverControlSubscribe .replay) ?_ (tame_pure _)
    exact tame_touch (fun _ => rfl) _
  · split
    · refine .bind tame_readState fun s => ?_
      refine tame_after_send (tame_sendMembershipSubscribe .replay _) ?_ (tame_pure _)
      exact tame_touch (fun _ => rfl) _
    · split
      · exact tame_resubscribeClosedChannel _
      · exact tame_pure _

lemma tame_handleClosed (sid msg : String) : Tame (handleClosed E sid msg) := by
  refine tame_after_send (tame_dropChannelOnAccessDenied sid msg) (tame_pure _) ?_
  split
  · refine .bind (tame_setRateLimitGate _) fun dl => ?_
    exact .bind (tame_parkRateLimited sid dl) fun _ => tame_pure _
  · split
    · exact tame_pure _
    · exact tame_resubscribeClosed sid

lemma tame_acknowledge (eid : String) : Tame (acknowledge eid) := by
  intro w
  cases hf : w.state.observerInFlight.find? fun e => decide (e.id.toHex = eid) with
  | none =>
    have hk : (w.state.observerInFlight.eraseP fun e => decide (e.id.toHex = eid)) =
        w.state.observerInFlight := eraseP_of_forall_not (find?_eq_none.1 hf)
    simp only [acknowledge,ends_update,BgState.acknowledgeObserverFrame,hf,hk]
    exact .refl _
  | some e =>
    obtain ⟨hid,bef,aft,hs,hbe⟩ := find?_eq_some_iff_append.1 hf
    have he : (w.state.observerInFlight.eraseP fun e => decide (e.id.toHex = eid)) = bef ++ aft := by
      rw [hs,eraseP_append_right _ (fun b hb => by simpa using hbe b hb),eraseP_cons,hid]
      rfl
    simp only [acknowledge,ends_update,BgState.acknowledgeObserverFrame,hf,he]
    exact (Work.acknowledged bef aft eid e hs (by simpa using hid)).works

lemma tame_handleOk (eid : String) (acc : Bool) (msg : String) : Tame (handleOk eid acc msg) := by
  unfold handleOk
  split
  · exact tame_pure _
  · exact .bind (tame_acknowledge eid) fun _ => tame_pure _

lemma tame_handleRelayMessage (msg : RelayMessage) : Tame (handleRelayMessage E msg) := by
  cases msg with
  | event sid event => exact tame_handleEvent sid event
  | ok eid acc msg => exact tame_handleOk eid acc msg
  | eose sid => exact tame_pure _
  | closed sid msg => exact tame_handleClosed sid msg
  | notice msg => exact tame_handleNotice msg
  | auth challenge => exact tame_wsSend (by simp)

lemma tame_handleWsMessage (msg : Message) : Tame (handleWsMessage E msg) := by
  cases msg with
  | text parsed =>
    cases parsed with
    | none => exact tame_pure _
    | some message => exact tame_handleRelayMessage message
  | ping data => exact tame_wsSend (by simp)
  | pong | close | other => exact tame_pure _

lemma tame_processHandshakeBuffer (buf : List RelayMessage) : Tame (processHandshakeBuffer E buf) := by
  induction buf with
  | nil => exact tame_pure _
  | cons msg rest ih =>
    cases msg with
    | auth challenge => exact ih
    | _ => exact tame_after_send (tame_handleRelayMessage _) ih (tame_pure _)

end

section

lemma tame_drainGatedFrames (budget sent : ℕ) : Tame (drainGatedFrames E budget sent) := by
  induction budget generalizing sent with
  | zero => exact tame_pure _
  | succ budget ih =>
    refine .bind tame_checkRateGate fun gate => ?_
    cases gate with
    | some dl => exact tame_pure _
    | none =>
      intro w
      simp only [ends_bind,ends_readState]
      cases hg : w.state.gatedObserverPending with
      | nil => exact .refl _
      | cons e rest =>
        simp only [ends_bind]
        refine ends_wsSend (fun tick => ?_) fun tick => .refl _
        have hs : Works w.core (w.core.noted (.sent .replay (.event e))) :=
          (Work.plain (n := .sent .replay (.event e)) (by simp [Note.Plain])).works
        refine (ih (sent + 1)).ends fun _ v hv => ?_
        exact (hs.step (.shifted (shift_drain (w.core.noted _) e rest hg))).trans hv

lemma tame_summariseDropped : Tame summariseDropped := by
  intro w
  simp only [summariseDropped,ends_bind,ends_readState]
  split
  · exact Work.summarised.works
  · exact .refl _

lemma tame_drainGatedObserverPending (budget : ℕ) : Tame (drainGatedObserverPending E budget) :=
  .bind (tame_drainGatedFrames budget 0) fun _ => .bind tame_summariseDropped fun _ => tame_pure _

lemma live_sent (origin : Origin) (ch : Uuid) (req : ReqFilter) (h : List Note) :
    live ch (.sent origin (.req (.channel ch) req) :: h) = true := by
  simp [live]

lemma tame_drainPendingChannel (ch : Uuid) : Tame (drainPendingChannel E ch) := by
  refine .bind tame_checkRateGate fun gate => ?_
  cases gate with
  | some dl =>
    exact .bind (tame_modifyState fun w => (Work.parked ch dl).works) fun _ => tame_pure _
  | none =>
    intro w
    simp only [ends_bind,ends_readState]
    cases hf : w.state.activeFilters.lookup ch with
    | none => exact (Work.unparked ch (.inr hf)).works
    | some filter =>
      simp only [ends_bind]
      refine ends_replay hf (fun tick req hw => ?_) fun tick => ?_
      · exact hw.step (.unparked ch (.inl (live_sent _ _ _ _)))
      · exact (Work.parked ch _).works

lemma tame_drainRetryChannel (ch : Uuid) : Tame (drainRetryChannel E ch) := by
  refine .bind tame_checkRateGate fun gate => ?_
  cases gate with
  | some dl =>
    refine .bind (tame_modifyState fun w => ?_) fun _ => tame_pure _
    exact (Work.parked ch dl).works.step (.unretried ch (.inr (by simp)))
  | none =>
    intro w
    simp only [ends_bind,ends_readState]
    cases hf : w.state.activeFilters.lookup ch with
    | none => exact (Work.unretried ch (.inl (.inr hf))).works
    | some filter =>
      simp only [ends_bind]
      refine ends_replay hf (fun tick req hw => ?_) fun tick => .refl _
      exact hw.step (.unretried ch (.inl (.inl (live_sent _ _ _ _))))

lemma tame_drainEach {drain : Uuid → Job ℕ} (h : ∀ ch, Tame (drain ch)) (channels : List Uuid) :
    Tame (drainEach drain channels) := by
  induction channels with
  | nil => exact tame_pure _
  | cons cid rest ih => exact .bind (h cid) fun _ => .bind ih fun _ => tame_pure _

lemma tame_drainRateLimitedPending (budget : ℕ) : Tame (drainRateLimitedPending E budget) :=
  .bind tame_ask fun _ => .bind tame_readState fun _ => tame_drainEach tame_drainPendingChannel _

lemma tame_drainResubscribeRetry (budget : ℕ) : Tame (drainResubscribeRetry E budget) :=
  .bind tame_ask fun _ => .bind tame_readState fun _ => tame_drainEach tame_drainRetryChannel _

lemma tame_drainMembership (b : Budget) : Tame (drainMembership E b) := by
  refine .bind tame_readState fun s => ?_
  split
  · refine tame_after_send (tame_sendMembershipSubscribe .replay _) ?_ (tame_pure _)
    exact tame_touch (fun _ => rfl) _
  · exact tame_pure _

lemma tame_drainObserverControls (b : Budget) : Tame (drainObserverControls E b) := by
  refine .bind tame_readState fun s => ?_
  split
  · refine tame_after_send (tame_sendObserverControlSubscribe .replay) ?_ (tame_pure _)
    exact tame_touch (fun _ => rfl) _
  · exact tame_pure _

lemma tame_drainControlSubs (b : Budget) : Tame (drainControlSubs E b) := by
  refine .bind tame_checkRateGate fun gate => ?_
  cases gate with
  | some dl => exact tame_pure _
  | none => exact .bind (tame_drainMembership b) fun _ => tame_drainObserverControls _

lemma tame_drainWith {drain : ℕ → Job ℕ} (h : ∀ budget, Tame (drain budget)) (b : Budget)
    (waiting : BgState → Bool) : Tame (drainWith b waiting drain) := by
  refine .bind tame_readState fun s => ?_
  split
  · exact .bind (h _) fun _ => tame_pure _
  · exact tame_pure _

lemma tame_nextDrain (anySent : Bool) (next : Option ℕ) : Tame (nextDrain E anySent next) := by
  refine .bind tame_readState fun s => ?_
  split
  · exact .bind tame_ask fun _ => tame_pure _
  · split
    · refine .bind tame_checkRateGate fun gate => ?_
      cases gate with
      | some dl => exact tame_pure _
      | none => exact .bind tame_ask fun _ => tame_pure _
    · exact tame_pure _

lemma tame_drainPending (l : Loop) : Tame (drainPending E l) := by
  refine .bind tame_ask fun ans => ?_
  split
  · refine .bind ?_ fun _ => tame_pure _
    refine .bind (tame_drainControlSubs _) fun b => ?_
    refine .bind (tame_drainWith tame_drainRateLimitedPending b _) fun b => ?_
    refine .bind (tame_drainWith tame_drainResubscribeRetry b _) fun b => ?_
    exact .bind (tame_drainWith tame_drainGatedObserverPending b _) fun b => tame_nextDrain _ _
  · exact tame_pure _

lemma tame_noteStable (l : Loop) : Tame (noteStable E l) := by
  refine .bind tame_ask fun ans => ?_
  split
  · exact tame_touch (fun _ => rfl) _
  · exact tame_pure _

lemma tame_restarted (l : Loop) : Tame (l.restarted E) := .bind tame_ask fun _ => tame_pure _

end

/-- Every observer frame taken from the harness has been placed or is still put off, in order. -/
def Core.Settled (c : Core) : Prop :=
  handed c.history = placed c.history ++ c.deferred.flatMap framesOf

/-- What becomes of a command in hand: its observer frame, if it has one, is placed. -/
structure Handles (cmd : RelayCommand) (c d : Core) : Prop where
  reach : Reach c d
  handed_eq : handed d.history = handed c.history
  placed_eq : placed d.history = placed c.history ++ framesOf cmd
  deferred_eq : d.deferred = c.deferred

section

variable {c d e : Core} {cmd : RelayCommand} {S : Site → World → Prop}

lemma Handles.of_works (h : Works c d) (hc : framesOf cmd = []) : Handles cmd c d := by
  obtain ⟨hh,hp,hd⟩ := h.ledger
  exact ⟨h.reach,hh,by rw [hp,hc,append_nil],hd⟩

lemma Handles.of_step (h : Step c d) (hh : handed d.history = handed c.history)
    (hp : placed d.history = placed c.history) (hd : d.deferred = c.deferred)
    (hc : framesOf cmd = []) : Handles cmd c d :=
  ⟨.single h,hh,by rw [hp,hc,append_nil],hd⟩

lemma Handles.after_works (h : Works c d) (h' : Handles cmd d e) : Handles cmd c e := by
  obtain ⟨hh,hp,hd⟩ := h.ledger
  exact ⟨h.reach.trans h'.reach,h'.handed_eq.trans hh,by rw [h'.placed_eq,hp], h'.deferred_eq.trans hd⟩

lemma Handles.then_works (h : Handles cmd c d) (h' : Works d e) : Handles cmd c e := by
  obtain ⟨hh,hp,hd⟩ := h'.ledger
  exact ⟨h.reach.trans h'.reach,hh.trans h.handed_eq,by rw [hp,h.placed_eq], hd.trans h.deferred_eq⟩

variable {event : Event}
variable {inFlight gated evs : List Event}

lemma Handles.of_placed (h : Shift c [event] inFlight gated evs) (hf : isObserverFrame event = true) :
    Handles (.publishEvent event) c ((c.noted (.placed event)).shifted inFlight gated evs) where
  reach := .single (.placed event h)
  handed_eq := skip_notes handed _ (fun _ _ => rfl) _ _
  placed_eq := by
    refine (skip_notes placed _ (fun _ _ => rfl) _ _).trans ?_
    simp [Core.noted,placed,framesOf,hf]
  deferred_eq := rfl

/-- What becomes of the channels: those not stranded stay so, unless a write fails; those that
have no Subscribe on the connection stay so at any rate. -/
structure Keeps (ok : Bool) (c d : Core) : Prop where
  covered : ok = true → c.Covered → d.Covered
  hopeful : c.Hopeful → d.Hopeful

variable {ok : Bool}

lemma Keeps.of_excuse (h : ∀ F, Excuse F → c.CoveredBut F → d.CoveredBut F) : Keeps ok c d :=
  ⟨fun _ => h abandoned excuse_abandoned,h fresh excuse_fresh⟩

lemma Keeps.of_works (hk : c.Known) (h : Works c d) : Keeps ok c d :=
  .of_excuse fun _ hF => h.coveredBut hF hk

lemma Keeps.trans (h : Keeps true c d) (h' : Keeps ok d e) : Keeps ok c e :=
  ⟨fun hok hc => h'.covered hok (h.covered rfl hc),fun hh => h'.hopeful (h.hopeful hh)⟩

lemma keeps_placed : Keeps ok c ((c.noted (.placed event)).shifted inFlight gated evs) := by
  refine .of_excuse fun F hF hc ch ha => ?_
  have hl : live ch ((c.noted (.placed event)).shifted inFlight gated evs).history =
      live ch c.history := skip_notes (live ch) _ (fun _ _ => rfl) _ _
  have he : F ch ((c.noted (.placed event)).shifted inFlight gated evs).history = F ch c.history :=
    (skip_notes (F ch) .discarded (fun _ _ => hF.neutral _ _ _ trivial) _ _).trans (hF.neutral _ _ _ trivial)
  rw [Core.Covers,hl,he]
  exact hc ch ha

variable {Q : Unit → World → Prop}

lemma ends_parkPublished (hf : isObserverFrame event = true)
    (hQ : ∀ v, Handles (.publishEvent event) w.core v.core → Keeps true w.core v.core → Q () v) :
    Ends (parkPublished event) w Q S :=
  hQ _ (.of_placed (shift_park w.core event) hf) keeps_placed

variable (channelId : Uuid)
include channelId

lemma coveredBut_of_others {F : Uuid → List Note → Bool}
    (hs : d.Covers channelId ∨ F channelId d.history = true)
    (ho : ∀ ch, ch ≠ channelId → d.active.lookup ch = c.active.lookup ch ∧ (c.Covers ch → d.Covers ch) ∧
      F ch d.history = F ch c.history)
    (h : c.CoveredBut F) : d.CoveredBut F := by
  intro ch ha
  by_cases heq : ch = channelId
  · exact heq ▸ hs
  · obtain ⟨hsa,hc,he⟩ := ho ch heq
    rw [hsa] at ha
    rw [he]
    exact (h ch ha).imp_left hc

lemma keeps_intended (filter : ChannelFilter) (t : String) :
    Keeps false c (c.intended channelId filter t) := by
  refine ⟨by simp,coveredBut_of_others channelId (.inr (by simp [Core.intended,fresh]))
    fun ch hne => ⟨?_,?_,?_⟩⟩
  · simp only [Core.intended]
    rw [lookup_insert_eq,if_neg hne]
  · simp [Core.Covers,Core.intended,live,hne.symm]
  · exact excuse_fresh.others ch channelId _ hne.symm

lemma keeps_announced : Keeps false c (c.noted (.subscribed channelId)) := by
  refine ⟨by simp,coveredBut_of_others channelId (.inr (by simp [Core.noted,fresh]))
    fun ch hne => ⟨rfl,?_,?_⟩⟩
  · simp [Core.Covers,Core.noted,live,hne.symm]
  · exact excuse_fresh.others ch channelId _ hne.symm

lemma keeps_parked (filter : ChannelFilter) (t : String) (dl : ℕ) :
    Keeps ok c { c.intended channelId filter t with parked := c.parked.insert channelId dl } := by
  refine .of_excuse fun F hF =>
    coveredBut_of_others channelId (.inl (.inr (.inl (by simp)))) fun ch hne => ⟨?_,?_,?_⟩
  · simp only [Core.intended]
    rw [lookup_insert_eq,if_neg hne]
  · simp [Core.Covers,Core.intended,live,hne,hne.symm]
  · exact hF.others ch channelId _ hne.symm

lemma keeps_commanded (filter : ChannelFilter) (t : String)
    (req : ReqFilter) : Keeps ok c (c.commanded channelId filter t req) := by
  refine .of_excuse fun F hF =>
    coveredBut_of_others channelId (.inl (.inl (live_sent _ _ _ _))) fun ch hne => ⟨?_,?_,?_⟩
  · simp only [Core.commanded]
    rw [lookup_insert_eq,if_neg hne]
  · simp [Core.Covers,Core.commanded,live,hne,hne.symm]
  · have hs := hF.neutral ch (.sent .command (.req (.channel channelId) req))
      (.subscribed channelId :: c.history) trivial
    exact hs.trans (hF.others ch channelId _ hne.symm)

omit channelId

variable (hQ : ∀ v, Handles cmd w.core v.core → (w.core.Known → Keeps false w.core v.core) → Q () v)
include hQ

lemma ends_applyCommandToState :
    Ends (applyCommandToState E cmd) w Q S := by
  have hq : framesOf cmd = [] → ∀ v, Works w.core v.core → Q () v := fun hc v hv =>
    hQ v (.of_works hv hc) fun hk => .of_works hk hv
  cases cmd with
  | subscribe channelId filter replaySince =>
    exact hQ _ (.of_step (.intended channelId filter (channelSubId channelId)) rfl rfl rfl rfl) fun _ =>
      keeps_intended channelId filter (channelSubId channelId)
  | unsubscribe channelId =>
    exact hq rfl _ (Work.left channelId (.unsubscribed channelId) (.inl rfl)).works
  | publishEvent event =>
    simp only [applyCommandToState]
    split
    next hf => exact ends_parkPublished hf fun v hv hke => hQ v hv fun _ => ⟨by simp,hke.hopeful⟩
    next hf => exact hq (by simp [framesOf,hf]) _ (.refl _)
  | reconnect | shutdown | subscribeMembership | subscribeObserverControls | setStartupWatermark =>
    exact hq rfl _ (.refl _)

lemma ends_retainFailedCommandIntent :
    Ends (retainFailedCommandIntent E cmd) w Q S := by
  cases cmd with
  | publishEvent | _ => exact ends_applyCommandToState (E := E) hQ

omit hQ

variable {Q : Bool → World → Prop}

lemma ends_executeSubscribe {ch : Uuid} {filter : ChannelFilter} {replaySince : Option ℕ}
    (hQ : ∀ ok v, Handles (.subscribe ch filter replaySince) w.core v.core →
      (w.core.Known → Keeps ok w.core v.core) → Q ok v) :
    Ends (executeSubscribe E ch filter replaySince) w Q S := by
  simp only [executeSubscribe,ends_bind]
  refine ends_checkRateGate fun gate _ tick _ _ => ?_
  cases gate with
  | some retryAfter =>
    have hi : Handles (.subscribe ch filter replaySince) w.core
        (w.core.intended ch filter (channelSubId ch)) :=
      .of_step (.intended ch filter (channelSubId ch)) rfl rfl rfl rfl
    exact hQ _ _ (hi.then_works (Work.parked ch retryAfter).works) fun _ =>
      keeps_parked ch filter (channelSubId ch) retryAfter
  | none =>
    simp only [ends_bind]
    refine ends_sendSubscribe (fun tick req hs => ?_) fun tick => ?_
    · refine hQ _ _ (.of_step (.commanded ch filter (channelSubId ch) req ?_) rfl rfl rfl rfl)
        fun _ => keeps_commanded ch filter (channelSubId ch) req
      exact fun l hl => hs l (Option.or_eq_some_iff.2 (.inl hl))
    · simp only [Bool.false_eq_true,if_false,ends_bind]
      refine ends_applyCommandToState fun v hv hk => hQ false v ?_ fun hkn => ⟨by simp,fun hh => ?_⟩
      · exact ⟨.head (.announced ch) hv.reach,hv.handed_eq,hv.placed_eq,hv.deferred_eq⟩
      · exact (hk hkn).hopeful ((keeps_announced ch).hopeful hh)

lemma ends_mustPark (hp : ∀ gate tick, isObserverFrame event = true →
      Q true { w with state := { w.state with rateLimitGate := gate }, tick := tick })
    (hs : ∀ gate tick, (isObserverFrame event = true → gate = none ∧ w.state.gatedObserverPending = []) →
      Q false { w with state := { w.state with rateLimitGate := gate }, tick := tick }) :
    Ends (mustPark E event) w Q S := by
  unfold mustPark
  split
  next hf =>
    simp only [ends_bind]
    refine ends_checkRateGate fun r gate tick ho _ => ?_
    simp only [ends_readState]
    cases r with
    | some dl => exact hp gate tick hf
    | none =>
      by_cases hg : w.state.gatedObserverPending = []
      · have hn : (Option.isSome (none : Option ℕ) || !w.state.gatedObserverPending.isEmpty) = false := by
          simp [hg]
        rw [hn]
        exact hs gate tick fun _ => ⟨ho rfl,hg⟩
      · have hso : (Option.isSome (none : Option ℕ) || !w.state.gatedObserverPending.isEmpty) = true := by
          simp [hg]
        rw [hso]
        exact hp gate tick hf
  next hf => exact hs w.state.rateLimitGate w.tick fun h => absurd h hf

lemma ends_executePublishEvent
    (hQ : ∀ v, Handles (.publishEvent event) w.core v.core → (w.core.Known → Keeps true w.core v.core) →
      Q true v) : Ends (executePublishEvent E event) w Q S := by
  simp only [executePublishEvent,ends_bind]
  refine ends_mustPark (fun gate tick hf => ?_) fun gate tick ho => ?_
  · simp only [if_true,ends_bind]
    exact ends_parkPublished hf fun v hv hke => hQ v hv fun _ => hke
  · simp only [Bool.false_eq_true,if_false,ends_bind]
    refine ends_checkRateGate fun r gate' tick' _ hst => ?_
    cases r with
    | some dl =>
      -- the gate is armed, so this is no observer frame and it is dropped
      have hf : isObserverFrame event ≠ true := fun h => by simpa using hst (ho h).1
      exact hQ _ (.of_works (.refl _) (by simp [framesOf,hf])) fun hk => .of_works hk (.refl _)
    | none =>
      simp only [ends_bind]
      refine ends_wsSend (fun tick => ?_) fun tick => ?_
      · have hs : Works w.core (w.core.noted (.sent .command (.event event))) :=
          (Work.plain (n := .sent .command (.event event)) (by simp [Note.Plain])).works
        simp only [if_true]
        split
        next hf =>
          have hsh := shift_track (w.core.noted (.sent .command (.event event))) event (ho hf).2
          exact hQ _ ((Handles.of_placed hsh hf).after_works hs) fun hk =>
            (Keeps.of_works hk hs).trans keeps_placed
        next hf =>
          exact hQ _ (.of_works hs (by simp [framesOf,hf])) fun hk => .of_works hk hs
      · simp only [Bool.false_eq_true,if_false]
        split
        next hf =>
          rw [ends_bind]
          exact ends_parkPublished hf fun v hv hke => hQ v hv fun _ => hke
        next hf =>
          exact hQ _ (.of_works (.refl _) (by simp [framesOf,hf])) fun hk => .of_works hk (.refl _)

lemma tame_executeUnsubscribe (ch : Uuid) : Tame (executeUnsubscribe E ch) := by
  intro w
  have hl : ∀ c : Core, Work c (c.left ch (.unsubscribed ch)) := fun c =>
    .left ch _ (.inl rfl)
  simp only [executeUnsubscribe,ends_bind,ends_readState]
  cases w.state.activeSubscriptions.lookup ch with
  | none => exact (hl w.core).works
  | some subId =>
    simp only [sendClose,ends_bind]
    refine ends_wsSend (fun tick => ?_) fun tick => (hl w.core).works
    have hs : Works w.core (w.core.noted (.sent .command (.close subId))) :=
      (Work.plain (n := .sent .command (.close subId)) (by simp [Note.Plain])).works
    exact hs.step (hl _)

lemma tame_executeSubscribeMembership : Tame (executeSubscribeMembership E) := by
  refine .bind (tame_modifyState fun w => .refl w.core) fun _ => .bind tame_checkRateGate fun gate => ?_
  cases gate with
  | some dl => exact tame_touch (fun _ => rfl) _
  | none =>
    refine .bind tame_readState fun s => tame_after_send (tame_sendMembershipSubscribe .command _) ?_ ?_
    · exact tame_touch (fun _ => rfl) _
    · exact tame_touch (fun _ => rfl) _

lemma tame_executeSubscribeObserverControls : Tame (executeSubscribeObserverControls E) := by
  refine .bind (tame_modifyState fun w => .refl w.core) fun _ => .bind tame_checkRateGate fun gate => ?_
  cases gate with
  | some dl => exact tame_touch (fun _ => rfl) _
  | none =>
    refine tame_after_send (tame_sendObserverControlSubscribe .command) ?_ ?_
    · exact tame_touch (fun _ => rfl) _
    · exact tame_touch (fun _ => rfl) _

/-- A command that is executed leaves no channel stranded, unless its write fails. -/
lemma ends_executeConnectedCommand
    (hQ : ∀ ok v, Handles cmd w.core v.core → (w.core.Known → Keeps ok w.core v.core) → Q ok v) :
    Ends (executeConnectedCommand E cmd) w Q S := by
  have hta : framesOf cmd = [] → ∀ ok v, Works w.core v.core → Q ok v := fun hc ok v hv =>
    hQ ok v (.of_works hv hc) fun hk => .of_works hk hv
  cases cmd with
  | subscribe channelId filter replaySince => exact ends_executeSubscribe hQ
  | publishEvent event => exact ends_executePublishEvent fun v hv hke => hQ true v hv hke
  | unsubscribe channelId => exact (tame_executeUnsubscribe channelId).ends (hta rfl)
  | subscribeMembership => exact tame_executeSubscribeMembership.ends (hta rfl)
  | subscribeObserverControls => exact tame_executeSubscribeObserverControls.ends (hta rfl)
  | setStartupWatermark | reconnect | shutdown => exact hta rfl true _ (.refl _)

end

end BuzzSolo.AcpRelay
