import BuzzSolo.AcpRelayRuns

/-! What the background task does where it waits: the pauses, the drain of commands, the replay
after a reconnect and the main loop. Wherever a run stops, every command is accounted for. -/
namespace BuzzSolo.AcpRelay

open HashTable Suspension List

variable {E : Env} {w : World}

structure Sane (c : Core) : Prop where
  reachable : Reachable c
  settled : c.Settled

structure Ready (c : Core) : Prop extends Sane c where
  idle : c.deferred = []

def Resting (site : Site) (w : World) : Prop := Sane w.core ∧ (site = .select → w.core.Covered)

section

variable {c d e : Core} {cmd : RelayCommand}

lemma Sane.resting {site : Site} (h : Sane w.core) (hs : site ≠ .select) : Resting site w :=
  ⟨h,fun heq => absurd heq hs⟩

lemma Sane.works (h : Sane c) (h' : Works c d) : Sane d := by
  obtain ⟨hh,hp,hd⟩ := h'.ledger
  exact ⟨h.reachable.works h',by rw [Core.Settled,hh,hp,hd]; exact h.settled⟩

lemma Ready.works (h : Ready c) (h' : Works c d) : Ready d := ⟨h.toSane.works h',h'.ledger.2.2.trans h.idle⟩

lemma Ready.took (h : Ready c) (h' : Handles cmd (c.noted (.took cmd)) d) : Ready d := by
  refine ⟨⟨(h.reachable.step (.took cmd)).trans h'.reach,?_⟩,h'.deferred_eq.trans h.idle⟩
  have hs := h.settled
  rw [Core.Settled,h.idle,flatMap_nil,append_nil] at hs
  have hi : (c.noted (.took cmd)).deferred = [] := h.idle
  rw [Core.Settled,h'.handed_eq,h'.placed_eq,h'.deferred_eq,hi,flatMap_nil,append_nil]
  simp [Core.noted,handed,placed,hs]

lemma Sane.resumed {rest : List RelayCommand} (h : Sane c) (hd : c.deferred = cmd :: rest)
    (h' : Handles cmd { c with deferred := rest } d) : Sane d ∧ d.deferred = rest := by
  refine ⟨⟨(h.reachable.step (.deferred rest)).trans h'.reach,?_⟩,h'.deferred_eq⟩
  have hs := h.settled
  rw [Core.Settled,hd,flatMap_cons,← append_assoc] at hs
  rw [Core.Settled,h'.handed_eq,h'.placed_eq,h'.deferred_eq]
  exact hs

def Defers (c d : Core) : Prop :=
  ∃ cmds, d = { c with
    deferred := c.deferred ++ cmds, history := (cmds.map .took).reverse ++ c.history }

lemma Defers.refl (c : Core) : Defers c c := ⟨[],by simp⟩

lemma Defers.snoc (h : Defers c d) (cmd : RelayCommand) :
    Defers c { d.noted (.took cmd) with deferred := d.deferred ++ [cmd] } := by
  obtain ⟨cmds,rfl⟩ := h
  exact ⟨cmds ++ [cmd],by simp [Core.noted]⟩

lemma handed_took (cmds : List RelayCommand) (h : List Note) :
    handed ((cmds.map .took).reverse ++ h) = handed h ++ cmds.flatMap framesOf := by
  induction cmds generalizing h with
  | nil => simp
  | cons cmd cmds ih =>
    rw [map_cons,reverse_cons,append_assoc,ih,flatMap_cons]
    simp [handed]

lemma Defers.reach (h : Defers c d) : Reach c d := by
  obtain ⟨cmds,rfl⟩ := h
  have hn : Reach c { c with history := (cmds.map .took).reverse ++ c.history } := by
    induction cmds generalizing c with
    | nil => exact .refl
    | cons cmd cmds ih =>
      rw [map_cons,reverse_cons,append_assoc]
      exact .head (.took cmd) (ih (c := c.noted (.took cmd)))
  exact hn.tail (.deferred (c.deferred ++ cmds))

lemma Defers.sane (h : Defers c d) (hs : Sane c) : Sane d := by
  refine ⟨hs.reachable.trans h.reach,?_⟩
  obtain ⟨cmds,rfl⟩ := h
  rw [Core.Settled,handed_took,skip_notes placed _ fun _ _ => rfl,hs.settled,flatMap_append, append_assoc]

lemma Defers.covers (h : Defers c d) {ch : Uuid} (hc : c.Covers ch) : d.Covers ch := by
  obtain ⟨cmds,rfl⟩ := h
  rw [Core.Covers,skip_notes (live ch) _ fun _ _ => rfl]
  exact hc

lemma Defers.keeps (h : Defers c d) : Keeps true c d := by
  refine .of_excuse fun F hF hc ch ha => ?_
  have hco : c.Covers ch → d.Covers ch := h.covers
  obtain ⟨cmds,rfl⟩ := h
  rw [skip_notes (F ch) .took fun _ _ => hF.neutral _ _ _ trivial]
  exact (hc ch ha).imp_left hco

lemma ends_pacingSleep {Q : Bool → World → Prop} (h : Sane w.core)
    (hQ : ∀ ok v, Defers w.core v.core → Q ok v) : Ends (pacingSleep E) w Q Resting := by
  have hr : ∀ site v, site ≠ .select → Defers w.core v.core → Resting site v := fun site v hs hv =>
    (hv.sane h).resting hs
  refine ends_rounds (fun _ v => Defers w.core v.core) ?_ (fun _ v hv => hr _ v (by simp) hv) _ () (.refl _)
  intro _ v hv
  simp only [pacingRound,ends_bind]
  refine ends_waitFor (hr _ v (by simp) hv) fun woken rest => ?_
  cases woken with
  | elapsed => exact hQ true _ hv
  | shutdown => exact hQ false _ hv
  | command cmd => exact hv.snoc cmd

lemma ends_backoffSleep (h : Ready w.core) : Ends (backoffSleep E) w (fun _ v => Ready v.core) Resting := by
  refine ends_rounds (fun _ v => Ready v.core) ?_ (fun _ v hv => hv.resting (by simp)) _ () h
  intro _ v hv
  simp only [backoffRound,ends_bind]
  refine ends_waitFor (hv.resting (by simp)) fun woken rest => ?_
  cases woken with
  | elapsed | shutdown => exact hv
  | command cmd =>
    simp only [ends_bind]
    exact ends_applyCommandToState fun u hu _ => hv.took hu

lemma ends_pause {Q : Bool → World → Prop} (h : Ready w.core) (ht : ∀ v, Ready v.core → Q true v)
    (hf : ∀ v, Sane v.core → Q false v) : Ends (backoffSleep E) w Q Resting := by
  refine (ends_backoffSleep h).imp ?_
  intro ok v hv
  cases ok with
  | true => exact ht v hv
  | false => exact hf v hv.toSane

variable {Q : Unit → World → Prop} {S : Site → World → Prop}

lemma ends_retainDeferred (hQ : ∀ v, Handles cmd w.core v.core → Q () v) :
    Ends (retainDeferred E cmd) w Q S := by
  cases cmd with
  | shutdown | reconnect => exact hQ w (.of_works (.refl _) rfl)
  | _ => exact ends_retainFailedCommandIntent (E := E) fun v hv _ => hQ v hv

lemma ends_retainEach (cmds : List RelayCommand) (h : Sane w.core) (hc : w.core.deferred = cmds)
    (hQ : ∀ v, Ready v.core → Q () v) :
    Ends (retainEach E cmds) w Q S := by
  induction cmds generalizing w with
  | nil => exact hQ w ⟨h,hc⟩
  | cons cmd rest ih =>
    simp only [retainEach,ends_bind]
    refine ends_retainDeferred fun v hv => ?_
    obtain ⟨hs,hd⟩ := h.resumed hc hv
    exact ih hs hd

lemma ends_retainDeferredCommandIntent (h : Sane w.core) (hQ : ∀ v, Ready v.core → Q () v) :
    Ends (retainDeferredCommandIntent E) w Q S := by
  exact ends_retainEach _ h rfl hQ

end

structure InHand (cmd : RelayCommand) (c : Core) : Prop where
  reachable : Reachable c
  sane : ∀ d, Handles cmd c d → Sane d

section

variable {cmd : RelayCommand} {c : Core}

lemma InHand.done (h : InHand cmd c) (hc : framesOf cmd = []) : Sane c := h.sane c (.of_works (.refl c) hc)

lemma keeps_took (cmd : RelayCommand) : Keeps true c (c.noted (.took cmd)) := by
  refine .of_excuse fun F hF hc ch ha => ?_
  have he : F ch (c.noted (.took cmd)).history = F ch c.history := hF.neutral _ _ _ trivial
  rw [he]
  exact hc ch ha

lemma ends_nextCommand (h : Sane w.core) {Q : NextCommand → World → Prop}
    (hc : ∀ cmd v, InHand cmd v.core → Keeps true w.core v.core → Q (.command cmd) v)
    (he : ∀ v, Ready v.core → Keeps true w.core v.core → Q .empty v)
    (hcl : ∀ v, Sane v.core → Q .disconnected v) : Ends nextCommand w Q Resting := by
  simp only [nextCommand,ends_bind]
  cases hde : w.deferred with
  | cons cmd rest =>
    have hp : popDeferred w = ({ w with deferred := rest },.ok (some cmd)) := by
      simp [popDeferred,hde]
    rw [Ends,hp]
    refine hc cmd _ ⟨h.reachable.step (.deferred rest),fun d hd => ?_⟩ ⟨fun _ h => h,fun h => h⟩
    exact (h.resumed hde hd).1
  | nil =>
    have hp : popDeferred w = (w,.ok none) := by simp [popDeferred,hde]
    have hr : Ready w.core := ⟨h,hde⟩
    rw [Ends,hp]
    simp only [ends_bind]
    refine ends_waitFor (h.resting (by simp)) fun next rest => ?_
    cases next with
    | command cmd =>
      refine hc cmd _ ⟨h.reachable.step (.took cmd),fun d hd => ?_⟩ (keeps_took cmd)
      exact (hr.took hd).toSane
    | empty => exact he _ hr ⟨fun _ h => h,fun h => h⟩
    | disconnected => exact hcl _ h

/-- What a round of the drain keeps: until a write fails no channel is stranded. -/
structure Draining (sendFailed : Bool) (c : Core) : Prop where
  sane : Sane c
  covered : sendFailed = false → c.Covered
  hopeful : c.Hopeful

structure Drained (outcome : ReconnectOutcome) (c : Core) : Prop where
  sane : Sane c
  idle : outcome ≠ .shutdown → c.deferred = []
  covered : outcome = .ok → c.Covered
  hopeful : outcome = .failed → c.Hopeful

abbrev Drains (r : Bool ⊕ ReconnectOutcome) (v : World) : Prop :=
  Sum.elim (Draining · v.core) (Drained · v.core) r

lemma Sane.shutdown (h : Sane c) : Drained .shutdown c := ⟨h,by simp,by simp,by simp⟩

lemma ends_closeAndReturn (h : Sane w.core) : Ends (closeAndReturn E) w Drains Resting := by
  simp only [closeAndReturn,ends_bind]
  exact (tame_wsSend (by simp)).ends fun _ v hv => (h.works hv).shutdown

lemma InHand.draining {d : Core} {ok : Bool} (h : InHand cmd c) (hh : c.Hopeful)
    (hc : ok = true → c.Covered) (hha : Handles cmd c d) (hk : c.Known → Keeps ok c d) :
    Draining (!ok) d where
  sane := h.sane d hha
  covered := fun hok => by
    have hok' : ok = true := by simpa using hok
    exact (hk h.reachable.known).covered hok' (hc hok')
  hopeful := (hk h.reachable.known).hopeful hh

lemma ends_drainAfterFailure (h : InHand cmd w.core) (hh : w.core.Hopeful) :
    Ends (drainAfterFailure E cmd) w Drains Resting := by
  have hr : Ends (do retainFailedCommandIntent E cmd; pure (.inl true)) w Drains Resting := by
    simp only [ends_bind]
    exact ends_retainFailedCommandIntent fun v hv hk => h.draining hh (by simp) hv hk
  cases cmd with
  | shutdown => exact ends_closeAndReturn (h.done rfl)
  | reconnect => exact ⟨h.done rfl,by simp,hh⟩
  | _ => exact hr

lemma ends_drainSubscription (h : InHand cmd w.core) (hc : w.core.Covered) :
    Ends (drainSubscription E cmd) w Drains Resting := by
  simp only [drainSubscription,ends_bind]
  refine ends_checkRateGate fun gate _ tick _ _ => ?_
  refine ends_executeConnectedCommand fun ok v hv hk => ?_
  have hd : Draining (!ok) v.core := h.draining hc.hopeful (fun _ => hc) hv hk
  cases ok with
  | false => exact hd
  | true =>
    simp only [if_true]
    split
    · simp only [ends_bind]
      refine ends_pacingSleep hd.sane fun ok u hu => ?_
      have hs : Sane u.core := hu.sane hd.sane
      have hco : u.core.Covered := hu.keeps.covered rfl (hd.covered rfl)
      cases ok with
      | true => exact ⟨hs,fun _ => hco,hco.hopeful⟩
      | false => exact hs.shutdown
    · exact hd

lemma ends_drainLive (h : InHand cmd w.core) (hc : w.core.Covered) :
    Ends (drainLive E cmd) w Drains Resting := by
  have he : Ends (do let ok ← executeConnectedCommand E cmd; pure (.inl (!ok))) w Drains Resting := by
    simp only [ends_bind]
    exact ends_executeConnectedCommand fun ok v hv hk => h.draining hc.hopeful (fun _ => hc) hv hk
  cases cmd with
  | shutdown => exact ends_closeAndReturn (h.done rfl)
  | reconnect => exact ⟨h.done rfl,fun _ => hc,hc.hopeful⟩
  | subscribe | subscribeMembership | subscribeObserverControls => exact ends_drainSubscription h hc
  | _ => exact he

lemma ends_drainCommands (h : Sane w.core) (hc : w.core.Covered) :
    Ends (drainCommands E) w (fun out v => Drained out v.core) Resting := by
  refine ends_rounds (fun sendFailed v => Draining sendFailed v.core) ?_
    (fun _ v hv => hv.sane.resting (by simp)) _ false ⟨h,fun _ => hc,hc.hopeful⟩
  intro sendFailed v hv
  simp only [drainRound,ends_bind]
  refine ends_nextCommand hv.sane ?_ ?_ fun u hu => hu.shutdown
  · intro cmd u hu hk
    cases sendFailed with
    | true => exact ends_drainAfterFailure hu (hk.hopeful hv.hopeful)
    | false => exact ends_drainLive hu (hk.covered rfl (hv.covered rfl))
  · intro u hu hk
    cases sendFailed with
    | true => exact ⟨hu.toSane,fun _ => hu.idle,by simp,fun _ => hk.hopeful hv.hopeful⟩
    | false => exact ⟨hu.toSane,fun _ => hu.idle,fun _ => hk.covered rfl (hv.covered rfl),by simp⟩

/-- A drain that ended in a failed write has abandoned the Subscribes it met. -/
lemma covered_drainFailed (h : c.Hopeful) : (c.noted .drainFailed).Covered := h

lemma ends_drainPostReconnect (h : Ready w.core) (hc : w.core.Covered) :
    Ends (drainPostReconnect E) w (fun out v => Sane v.core ∧
      (out ≠ .shutdown → Ready v.core ∧ v.core.Covered)) Resting := by
  simp only [drainPostReconnect,ends_bind]
  have hs : ({ w with deferred := [] } : World).core = w.core := by
    rw [← h.idle]
    rfl
  refine (ends_drainCommands (hs ▸ h.toSane) (hs ▸ hc)).imp ?_
  intro out v hv
  cases out with
  | ok => exact ⟨hv.sane,fun _ => ⟨⟨hv.sane,hv.idle (by simp)⟩,hv.covered rfl⟩⟩
  | shutdown => exact ⟨hv.sane,by simp⟩
  | failed =>
    have hn : Sane (v.core.noted .drainFailed) := ⟨hv.sane.reachable.step .drainFailed,hv.sane.settled⟩
    exact ⟨hn,fun _ => ⟨⟨hn,hv.idle (by simp)⟩,covered_drainFailed (hv.hopeful rfl)⟩⟩

end

/-- What the replay of subscriptions keeps: the channels, and those already covered. -/
structure Replays (c d : Core) : Prop where
  sane : Sane d
  active : d.active = c.active
  covers : ∀ channelId, (c.active.lookup channelId).isSome → c.Covers channelId → d.Covers channelId

section

variable {c d e : Core}

lemma Replays.refl (h : Sane c) : Replays c c := ⟨h,rfl,fun _ _ hc => hc⟩

lemma Replays.trans (h : Replays c d) (h' : Replays d e) : Replays c e :=
  ⟨h'.sane,h'.active.trans h.active,fun ch ha hc =>
    h'.covers ch (h.active ▸ ha) (h.covers ch ha hc)⟩

lemma Replays.of_works (hs : Sane c) (h : Works c d) (ha : d.active = c.active) : Replays c d :=
  ⟨hs.works h,ha,fun _ hch => h.covers hs.reachable.known (ha ▸ hch)⟩

lemma Replays.of_defers (hs : Sane c) (h : Defers c d) : Replays c d := by
  refine ⟨h.sane hs,?_,fun _ _ => h.covers⟩
  obtain ⟨cmds,rfl⟩ := h
  rfl

lemma ends_resubscribeChannel (ch : Uuid) (h : Sane w.core) : Ends (resubscribeChannel E ch) w
      (fun _ v => Replays w.core v.core ∧ v.core.Covers ch) Resting := by
  simp only [resubscribeChannel,ends_bind]
  refine ends_checkRateGate fun gate _ tick _ _ => ?_
  cases gate with
  | some retryAfter =>
    exact ⟨.of_works h (Work.parked ch retryAfter).works rfl,.inr (.inl (by simp [World.core]))⟩
  | none =>
    have hre : ∀ v : World, v.core = { w.core with retry := w.core.retry.insert ch () } →
        Replays w.core v.core ∧ v.core.Covers ch := fun v hv => by
      rw [hv]
      exact ⟨.of_works h (Work.retrying ch).works rfl,.inr (.inr (by simp))⟩
    simp only [ends_bind,ends_readState]
    split
    · exact hre _ rfl
    next filter hfilter =>
      simp only [ends_bind]
      refine ends_replay hfilter (fun tick req hw => ?_) fun tick => hre _ rfl
      have hr := Replays.of_works h hw rfl
      refine ends_pacingSleep hr.sane fun ok v hv => ⟨hr.trans (.of_defers hr.sane hv),?_⟩
      exact hv.covers (.inl (live_sent _ _ _ _))

lemma ends_resubscribeChannels (channels : List Uuid) (h : Sane w.core)
    (ha : ∀ ch ∈ channels, (w.core.active.lookup ch).isSome) :
    Ends (resubscribeChannels E channels) w (fun ok v => Replays w.core v.core ∧
      (ok = true → ∀ ch ∈ channels, v.core.Covers ch)) Resting := by
  induction channels generalizing w with
  | nil => exact ⟨.refl h,by simp⟩
  | cons channelId rest ih =>
    simp only [resubscribeChannels,ends_bind]
    refine (ends_resubscribeChannel channelId h).imp ?_
    rintro ok v ⟨hr,hc⟩
    cases ok with
    | false => exact ⟨hr,by simp⟩
    | true =>
      have hre : ∀ ch ∈ rest, (v.core.active.lookup ch).isSome := fun ch hch =>
        hr.active ▸ ha ch (mem_cons_of_mem _ hch)
      refine (ih hr.sane hre).imp ?_
      rintro ok u ⟨hm,hal⟩
      refine ⟨hr.trans hm,fun hok ch hch => ?_⟩
      rcases mem_cons.1 hch with rfl | hch
      · exact hm.covers ch (hr.active ▸ ha ch mem_cons_self) hc
      · exact hal hok ch hch

/-- How one of the control subscriptions is replayed: the replay goes on, or it ends with the
commands put off kept as intent, or the task shuts down. -/
def Controlled (w : World) (r : Option ResubscribeResult) (v : World) : Prop :=
  match r with
  | none => Replays w.core v.core
  | some .ok => False
  | some .retryConnection => Ready v.core
  | some .shutdown => Sane v.core

variable {Q : Bool → World → Prop} {S : Site → World → Prop}

lemma ends_controlSend {fm : Frame} {og : Origin} (hf : ∀ ch filter, fm ≠ .req (.channel ch) filter)
    (h : Sane w.core) (hQ : ∀ ok v, Replays w.core v.core → Q ok v) : Ends (wsSend E og fm) w Q S :=
  ends_wsSend
    (fun _ => hQ true _ (.of_works h (Work.plain (n := .sent og fm) hf).works rfl))
    fun _ => hQ false _ (.refl h)

variable {v : World}

lemma ends_retryConnection (h : Sane w.core) : Ends (retryConnection E) w (Controlled v) Resting := by
  simp only [retryConnection,ends_bind]
  exact ends_retainDeferredCommandIntent h fun u hu => hu

lemma ends_replayMembership (h : Replays v.core w.core) :
    Ends (replayMembership E) w (Controlled v) Resting := by
  simp only [replayMembership,ends_bind]
  refine ends_controlSend (by simp) h.sane fun ok u hu => ?_
  cases ok with
  | true => exact h.trans hu
  | false => exact ends_retryConnection hu.sane

lemma ends_replayObserverControls (h : Replays v.core w.core) :
    Ends (replayObserverControls E) w (Controlled v) Resting := by
  simp only [replayObserverControls,ends_bind]
  refine ends_controlSend (by simp) h.sane fun ok u hu => ?_
  cases ok with
  | true => exact h.trans hu
  | false => exact ends_retryConnection hu.sane

lemma ends_paceMembership (h : Sane w.core)
    (hQ : ∀ ok v, Defers w.core v.core → Q ok v) : Ends (paceMembership E) w Q Resting := by
  simp only [paceMembership,ends_bind,ends_readState]
  split
  · exact hQ true w (.refl _)
  · exact ends_pacingSleep h hQ

lemma ends_resubscribeMembership (h : Sane w.core) :
    Ends (resubscribeMembership E) w (Controlled w) Resting := by
  simp only [resubscribeMembership,ends_bind,ends_readState]
  split
  · simp only [ends_bind]
    refine ends_checkRateGate fun gate _ tick _ _ => ?_
    cases gate with
    | some dl => exact Replays.refl h
    | none =>
      simp only [ends_bind]
      refine ends_paceMembership h fun ok v hv => ?_
      cases ok with
      | true => exact ends_replayMembership (.of_defers h hv)
      | false => exact hv.sane h
  · exact Replays.refl h

lemma ends_resubscribeObserverControls (h : Sane w.core) :
    Ends (resubscribeObserverControls E) w (Controlled w) Resting := by
  simp only [resubscribeObserverControls,ends_bind,ends_readState]
  split
  · simp only [ends_bind]
    refine ends_checkRateGate fun gate _ tick _ _ => ?_
    cases gate with
    | some dl => exact Replays.refl h
    | none =>
      simp only [ends_bind]
      refine ends_pacingSleep h fun ok v hv => ?_
      cases ok with
      | true => exact ends_replayObserverControls (.of_defers h hv)
      | false => exact hv.sane h
  · exact Replays.refl h

lemma mem_activeChannels {ord : List Uuid} {s : BgState} {cid : Uuid} :
    cid ∈ (iter ord s.activeSubscriptions).map Prod.fst ↔
      (s.activeSubscriptions.lookup cid).isSome := by
  rw [mem_map,Option.isSome_iff_exists]
  constructor
  · rintro ⟨⟨ch,subId⟩,hm,rfl⟩
    exact ⟨subId,mem_iter.1 hm⟩
  · rintro ⟨subId,hl⟩
    exact ⟨(cid,subId),mem_iter.2 hl,rfl⟩

/-- How a replay ends: with every subscribed channel covered, or to be done again. -/
structure Resubscribed (result : ResubscribeResult) (c : Core) : Prop where
  sane : Sane c
  idle : result ≠ .shutdown → c.deferred = []
  covered : result = .ok → c.Covered

lemma Resubscribed.ready {r : ResubscribeResult} (h : Resubscribed r c) (hr : r ≠ .shutdown) : Ready c :=
  ⟨h.sane,h.idle hr⟩

lemma Drained.resubscribed {out : ReconnectOutcome} (h : Drained out c) :
    Resubscribed out.resubscribed c := by
  cases out with
  | ok => exact ⟨h.sane,fun _ => h.idle (by simp),fun _ => h.covered rfl⟩
  | failed => exact ⟨h.sane,fun _ => h.idle (by simp),by simp [ReconnectOutcome.resubscribed]⟩
  | shutdown => exact ⟨h.sane,by simp [ReconnectOutcome.resubscribed],by simp [ReconnectOutcome.resubscribed]⟩

/-- The results with which a control subscription ends the replay. -/
lemma Controlled.resubscribed {res : ResubscribeResult}
    (h : Controlled w (some res) v) : Resubscribed res v.core := by
  cases res with
  | ok => exact h.elim
  | retryConnection => exact ⟨Ready.toSane h,fun _ => Ready.idle h,by simp⟩
  | shutdown => exact ⟨h,by simp,by simp⟩

lemma ends_clearDerived (fresh : Bool) (h : Ready w.core) {Q : Unit → World → Prop}
    (hQ : ∀ v, Ready v.core → Q () v) :
    Ends (clearDerived fresh) w Q S := by
  unfold clearDerived
  split
  · exact hQ _ ⟨⟨h.reachable.step .cleared,h.settled⟩,h.idle⟩
  · exact hQ w h

/-- The replay after a reconnect leaves no channel stranded. -/
lemma ends_resubscribeAfterReconnect (fresh : Bool) (h : Ready w.core) :
    Ends (resubscribeAfterReconnect E fresh) w
      (fun res v => Resubscribed res v.core) Resting := by
  simp only [resubscribeAfterReconnect,ends_bind]
  refine ends_clearDerived fresh h fun u hu => ?_
  have hs : Sane ({ u with deferred := [], tick := u.tick + 1 } : World).core := by
    have hs := hu.toSane
    rw [← hu.idle]
    exact hs
  refine (ends_resubscribeChannels _ hs fun ch hch => mem_activeChannels.1 hch).imp ?_
  rintro ok v ⟨hr,ha⟩
  cases ok with
  | false => exact ⟨hr.sane,by simp,by simp⟩
  | true =>
    simp only [if_true,ends_bind]
    refine (ends_resubscribeMembership hr.sane).imp ?_
    intro res v' hm
    cases res with
    | some res => exact hm.resubscribed
    | none =>
      have hf : Replays v.core v'.core := hm
      simp only [ends_bind]
      refine (ends_resubscribeObserverControls hf.sane).imp ?_
      intro res v'' hc
      cases res with
      | some res => exact hc.resubscribed
      | none =>
        have hb : Replays v.core v''.core := hf.trans hc
        have hco : v''.core.Covered := fun ch hch => .inl <| by
          rw [hb.active] at hch
          refine hb.covers ch hch (ha rfl ch (mem_activeChannels.2 ?_))
          rw [hr.active] at hch
          exact hch
        simp only [ends_bind]
        exact (ends_drainCommands hb.sane hco).imp fun _ _ hd => hd.resubscribed

end

section

variable {c : Core}

structure Reconnected (outcome : ReconnectOutcome) (c : Core) : Prop where
  sane : Sane c
  idle : outcome ≠ .shutdown → c.deferred = []
  covered : outcome = .ok → c.Covered

lemma ends_restore (buf : List RelayMessage) (h : Ready w.core) :
    Ends (restore E buf) w (fun res v => Resubscribed res v.core) Resting := by
  simp only [restore,ends_bind]
  have hn : Ready (w.core.noted .connected) := ⟨⟨h.reachable.step .connected,h.settled⟩,h.idle⟩
  refine (tame_processHandshakeBuffer buf).ends fun ok v hv => ?_
  have hr : Ready v.core := hn.works hv
  cases ok with
  | true => exact ends_resubscribeAfterReconnect true hr
  | false => exact ⟨hr.toSane,fun _ => hr.idle,by simp⟩

/-- What a round of the bounded ladder keeps, and how the ladder ends. -/
def Attempting (r : (ℕ × ℕ) ⊕ ReconnectOutcome) (v : World) : Prop :=
  Sum.elim (fun _ => Ready v.core) (Reconnected · v.core) r

lemma ends_autonomousBackoff (att dnsRetryCount : ℕ) (h : Ready w.core) :
    Ends (autonomousBackoff E att dnsRetryCount) w Attempting Resting := by
  unfold autonomousBackoff
  split
  · simp only [ends_bind]
    exact ends_pause h (fun v hv => hv) fun v hv => ⟨hv,by simp,by simp⟩
  · exact h

lemma ends_autonomousRound (progress : ℕ × ℕ) (h : Ready w.core) :
    Ends (autonomousRound E progress) w Attempting Resting := by
  unfold autonomousRound
  split
  · simp only [ends_bind]
    refine ends_waitFor (h.resting (by simp)) fun res rest => ?_
    cases res with
    | connected buf =>
      simp only [ends_bind]
      refine (ends_restore (w := { w with inputs := rest }) buf h).imp ?_
      intro res v hv
      cases res with
      | ok => exact ⟨hv.sane,fun _ => hv.idle (by simp),fun _ => hv.covered rfl⟩
      | shutdown => exact ⟨hv.sane,by simp,by simp⟩
      | retryConnection => exact ends_autonomousBackoff _ _ (hv.ready (by simp))
    | dnsError =>
      simp only
      split
      · simp only [ends_bind]
        exact ends_pause (w := { w with inputs := rest }) h (fun v hv => hv) fun v hv => ⟨hv,by simp,by simp⟩
      · exact ends_autonomousBackoff _ _ h
    | error => exact ends_autonomousBackoff _ _ h
  · exact ⟨h.toSane,fun _ => h.idle,by simp⟩

lemma ends_tryAutonomousReconnect (h : Ready w.core) :
    Ends (tryAutonomousReconnect E) w (fun out v => Reconnected out v.core) Resting := by
  simp only [tryAutonomousReconnect,ends_bind]
  refine tame_requeue.ends fun _ v hv => ?_
  refine ends_rounds (fun _ v => Ready v.core) ?_ (fun _ v hv => hv.resting (by simp)) _ _ (h.works hv)
  exact fun progress v hv => ends_autonomousRound progress hv

def Recovered (outcome : ReconnectOutcome) (c : Core) : Prop :=
  Sane c ∧ (outcome ≠ .shutdown → Ready c ∧ c.Covered)

lemma ends_awaitReconnect (skipDrain : Bool) (h : Ready w.core) :
    Ends (awaitReconnect E skipDrain) w (fun _ v => Ready v.core) Resting := by
  unfold awaitReconnect
  split
  · exact h
  · refine ends_rounds (fun _ v => Ready v.core) ?_ (fun _ v hv => hv.resting (by simp)) _ () h
    intro _ v hv
    simp only [awaitReconnectRound,ends_bind]
    refine ends_waitFor (hv.resting (by simp)) fun cmd rest => ?_
    have ha : ∀ cmd : RelayCommand, Ends (do note (.took cmd); applyCommandToState E cmd; pure (.inl ()))
        { v with inputs := rest } (fun (r : Unit ⊕ Bool) u => Sum.elim (fun _ => Ready u.core)
          (fun _ => Ready u.core) r) Resting := fun cmd => by
      simp only [ends_bind]
      exact ends_applyCommandToState fun u hu _ => hv.took hu
    cases cmd with
    | none => exact hv
    | some cmd =>
      cases cmd with
      | reconnect | shutdown => exact hv
      | _ => exact ha _

lemma ends_ladderBackoff (att : ℕ) (h : Ready w.core) : Ends (ladderBackoff E att) w
      (fun r v => Sum.elim (fun _ => Ready v.core) (Recovered · v.core) r) Resting := by
  simp only [ladderBackoff,ends_bind,ends_modifyState]
  exact ends_pause h (fun v hv => hv) fun v hv => ⟨hv,by simp⟩

lemma ends_waitRound (att : ℕ) (h : Ready w.core) : Ends (waitRound E att) w
      (fun r v => Sum.elim (fun _ => Ready v.core) (Recovered · v.core) r) Resting := by
  simp only [waitRound,ends_bind]
  refine ends_waitFor (h.resting (by simp)) fun res rest => ?_
  cases res with
  | connected buf =>
    simp only [ends_bind]
    refine (ends_restore (w := { w with inputs := rest }) buf h).imp ?_
    intro res v hv
    cases res with
    | ok =>
      simp only [ends_bind]
      exact ends_drainPostReconnect (hv.ready (by simp)) (hv.covered rfl)
    | shutdown => exact ⟨hv.sane,by simp⟩
    | retryConnection => exact ends_ladderBackoff _ (hv.ready (by simp))
  | dnsError =>
    simp only [ends_bind]
    exact ends_pause (w := { w with inputs := rest }) h (fun v hv => hv) fun v hv => ⟨hv,by simp⟩
  | error => exact ends_ladderBackoff _ h

lemma ends_waitForReconnect (skipDrain : Bool) (h : Ready w.core) :
    Ends (waitForReconnect E skipDrain) w (fun out v => Recovered out v.core) Resting := by
  simp only [waitForReconnect,ends_bind]
  refine tame_requeue.ends fun _ v hv => ?_
  refine (ends_awaitReconnect skipDrain (h.works hv)).imp ?_
  intro ok u hu
  cases ok with
  | false => exact ⟨hu.toSane,by simp⟩
  | true =>
    refine ends_rounds (fun _ v => Ready v.core) ?_ (fun _ v hv => hv.resting (by simp)) _ _ hu
    exact fun att v hv => ends_waitRound att hv

def Continues (goesOn : Bool) (c : Core) : Prop := Sane c ∧ (goesOn = true → Ready c ∧ c.Covered)

lemma Recovered.continues {out : ReconnectOutcome} (h : Recovered out c) : Continues (goesOn out) c := by
  cases out with
  | shutdown => exact ⟨h.1,by simp [goesOn]⟩
  | ok | failed => exact ⟨h.1,fun _ => h.2 (by simp)⟩

lemma ends_recover (h : Ready w.core) : Ends (recover E) w (fun ok v => Continues ok v.core) Resting := by
  simp only [recover,ends_bind]
  refine tame_signalLoss.ends fun _ v hv => ?_
  refine (ends_tryAutonomousReconnect (h.works hv)).imp ?_
  intro out u hu
  cases out with
  | ok =>
    simp only [ends_bind]
    exact (ends_drainPostReconnect ⟨hu.sane,hu.idle (by simp)⟩ (hu.covered rfl)).imp
      fun _ _ h => Recovered.continues h
  | shutdown => exact ⟨hu.sane,by simp⟩
  | failed =>
    simp only [ends_bind]
    exact (ends_waitForReconnect true ⟨hu.sane,hu.idle (by simp)⟩).imp fun _ _ h => h.continues

end

variable (l : Loop)

section

/-- What the main loop keeps from one round to the next, and what holds when it is left. -/
def Looping (r : Loop ⊕ Unit) (w : World) : Prop :=
  Sum.elim (fun _ => Ready w.core ∧ w.core.Covered) (fun _ => Sane w.core) r

lemma ends_tame {m : Job Loop} (hm : Tame m) (h : Ready w.core) (hc : w.core.Covered)
    {Q : Loop → World → Prop} {S : Site → World → Prop}
    (hQ : ∀ l v, Ready v.core → v.core.Covered → Q l v) : Ends m w Q S :=
  hm.ends fun l v hv => hQ l v (h.works hv) (hv.coveredBut excuse_abandoned h.reachable.known hc)

lemma ends_recovered (h : Ready w.core) : Ends (recovered E l) w Looping Resting := by
  simp only [recovered,ends_bind]
  refine (ends_recover h).imp ?_
  intro ok v hv
  cases ok with
  | false => exact hv.1
  | true =>
    simp only [if_true,ends_bind]
    exact ends_tame (tame_restarted l) (hv.2 rfl).1 (hv.2 rfl).2 fun _ _ h h' => ⟨h,h'⟩

lemma ends_proactiveResubscribe (h : Ready w.core) (hc : w.core.Covered) :
    Ends (proactiveResubscribe E l) w Looping Resting := by
  simp only [proactiveResubscribe,ends_bind,ends_readState]
  split
  · simp only [ends_bind,ends_modifyState]
    refine Ends.imp (ends_resubscribeAfterReconnect false ?_) ?_
    · exact h
    intro res v hv
    cases res with
    | ok => exact ⟨hv.ready (by simp),hv.covered rfl⟩
    | shutdown => exact hv.sane
    | retryConnection => exact ends_recovered l (hv.ready (by simp))
  · exact ⟨h,hc⟩

lemma ends_onMessage (raw : Raw) (h : Ready w.core) (hc : w.core.Covered) :
    Ends (onMessage E l raw) w Looping Resting := by
  have hh : ∀ msg, Ends (do if ← handleWsMessage E msg then pure (.inl l) else recovered E l) w
      Looping Resting := fun msg => by
    simp only [ends_bind]
    refine (tame_handleWsMessage msg).ends fun ok v hv => ?_
    cases ok with
    | true => exact ⟨h.works hv,hv.coveredBut excuse_abandoned h.reachable.known hc⟩
    | false => exact ends_recovered l (h.works hv)
  cases raw with
  | failed | ended => exact ends_recovered l h
  | received msg =>
    cases msg with
    | pong => exact ⟨h,hc⟩
    | _ => exact hh _

lemma ends_shutDown (h : Ready w.core) : Ends (shutDown E) w Looping Resting := by
  simp only [shutDown,ends_bind]
  exact (tame_wsSend (by simp)).ends fun _ v hv => (h.works hv).toSane

lemma ends_onReconnectCommand (h : Ready w.core) : Ends (onReconnectCommand E l) w Looping Resting := by
  simp only [onReconnectCommand,ends_bind]
  refine (ends_waitForReconnect true h).imp ?_
  intro out v hv
  have hc := hv.continues
  split
  next hg =>
    obtain ⟨hr,hco⟩ := hc.2 hg
    simp only [ends_bind]
    exact ends_tame (tame_restarted l) hr hco fun _ _ h h' => ⟨h,h'⟩
  · exact hc.1

lemma ends_onCommand (cmd : Option RelayCommand) (h : Ready w.core)
    (hc : w.core.Covered) : Ends (onCommand E l cmd) w Looping Resting := by
  have he : ∀ cmd, Ends (do
      note (.took cmd)
      if ← executeConnectedCommand E cmd then pure (.inl l)
      else recovered E l) w Looping Resting := fun cmd => by
    simp only [ends_bind]
    refine ends_executeConnectedCommand fun ok v hv hk => ?_
    have hr : Ready v.core := h.took hv
    cases ok with
    | false => exact ends_recovered l hr
    | true =>
      have hkn := (h.reachable.step (.took cmd)).known
      exact ⟨hr,(hk hkn).covered rfl ((keeps_took cmd).covered rfl hc)⟩
  cases cmd with
  | none => exact ends_shutDown h
  | some cmd =>
    cases cmd with
    | shutdown => exact ends_shutDown h
    | reconnect => exact ends_onReconnectCommand l h
    | _ => exact he _

lemma ends_onPingTick (h : Ready w.core) (hc : w.core.Covered) : Ends (onPingTick E l) w Looping Resting := by
  simp only [onPingTick,ends_bind,ends_ask]
  split
  · exact ends_recovered l h
  · split
    · simp only [ends_bind]
      refine (tame_wsSend (by simp)).ends fun ok v hv => ?_
      cases ok with
      | true => exact ⟨h.works hv,hv.coveredBut excuse_abandoned h.reachable.known hc⟩
      | false => exact ends_recovered l (h.works hv)
    · exact ⟨h,hc⟩

lemma ends_onWake (wake : Wake) (h : Ready w.core) (hc : w.core.Covered) :
    Ends (onWake E l wake) w Looping Resting := by
  cases wake with
  | message raw => exact ends_onMessage l raw h hc
  | command cmd => exact ends_onCommand l cmd h hc
  | pingTick => exact ends_onPingTick l h hc
  | pacing => exact ⟨h,hc⟩

lemma ends_mainRound (h : Ready w.core) (hc : w.core.Covered) : Ends (mainRound E l) w Looping Resting := by
  simp only [mainRound,ends_bind]
  refine (ends_proactiveResubscribe l h hc).imp ?_
  rintro (l | _) v hv
  · simp only [ends_bind]
    refine ends_tame (tame_drainPending l) hv.1 hv.2 fun l u hu hco => ?_
    refine ends_waitFor ⟨hu.toSane,fun _ => hco⟩ fun wake rest => ?_
    refine (ends_onWake l wake (w := { u with inputs := rest }) hu hco).imp ?_
    rintro (l | _) t ht
    · simp only [ends_bind]
      exact ends_tame (tame_noteStable l) ht.1 ht.2 fun _ _ h h' => ⟨h,h'⟩
    · exact ht
  · exact hv

lemma ends_mainLoop (h : Ready w.core) (hc : w.core.Covered) :
    Ends (mainLoop E) w (fun _ v => Sane v.core) Resting := by
  refine ends_rounds (fun _ v => Ready v.core ∧ v.core.Covered) ?_
    (fun _ v hv => hv.1.resting (by simp)) _ _ ⟨h,hc⟩
  exact fun l v hv => ends_mainRound l hv.1 hv.2

lemma ready_start (inputs : List Input) : Ready (World.start inputs).core := ⟨⟨.refl,rfl⟩,rfl⟩

lemma covered_start (inputs : List Input) : (World.start inputs).core.Covered :=
  fun _ ha => by simp [World.start,World.core,BgState.new] at ha

/-- Wherever a run of the task stops, it is sane, and no channel is stranded where the main loop
waits. -/
lemma run_rests (E : Env) (buf : List RelayMessage) (inputs : List Input) :
    Sane (run E buf inputs).1.core ∧
      ((run E buf inputs).2 = .error .select → (run E buf inputs).1.core.Covered) := by
  have he : Ends (runBackgroundTask E buf) (.start inputs) (fun _ v => Sane v.core) Resting := by
    simp only [runBackgroundTask,ends_bind]
    refine (tame_processHandshakeBuffer buf).ends fun ok v hv => ?_
    have hr := (ready_start inputs).works hv
    cases ok with
    | true =>
      exact ends_mainLoop hr
        (hv.coveredBut excuse_abandoned (ready_start inputs).reachable.known (covered_start inputs))
    | false =>
      simp only [Bool.false_eq_true,if_false,ends_bind]
      refine (ends_recover hr).imp ?_
      intro ok u hu
      cases ok with
      | true => exact ends_mainLoop (hu.2 rfl).1 (hu.2 rfl).2
      | false => exact hu.1
  unfold Ends at he
  rw [run]
  rcases hrun : runBackgroundTask E buf (.start inputs) with ⟨v,site | _⟩
  · rw [hrun] at he
    exact ⟨he.1,fun hs => he.2 (by simpa using hs)⟩
  · rw [hrun] at he
    exact ⟨he,by simp⟩

end

end BuzzSolo.AcpRelay
