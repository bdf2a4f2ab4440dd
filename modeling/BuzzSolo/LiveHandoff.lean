import BuzzSolo.LiveSession
import BuzzSolo.PulseChain
import BuzzSolo.QueryVisibility

/-! What a subscription is owed. A stored event is announced on the live stream afterwards, and a
session receives nothing between the read of a history and the registration. So what the session had
not received comes later, and the rest was stored before and is in the history, unless a limit cut
it off or another event had replaced it. -/
namespace BuzzSolo.LocalRelay

open Ingest EventStore HashTable List LatestRegister
open Query (Principal EffectiveSet CursorFilter)

/-- The event that a submission will send next to the live stream. -/
def Task.announces : Task → Option Event
  | .publishing event _ _ => some event
  | .sending event _ _ => some event
  | _ => none

/-- The event that a submission has in hand once the store has answered. -/
def Task.holds : Task → Option Event
  | .recording event _ _ => some event
  | task => task.announces

/-- Another effective event has the event's key and outranks it. -/
def Replaced (events : List StoredEvent) (e : Event) : Prop :=
  ∃ t ∈ events, replacementKey e ≠ none ∧ replacementKey t.event = replacementKey e ∧ rank e < rank t.event

def Kept (X : Crates) (events : List StoredEvent) (e : Event) : Prop :=
  storedEvent X.toCrates e ∈ events ∨ Replaced events e

/-- The journal has the event, but it is neither effective nor replaced; no step of the relay makes one. -/
def Lost (X : Crates) (s : Store) (e : Event) : Prop := e ∈ s.journal ∧ ¬Kept X s.events e

variable {bef : Store} {events : List StoredEvent}

section

variable {X : Crates} {R : Relay} {m : Moment}

/-- What one step of a task does for the events that are stored: a new one is announced next, what
was to be announced is sent, and only a durable event that is stored is ever announced. -/
structure Announcing (X : Crates) (s next : State) (out : List Sent) (task left : Task) : Prop where
  effective : EffectiveSet s.store.events → EffectiveSet next.store.events
  stored : ∀ e ∈ next.store.journal, e ∈ s.store.journal ∨
    (isEphemeralKind e.kind = false ∧ left.announces = some e ∧ Kept X next.store.events e)
  sent : ∀ e, task.announces = some e → Sent.plain e ∈ out
  journal : ∀ e ∈ s.store.journal, e ∈ next.store.journal
  kept : ∀ e, Kept X s.store.events e → Kept X next.store.events e
  told : ∀ e, Sent.plain e ∈ out ∨ left.holds = some e → isEphemeralKind e.kind = false →
    e ∈ next.store.journal ∨ task.holds = some e

variable {event : Event}

lemma Kept.apply {e : Event} (h : Kept X events e) (cand : StoredEvent) :
    Kept X (applyEffectiveEvent events cand).1 e := by
  rcases h with hm | ⟨t,ht,hn,hk,hlt⟩
  · rcases mem_or_outranked cand hm with hm | ⟨hc,hr,hlt⟩
    · exact .inl hm
    · exact .inr ⟨cand,hc,hr.symm.1,hr.2.symm,hlt⟩
  · rcases mem_or_outranked cand ht with ht | ⟨hc,hr,hgt⟩
    · exact .inr ⟨t,ht,hn,hk,hlt⟩
    · exact .inr ⟨cand,hc,hn,hr.2.symm.trans hk,hlt.trans hgt⟩

lemma durable_of_stored {seen : Bool}
    (h : decideEvent events seen event = .stored) : isEphemeralKind event.kind = false := by
  cases hk : isEphemeralKind event.kind with
  | false => rfl
  | true =>
    unfold decideEvent at h
    split at h
    · simp at h
    · simp [classifyEvent,hk] at h

lemma ephemeral_of_decided {seen : Bool}
    (h : decideEvent events seen event = .ephemeral) : isEphemeralKind event.kind = true := by
  by_contra hk
  have hc : classifyEvent event ≠ .ephemeral := by
    rw [classifyEvent,if_neg hk]
    cases replacementKey event <;> simp
  unfold decideEvent at h
  split_ifs at h
  split at h
  next he => exact hc he
  · cases h
  · split at h
    · split_ifs at h
    · cases h

variable {io : AppendOutcome} {store : Store} {ans : Except StoreError WriteResult}

/-- An event enters the journal, and becomes effective, exactly with the answer that it is stored;
then it is to be published. -/
lemma stored_of_accept {s : Store} (h : accept X.toCrates io s event = (store,ans)) :
    (store.journal = s.journal ∧ store.events = s.events ∧
      (isEphemeralKind event.kind = false → ∀ res, ans = .ok res → res.publishLive = false)) ∨
    (store.journal = s.journal ++ [event] ∧ isEphemeralKind event.kind = false ∧
      store.events = (applyEffectiveEvent s.events (storedEvent X.toCrates event)).1 ∧
      storedEvent X.toCrates event ∈ store.events ∧ ans = .ok (.ofAccepted event "stored" true)) := by
  have ho := accept_outcome X.toCrates io s event
  rw [h] at ho
  cases ho with
  | rejected | duplicate | superseded | failed =>
    refine .inl ⟨rfl,rfl,?_⟩
    rintro - res ⟨⟩ <;> rfl
  | ephemeral _ hd => exact .inl ⟨rfl,rfl,fun hdu => by simp [ephemeral_of_decided hd] at hdu⟩
  | stored wr _ hd =>
    have hs : decideEvent s.events false event = .stored := by
      cases hse : decide (event.id ∈ s.seenIds) with
      | false => rwa [hse] at hd
      | true => simp [decideEvent,hse] at hd
    refine .inr ⟨rfl,durable_of_stored hd,rfl,?_,rfl⟩
    show _ ∈ (applyEffectiveEvent s.events (storedEvent X.toCrates event)).1
    rw [applyEffectiveEvent_of_stored hs]
    exact self_mem_place

lemma effective_of_accept {s : Store}
    (h : accept X.toCrates io s event = (store,ans)) (he : EffectiveSet s.events) :
    EffectiveSet store.events := by
  have hn := Query.accept_effectiveSet X.toCrates io he event
  rwa [h] at hn

lemma Announcing.quiet {s next : State} {out : List Sent} {task left : Task}
    (hs : next.store = s.store) (hse : ∀ e, task.announces = some e → Sent.plain e ∈ out)
    (ht : ∀ e, Sent.plain e ∈ out ∨ left.holds = some e → task.holds = some e) :
    Announcing X s next out task left :=
  ⟨fun h => hs ▸ h,fun _ he => .inl (hs ▸ he),hse,fun _ he => hs ▸ he,fun _ he => hs ▸ he,
    fun e he _ => .inr (ht e he)⟩

lemma Announcing.accept {s : State} {task left : Task}
    (h : EventStore.accept X.toCrates io s.store event = (store,ans)) (ht : task.announces = none)
    (hl : ans = .ok (.ofAccepted event "stored" true) → left.announces = some event)
    (hh : ∀ e, left.holds = some e → isEphemeralKind e.kind = false →
      e = event ∧ ∃ res, ans = .ok res ∧ res.publishLive = true) :
    Announcing X s { s with store := store } [] task left := by
  rcases stored_of_accept h with ⟨hj,hev,hn⟩ | ⟨hj,hd,hev,hin,ha⟩
  · refine ⟨effective_of_accept h,fun e he => .inl (hj ▸ he),by simp [ht],fun e he => hj ▸ he,
      fun e he => hev ▸ he,?_⟩
    rintro e (hout | hle) hdu
    · simp at hout
    · obtain ⟨rfl,res,hr,hp⟩ := hh e hle hdu
      simp [hn hdu res hr] at hp
  · have hmem : ∀ e, e ∈ store.journal ↔ e ∈ s.store.journal ∨ e = event := by simp [hj]
    refine ⟨effective_of_accept h,?_,by simp [ht],fun e he => (hmem e).2 (.inl he),?_,?_⟩
    · intro e he
      rcases (hmem e).1 he with hold | rfl
      · exact .inl hold
      · exact .inr ⟨hd,hl ha,.inl hin⟩
    · intro e he
      show Kept X store.events e
      rw [hev]
      exact he.apply _
    · rintro e (hout | hle) hdu
      · simp at hout
      · exact .inl ((hmem e).2 (.inr (hh e hle hdu).1))

lemma afterAccept_holds {e : Event} {res : WriteResult} {proj : List Event}
    (h : (afterAccept event res proj).holds = some e) : e = event ∧ res.publishLive = true := by
  unfold afterAccept at h
  split at h
  next hp => exact ⟨(Option.some.inj h).symm,hp⟩
  · simp [Task.holds,Task.announces] at h

lemma Task.enter_announcing (s : State) (ev : Event) (prin : Option Principal) :
    Announcing X s (Task.enter X R m s ev prin).1 [] (.arrived ev prin)
      (Task.enter X R m s ev prin).2 := by
  have hq : ∀ ans, Announcing X s s [] (.arrived ev prin) (.finished ans) := fun ans =>
    .quiet rfl (by simp [Task.announces]) (by simp [Task.holds,Task.announces])
  unfold Task.enter
  split
  · exact hq _
  · split
    · exact hq _
    · exact hq _
    · split
      next store e ha => exact .accept ha rfl (by simp) (by simp [Task.holds,Task.announces])
      next store res ha =>
        refine .accept ha rfl ?_ ?_
        · intro han
          cases han
          simp [WriteResult.ofAccepted,afterAccept,Task.announces]
        · intro e he hdu
          split at he
          next hk =>
            cases he
            simp [hk.1,kindBeaconResponse,isEphemeralKind] at hdu
          · exact ⟨(afterAccept_holds he).1,res,rfl,(afterAccept_holds he).2⟩

lemma Task.step_announcing (s : State) (task : Task) :
    Announcing X s (task.step X R m s).1 (task.step X R m s).2.1 task (task.step X R m s).2.2 := by
  cases task with
  | arrived event prin => exact Task.enter_announcing s event prin
  | recording event res proj =>
    simp only [Task.step]
    split
    · exact .quiet rfl (by simp [Task.announces]) (by simp [Task.holds,Task.announces])
    · refine .quiet rfl (by simp [Task.announces]) ?_
      rintro e (hout | hle)
      · simp at hout
      · exact congrArg some (afterAccept_holds hle).1.symm
  | publishing | sending =>
    exact .quiet rfl (by simp [Task.step,Task.announces]) (by simp [Task.step,Task.holds,Task.announces])
  | projecting res proj =>
    cases proj with
    | nil =>
      refine .quiet rfl (by simp [Task.announces]) ?_
      simp only [Task.step]
      split <;> simp [Task.holds,Task.announces]
    | cons event rest =>
      simp only [Task.step]
      split
      next store e ha => exact .accept ha rfl (by simp) (by simp [Task.holds,Task.announces])
      next store acc ha =>
        refine .accept ha rfl ?_ ?_
        · intro han
          cases han
          simp [WriteResult.ofAccepted,Task.announces]
        · intro e he _
          split at he
          next hp => exact ⟨(Option.some.inj he).symm,acc,rfl,hp⟩
          · simp [Task.holds,Task.announces] at he
  | witnessing | signing =>
    refine .quiet rfl (by simp [Task.announces]) ?_
    simp only [Task.step]
    split <;> simp [Task.holds,Task.announces]
  | registering | emitting | finished =>
    exact .quiet rfl (by simp [Task.announces]) (by simp [Task.step,Task.holds,Task.announces])

/-- Each stored event was stored before the run began, has been announced, or is about to be; it
is effective or has been replaced. What has been announced was stored. -/
structure Announced (X : Crates) (before : Store) (w : World) : Prop where
  effective : EffectiveSet w.relay.store.events
  journal : ∀ e ∈ w.relay.store.journal, e ∈ before.journal ∨ (isEphemeralKind e.kind = false ∧
    (Sent.plain e ∈ w.live ∨ ∃ task ∈ w.tasks, task.announces = some e))
  first : ∀ e ∈ before.journal, e ∈ w.relay.store.journal
  kept : ∀ e ∈ w.relay.store.journal, Kept X w.relay.store.events e ∨ Lost X before e
  told : ∀ e, (Sent.plain e ∈ w.live ∨ ∃ task ∈ w.tasks, task.holds = some e) →
    isEphemeralKind e.kind = false → e ∈ w.relay.store.journal

lemma Announced.of_store {w : World} (h : Announced X bef w) {s : State}
    (hs : s.store = w.relay.store) : Announced X bef { w with relay := s } := by
  refine ⟨?_,?_,?_,?_,?_⟩
  all_goals simp only [hs]
  exacts [h.effective,h.journal,h.first,h.kept,h.told]

lemma Announced.step {w : World} (h : Announced X bef w) (a : Action) :
    Announced X bef (w.step X R a) := by
  cases a with
  | arrive event prin =>
    refine ⟨h.effective,?_,h.first,h.kept,?_⟩
    · intro e he
      refine (h.journal e he).imp_right fun ha => ⟨ha.1,ha.2.imp_right ?_⟩
      rintro ⟨task,ht,hn⟩
      exact ⟨task,mem_append_left _ ht,hn⟩
    · rintro e (hs | ⟨task,ht,hn⟩) hd
      · exact h.told e (.inl hs) hd
      · rcases mem_append.1 ht with hold | hnew
        · exact h.told e (.inr ⟨task,hold,hn⟩) hd
        · simp [mem_singleton.1 hnew,Task.holds,Task.announces] at hn
  | run i m =>
    simp only [World.step]
    cases hi : w.tasks[i]? with
    | none => exact h
    | some task =>
      have hst := @Task.step_announcing X R m w.relay task
      have hlt : i < w.tasks.length := (List.getElem?_eq_some_iff.1 hi).1
      have hold : ∀ e, e ∈ w.relay.store.journal ∨ task.holds = some e → isEphemeralKind e.kind = false →
          e ∈ (task.step X R m w.relay).1.store.journal := by
        rintro e (hin | hta) hd
        · exact hst.journal e hin
        · exact hst.journal e (h.told e (.inr ⟨task,mem_of_getElem? hi,hta⟩) hd)
      refine ⟨hst.effective h.effective,?_,fun e he => hst.journal e (h.first e he),?_,?_⟩
      · intro e he
        rcases hst.stored e he with hold | ⟨hd,hn,-⟩
        · refine (h.journal e hold).imp_right fun ha => ⟨ha.1,?_⟩
          rcases ha.2 with hs | ⟨other,ho,hn⟩
          · exact .inl (mem_append_left _ hs)
          · -- the task that holds the event has just sent it, or has not moved
            obtain ⟨j,hj⟩ := mem_iff_getElem?.1 ho
            by_cases hij : i = j
            · subst hij
              rw [hi] at hj
              cases hj
              exact .inl (mem_append_right _ (hst.sent e hn))
            · refine .inr ⟨other,mem_iff_getElem?.2 ⟨j,?_⟩,hn⟩
              rw [getElem?_set_ne hij]
              exact hj
        · exact .inr ⟨hd,.inr ⟨_,mem_set hlt _,hn⟩⟩
      · intro e he
        rcases hst.stored e he with hold | ⟨-,-,hk⟩
        · exact (h.kept e hold).imp_left (hst.kept e)
        · exact .inl hk
      · rintro e (hs | ⟨other,ho,hn⟩) hd
        · rcases mem_append.1 hs with hs | hs
          · exact hold e (.inl (h.told e (.inl hs) hd)) hd
          · exact (hst.told e (.inl hs) hd).elim id fun hta => hold e (.inr hta) hd
        · rcases mem_or_eq_of_mem_set ho with ho | rfl
          · exact hold e (.inl (h.told e (.inr ⟨other,ho,hn⟩) hd)) hd
          · exact (hst.told e (.inr hn) hd).elim id fun hta => hold e (.inr hta) hd

end

section

variable (X : Crates) (R : Relay)

/-- The event matches the subscription's filters and may be seen by the session. -/
def Wanted (ses : Session) (sub : Subscription) (e : Event) : Prop :=
  Filter.filtersMatch sub.filters (storedEvent X.toCrates e) = true ∧
    Query.eventIsVisible (identityOf R) ses.principal e = true

/-- The event has been sent on the subscription. -/
def Delivered (ses : Session) (id : String) (sub : Subscription) (e : Event) : Prop :=
  Frame.event id e ∈ ses.frames.drop sub.written

def ToldLagged (ses : Session) (sub : Subscription) : Prop :=
  ∃ skipped, Frame.notice (laggedText skipped) ∈ ses.frames.drop sub.written

def Phase.sending : Phase → Bool
  | .answering _ _ => true
  | .delivering _ _ => true
  | _ => false

/-- The session has still to receive the event, or is about to deliver it. -/
def Coming (live : List Sent) (ses : Session) (id : String) (sub : Subscription) (e : Event) : Prop :=
  Sent.plain e ∈ live.drop ses.position ∨ ∃ rest, ses.phase = .delivering e rest ∧ (id,sub) ∈ rest

/-- The event is in the part of the history that has still to be written. -/
def Answering (ses : Session) (id : String) (e : Event) : Prop :=
  ∃ rest, ses.phase = .answering id rest ∧ e ∈ rest

/-- The event was effective when the history was read, beyond the limit of every filter. -/
def CutOff (sub : Subscription) (e : Event) : Prop :=
  ∀ f ∈ sub.filters, storedEvent X.toCrates e ∉ Query.taken ⟨f,none⟩ (Query.orderedEvents sub.snapshot)

variable (bef : Store)

/-- The history was read in a world that the run has passed through. -/
def Read (live : List Sent) (sub : Subscription) : Prop :=
  ∃ w : World, Announced X bef w ∧ w.live <+: live ∧ sub.received ≤ w.live.length ∧
    sub.snapshot = w.relay.store.events

structure Served (live : List Sent) (ses : Session) (id : String) (sub : Subscription) : Prop where
  received_le : sub.received ≤ ses.position
  written_le : sub.written ≤ ses.frames.length
  read : Read X bef live sub
  live : ∀ e, Sent.plain e ∈ live.drop sub.received → isEphemeralKind e.kind = false →
    Wanted X R ses sub e → Delivered ses id sub e ∨ ToldLagged ses sub ∨ Coming live ses id sub e
  history : ∀ e, storedEvent X.toCrates e ∈ sub.snapshot → Wanted X R ses sub e →
    Delivered ses id sub e ∨ CutOff X sub e ∨ Answering ses id e

/-- A history that has been read and not yet registered; the session has not moved since. -/
structure Prepared (live : List Sent) (ses : Session) (sub : Subscription) (events : List Event) : Prop where
  received_eq : sub.received = ses.position
  written_eq : sub.written = ses.frames.length
  complete : ∀ e, storedEvent X.toCrates e ∈ sub.snapshot →
    Query.eventIsVisible (identityOf R) ses.principal e = true → e ∈ events ∨ CutOff X sub e
  read : Read X bef live sub

/-- A REQ is only taken up for a session that may read. -/
def Authorized (ses : Session) : Prop := Query.authorizeQuery (identityOf R) ses.principal = .ok ()

def Busy (live : List Sent) (ses : Session) : Prop :=
  match ses.phase with
  | .away => ses.subscriptions = ∅
  | .idle => True
  | .asked _ _ => Authorized R ses
  | .witnessing _ sub events => Authorized R ses ∧ Prepared X R bef live ses sub events
  | .signing _ sub events _ => Authorized R ses ∧ Prepared X R bef live ses sub events
  | .registering _ sub events _ => Authorized R ses ∧ Prepared X R bef live ses sub events
  | .answering _ _ => True
  | .delivering _ rest => ∀ entry ∈ rest, ses.subscriptions.lookup entry.1 = some entry.2
  | .ended => ses.subscriptions = ∅

structure SessionOk (live : List Sent) (ses : Session) : Prop where
  position_le : ses.position ≤ live.length
  authorized : ∀ id sub, ses.subscriptions.lookup id = some sub → Authorized R ses
  served : ∀ id sub, ses.subscriptions.lookup id = some sub → Served X R bef live ses id sub
  busy : Busy X R bef live ses

end

variable {event : Event}

section

variable {X : Crates} {R : Relay} {bef : Store} {live : List Sent} {ses next : Session} {id : String}
  {sub : Subscription}

lemma Read.grow (h : Read X bef live sub) (out : List Sent) : Read X bef (live ++ out) sub := by
  obtain ⟨w,hw,hp,hr⟩ := h
  exact ⟨w,hw,hp.trans (prefix_append _ _),hr⟩

/-- A subscription stays served when the session moves on: what was coming is delivered, is still
coming or is reported as lagged, and the rest of its history is written. -/
lemma Served.carry {live' : List Sent} (h : Served X R bef live ses id sub)
    (hp : next.principal = ses.principal) (hf : ses.frames <+: next.frames)
    (hlive : live <+: live') (hpo : ses.position ≤ live.length) (hn : ses.position ≤ next.position)
    (hnew : ∀ e, Sent.plain e ∈ live'.drop live.length → Coming live' next id sub e)
    (hco : ∀ e, isEphemeralKind e.kind = false → Wanted X R ses sub e → Coming live ses id sub e →
      Delivered next id sub e ∨ ToldLagged next sub ∨ Coming live' next id sub e)
    (ha : ∀ e, Answering ses id e → Delivered next id sub e ∨ Answering next id e) :
    Served X R bef live' next id sub := by
  have hwa : ∀ e, Wanted X R next sub e → Wanted X R ses sub e := by
    intro e he
    rwa [Wanted,hp] at he
  obtain ⟨more,hm⟩ := hf
  obtain ⟨out,rfl⟩ := hlive
  have hk : ∀ fm, fm ∈ ses.frames.drop sub.written → fm ∈ next.frames.drop sub.written := by
    intro fm hfr
    rw [← hm,drop_append_of_le_length h.written_le]
    exact mem_append_left _ hfr
  refine ⟨h.received_le.trans hn,?_,h.read.grow _,?_,?_⟩
  · rw [← hm,length_append]
    exact h.written_le.trans (Nat.le_add_right _ _)
  · intro e he hdu hw
    have hr : sub.received ≤ live.length := h.received_le.trans hpo
    rcases (Broadcast.mem_drop_append hr).1 he with hold | hout
    · rcases h.live e hold hdu (hwa e hw) with hd | ⟨skipped,hl⟩ | hc
      · exact .inl (hk _ hd)
      · exact .inr (.inl ⟨skipped,hk _ hl⟩)
      · exact hco e hdu (hwa e hw) hc
    · refine .inr (.inr (hnew e ?_))
      rwa [drop_left]
  · intro e he hw
    rcases h.history e he (hwa e hw) with hd | hcut | hre
    · exact .inl (hk _ hd)
    · exact .inr (.inl hcut)
    · exact (ha e hre).imp_right .inr

lemma Served.stay (h : Served X R bef live ses id sub) (hp : next.principal = ses.principal)
    (hf : ses.frames <+: next.frames) (hpo : ses.position ≤ live.length)
    (hs : next.position = ses.position)
    (hd : ∀ e rest, isEphemeralKind e.kind = false → Wanted X R ses sub e →
      ses.phase = .delivering e rest → (id,sub) ∈ rest →
      Delivered next id sub e ∨ ToldLagged next sub ∨ Coming live next id sub e)
    (ha : ∀ e, Answering ses id e → Delivered next id sub e ∨ Answering next id e) :
    Served X R bef live next id sub := by
  refine h.carry hp hf (prefix_refl _) hpo hs.ge (by simp) ?_ ha
  rintro e hdu hw (hah | ⟨rest,hphase,hm⟩)
  · refine .inr (.inr (.inl ?_))
    rwa [hs]
  · exact hd e rest hdu hw hphase hm

/-- While nothing is being sent, no event is on its way to the client. -/
lemma Served.still (h : Served X R bef live ses id sub) (hq : ses.phase.sending = false)
    (hp : next.principal = ses.principal) (hf : ses.frames <+: next.frames)
    (hpo : ses.position ≤ live.length) (hs : next.position = ses.position) :
    Served X R bef live next id sub := by
  refine h.stay hp hf hpo hs ?_ ?_
  · intro e rest _ _ hphase _
    simp [hphase,Phase.sending] at hq
  · rintro e ⟨rest,hphase,-⟩
    simp [hphase,Phase.sending] at hq

lemma Served.grow {out : List Sent} (h : Served X R bef live ses id sub) (hp : ses.position ≤ live.length) :
    Served X R bef (live ++ out) ses id sub := by
  refine h.carry rfl (prefix_refl _) (prefix_append _ _) hp le_rfl ?_ ?_ ?_
  · intro e he
    rw [drop_left] at he
    exact .inl ((Broadcast.mem_drop_append hp).2 (.inr he))
  · rintro e - - (ha | hd)
    · exact .inr (.inr (.inl ((Broadcast.mem_drop_append hp).2 (.inl ha))))
    · exact .inr (.inr (.inr hd))
  · exact fun e he => .inr he

lemma SessionOk.grow (h : SessionOk X R bef live ses) (out : List Sent) :
    SessionOk X R bef (live ++ out) ses := by
  refine ⟨?_,h.authorized,?_,?_⟩
  · rw [length_append]
    exact h.position_le.trans (Nat.le_add_right _ _)
  · intro id sub hs
    exact (h.served id sub hs).grow h.position_le
  · have hb := h.busy
    unfold Busy at hb ⊢
    split at hb
    all_goals first | exact hb | exact ⟨hb.1,{ hb.2 with read := hb.2.read.grow out }⟩

variable {es : List Event}

lemma Prepared.go (phase : Phase) (h : Prepared X R bef live ses sub es) :
    Prepared X R bef live { ses with phase := phase } sub es :=
  ⟨h.received_eq,h.written_eq,h.complete,h.read⟩

lemma Prepared.served (h : Prepared X R bef live ses sub es) :
    Served X R bef live (ses.register id sub es) id sub := by
  refine ⟨h.received_eq.le,h.written_eq.le,h.read,?_,?_⟩
  · intro e he _ _
    refine .inr (.inr (.inl ?_))
    rwa [h.received_eq] at he
  · intro e he hw
    rcases h.complete e he hw.2 with hm | hc
    · exact .inr (.inr ⟨es,rfl,hm⟩)
    · exact .inr (.inl hc)

/-- The other subscriptions do not notice a registration, which follows the read of a history. -/
lemma SessionOk.register (h : SessionOk X R bef live ses) (ha : Authorized R ses)
    (hp : Prepared X R bef live ses sub es)
    (hq : ses.phase.sending = false) : SessionOk X R bef live (ses.register id sub es) := by
  refine ⟨h.position_le,fun _ _ _ => ha,?_,trivial⟩
  intro o en he
  have hl : (ses.subscriptions.insert id sub).lookup o = some en := he
  rw [lookup_insert_eq] at hl
  by_cases ho : o = id
  · rw [if_pos ho,Option.some.injEq] at hl
    subst ho hl
    exact hp.served
  · rw [if_neg ho] at hl
    exact (h.served o en hl).still hq rfl (prefix_refl _) h.position_le rfl

/-- A session that only changes what it is doing, or writes a frame, while it neither delivers an
event nor writes a history. -/
lemma SessionOk.move (h : SessionOk X R bef live ses) (hsubs : next.subscriptions = ses.subscriptions)
    (hp : next.principal = ses.principal) (hf : ses.frames <+: next.frames)
    (hpo : next.position = ses.position)
    (hq : ses.phase.sending = false)
    (hb : Busy X R bef live next) : SessionOk X R bef live next := by
  refine ⟨hpo ▸ h.position_le,?_,?_,hb⟩
  · intro id sub hs
    have hok := h.authorized id sub (hsubs ▸ hs)
    rwa [Authorized,hp]
  · intro id sub hs
    exact (h.served id sub (hsubs ▸ hs)).still hq hp hf h.position_le hpo

lemma authorized_of_checkReq {fs : Except String (List Filter)} {parsed : List Filter}
    (h : ses.checkReq R id fs = .ok parsed) : Authorized R ses := by
  simp only [Session.checkReq,Checks.bind_eq_ok,Checks.exists_unit, Checks.relabelled_ok] at h
  obtain ⟨-,-,_,-,-,-,ha,-⟩ := h
  exact ha

lemma prefix_write (fm : Frame) : ses.frames <+: (ses.write fm).frames := prefix_append _ _

lemma SessionOk.authenticate (h : SessionOk X R bef live ses) (hp : ses.phase = .idle)
    (hi : R.identity.isSome = true) (hn : ses.principal = none) (prin : Option Principal) :
    SessionOk X R bef live { ses with principal := prin } := by
  have hr : ¬Authorized R ses := by
    obtain ⟨keys,hk⟩ := Option.isSome_iff_exists.1 hi
    simp [Authorized,Query.authorizeQuery,identityOf,hk,hn]
  refine ⟨h.position_le,?_,?_,?_⟩
  · exact fun id sub hs => absurd (h.authorized id sub hs) hr
  · exact fun id sub hs => absurd (h.authorized id sub hs) hr
  · simp [Busy,hp]

lemma SessionOk.handle (h : SessionOk X R bef live ses) (hp : ses.phase = .idle)
    (msg : ClientMessage) : SessionOk X R bef live (ses.handle R msg) := by
  have hq : ses.phase.sending = false := by rw [hp]; rfl
  cases msg with
  | req sid fs =>
    cases sid with
    | none => exact h.move rfl rfl (prefix_write _) rfl hq (by simp [Busy,Session.handle,Session.write,hp])
    | some sid =>
      simp only [Session.handle]
      cases hc : ses.checkReq R sid fs with
      | error why => exact h.move rfl rfl (prefix_write _) rfl hq trivial
      | ok parsed =>
        exact h.move rfl rfl (prefix_refl _) rfl hq (authorized_of_checkReq hc)
  | close sid =>
    cases sid with
    | none => exact h
    | some sid =>
      have ho : ∀ id sub, (ses.subscriptions.erase sid).lookup id = some sub →
          ses.subscriptions.lookup id = some sub := by
        intro id sub hs
        rw [lookup_erase_eq] at hs
        split at hs
        · simp at hs
        · exact hs
      refine ⟨h.position_le,fun id sub hs => h.authorized id sub (ho id sub hs),?_,?_⟩
      · intro id sub hs
        exact (h.served id sub (ho id sub hs)).still hq rfl (prefix_refl _) h.position_le rfl
      · simp [Busy,Session.handle,hp]
  | auth authenticated =>
    simp only [Session.handle]
    split
    next hnew => exact h.authenticate hp hnew.1 hnew.2 authenticated
    · exact h
  | unsupported =>
    exact h.move rfl rfl (prefix_write _) rfl hq (by simp [Busy,Session.handle,Session.write,hp])

/-- The answer that a REQ reads holds every visible effective event that no limit cuts off. -/
lemma prepared_of_query {w : World} {fs : List Filter} {es : List Event} (hw : Announced X bef w)
    (hp : ses.position ≤ w.live.length)
    (h : Query.queryWithCursors w.relay.store.events (fs.map fun f => ⟨f,none⟩) = .ok es) :
    Prepared X R bef w.live ses ⟨fs,ses.position,ses.frames.length,w.relay.store.events⟩
      (es.filter (Query.eventIsVisible (identityOf R) ses.principal)) := by
  refine ⟨rfl,rfl,?_,w,hw,prefix_refl _,hp,rfl⟩
  intro e he hv
  have hch : Query.checkCursors (fs.map fun f => ⟨f,none⟩) = .ok () := by
    cases hc : Query.checkCursors (fs.map fun f => (⟨f,none⟩ : CursorFilter)) with
    | error error => simp [Query.queryWithCursors,hc] at h
    | ok u => rfl
  obtain ⟨answer,ha,-,-,hm⟩ := Query.queryWithCursors_spec hw.effective hch
  rw [ha,Except.ok.injEq] at h
  subst h
  by_cases ht : ∃ f ∈ fs, storedEvent X.toCrates e ∈
      Query.taken ⟨f,none⟩ (Query.orderedEvents w.relay.store.events)
  · obtain ⟨f,hf,hin⟩ := ht
    refine .inl (mem_filter.2 ⟨(hm e).2 ?_,hv⟩)
    exact ⟨⟨f,none⟩,mem_map_of_mem hf,_,hin,rfl⟩
  · refine .inr fun f hf hin => ht ⟨f,hf,hin⟩

lemma delivered_write (h : sub.written ≤ ses.frames.length) :
    Delivered (ses.write (.event id event)) id sub event := by
  show _ ∈ (ses.frames ++ [_]).drop sub.written
  rw [drop_append_of_le_length h]
  simp

lemma SessionOk.answer {rest : List Event} (h : SessionOk X R bef live ses)
    (hp : ses.phase = .answering id (event :: rest)) :
    SessionOk X R bef live { ses.write (.event id event) with phase := .answering id rest } := by
  refine ⟨h.position_le,h.authorized,?_,trivial⟩
  intro o sub hsu
  have hs := h.served o sub hsu
  refine hs.stay rfl (prefix_write _) h.position_le rfl ?_ ?_
  · intro e ents _ _ hd _
    simp [hp] at hd
  · rintro e ⟨left,ha,he⟩
    rw [hp] at ha
    obtain ⟨rfl,rfl⟩ := Phase.answering.inj ha
    rcases mem_cons.1 he with rfl | hr
    · exact .inl (delivered_write hs.written_le)
    · exact .inr ⟨rest,rfl,hr⟩

lemma SessionOk.answered (h : SessionOk X R bef live ses) (hp : ses.phase = .answering id []) :
    SessionOk X R bef live { ses.write (.eose id) with phase := .idle } := by
  refine ⟨h.position_le,h.authorized,?_,trivial⟩
  intro o sub hs
  refine (h.served o sub hs).stay rfl (prefix_write _) h.position_le rfl ?_ ?_
  · intro e ents _ _ hd _
    simp [hp] at hd
  · rintro e ⟨left,ha,he⟩
    rw [hp] at ha
    obtain ⟨rfl,rfl⟩ := Phase.answering.inj ha
    simp at he

lemma liveVisible_of_durable {e : Event} (h : isEphemeralKind e.kind = false) (prin : Option Principal) :
    Session.liveVisible R prin e = Query.eventIsVisible (identityOf R) prin e := by
  unfold Session.liveVisible
  rw [if_neg]
  rintro (hk | hk) <;> simp [hk,Query.kindBeaconPulse,kindBeaconResponse,isEphemeralKind] at h

lemma SessionOk.deliver {rest : List (String × Subscription)}
    (h : SessionOk X R bef live ses) (hp : ses.phase = .delivering event ((id,sub) :: rest)) :
    SessionOk X R bef live
      (if (Filter.filtersMatch sub.filters (storedEvent X.toCrates event) &&
          Session.liveVisible R ses.principal event) = true then
        { ses.write (.event id event) with phase := .delivering event rest }
      else { ses with phase := .delivering event rest }) := by
  have hb := h.busy
  simp only [Busy,hp] at hb
  have hr : ∀ en ∈ rest, ses.subscriptions.lookup en.1 = some en.2 := fun en hen =>
    hb en (mem_cons_of_mem _ hen)
  have hc : ∀ {o en e ents}, ses.phase = .delivering e ents → (o,en) ∈ ents →
      e = event ∧ ((o = id ∧ en = sub) ∨ (o,en) ∈ rest) := by
    intro o en e ents hd hm
    rw [hp] at hd
    obtain ⟨rfl,rfl⟩ := Phase.delivering.inj hd
    exact ⟨rfl,(mem_cons.1 hm).imp_left Prod.mk.inj⟩
  have ha : ∀ o e, ¬Answering ses o e := by
    rintro o e ⟨left,hle,-⟩
    simp [hp] at hle
  split
  · refine ⟨h.position_le,h.authorized,?_,hr⟩
    intro o en hen
    have hs := h.served o en hen
    refine hs.stay rfl (prefix_write _) h.position_le rfl ?_ fun e he => absurd he (ha o e)
    intro e ents _ _ hd hm
    obtain ⟨rfl,⟨rfl,rfl⟩ | hl⟩ := hc hd hm
    · exact .inl (delivered_write hs.written_le)
    · exact .inr (.inr (.inr ⟨rest,rfl,hl⟩))
  next hsk =>
    refine ⟨h.position_le,h.authorized,?_,hr⟩
    intro o en hen
    refine (h.served o en hen).stay rfl (prefix_refl _) h.position_le rfl ?_
      fun e he => absurd he (ha o e)
    intro e ents hdu hw hd hm
    obtain ⟨rfl,⟨rfl,rfl⟩ | hl⟩ := hc hd hm
    · -- a wanted event is not skipped
      refine absurd ?_ hsk
      rw [liveVisible_of_durable hdu,hw.1,hw.2]
      rfl
    · exact .inr (.inr (.inr ⟨rest,rfl,hl⟩))

lemma SessionOk.delivered (h : SessionOk X R bef live ses)
    (hp : ses.phase = .delivering event []) : SessionOk X R bef live { ses with phase := .idle } := by
  refine ⟨h.position_le,h.authorized,?_,trivial⟩
  intro o sub hs
  refine (h.served o sub hs).stay rfl (prefix_refl _) h.position_le rfl ?_ ?_
  · intro e ents _ _ hd hm
    rw [hp] at hd
    obtain ⟨rfl,rfl⟩ := Phase.delivering.inj hd
    simp at hm
  · rintro e ⟨left,ha,-⟩
    simp [hp] at ha


lemma SessionOk.advance {w : World} (hw : Announced X bef w) (h : SessionOk X R bef w.live ses)
    (m : Moment) : SessionOk X R bef w.live (ses.advance X R m w.relay).2 := by
  have hb := h.busy
  cases hphase : ses.phase with
  | away | idle | ended => simpa only [Session.advance,hphase] using h
  | asked sid fs =>
    simp only [Busy,hphase] at hb
    have hq : ses.phase.sending = false := by rw [hphase]; rfl
    simp only [Session.advance,hphase]
    split
    · exact h.move rfl rfl (prefix_write _) rfl hq trivial
    next es hqu =>
      have hp := @prepared_of_query X R bef ses _ _ _ hw h.position_le hqu
      split
      · exact h.move rfl rfl (prefix_refl _) rfl hq ⟨hb,hp.go _⟩
      · exact h.register hb hp hq
  | witnessing sid subscription es =>
    simp only [Busy,hphase] at hb
    have hq : ses.phase.sending = false := by rw [hphase]; rfl
    simp only [Session.advance,hphase]
    split
    · exact h.move rfl rfl (prefix_refl _) rfl hq ⟨hb.1,hb.2.go _⟩
    · exact h.register hb.1 hb.2 hq
  | signing sid subscription es snap =>
    simp only [Busy,hphase] at hb
    have hq : ses.phase.sending = false := by rw [hphase]; rfl
    simp only [Session.advance,hphase]
    split
    · exact h.register hb.1 hb.2 hq
    · split
      · exact h.move rfl rfl (prefix_refl _) rfl hq ⟨hb.1,hb.2.go _⟩
      · exact h.register hb.1 hb.2 hq
  | registering sid subscription es pulse =>
    simp only [Busy,hphase] at hb
    have hq : ses.phase.sending = false := by rw [hphase]; rfl
    simp only [Session.advance,hphase]
    refine h.register hb.1 ⟨hb.2.received_eq,hb.2.written_eq,?_,hb.2.read⟩ hq
    exact fun e he hv => (hb.2.complete e he hv).imp_left (mem_cons_of_mem _)
  | answering sid rest =>
    cases rest with
    | cons event rest =>
      simp only [Session.advance,hphase]
      exact h.answer hphase
    | nil =>
      simp only [Session.advance,hphase]
      exact h.answered hphase
  | delivering event rest =>
    cases rest with
    | cons en rest =>
      simp only [Session.advance,hphase]
      have hd := h.deliver hphase
      split
      next hs =>
        rw [if_pos hs] at hd
        exact hd
      next hsk =>
        rw [if_neg hsk] at hd
        exact hd
    | nil =>
      simp only [Session.advance,hphase]
      exact h.delivered hphase

lemma SessionOk.receive (h : SessionOk X R bef live ses) (hp : ses.phase = .idle) (ord : List String) :
    SessionOk X R bef live (ses.receive live ord) := by
  have hq : ∀ id e, ¬Answering ses id e := by
    rintro id e ⟨rest,hre,-⟩
    simp [hp] at hre
  have ha : ∀ {id sub e}, Coming live ses id sub e → Sent.plain e ∈ live.drop ses.position := by
    rintro id sub e (ha | ⟨rest,hd,-⟩)
    · exact ha
    · simp [hp] at hd
  unfold Session.receive
  rcases Broadcast.recv_cases eventChannelCapacity live ses.position with
    ⟨hr,-⟩ | ⟨sent,hr,hget⟩ | ⟨skipped,hr,hle,-⟩
  · rw [hr]
    exact h
  · rw [hr]
    have hlt : ses.position < live.length := (List.getElem?_eq_some_iff.1 hget).1
    refine ⟨hlt,h.authorized,?_,?_⟩
    · intro id sub hsu
      refine (h.served id sub hsu).carry rfl (prefix_refl _) (prefix_refl _) h.position_le
        (Nat.le_succ _) (by simp) ?_ fun e he => absurd he (hq id e)
      intro e _ _ hc
      rcases (Broadcast.mem_drop_iff hget).1 (ha hc) with rfl | hl
      · exact .inr (.inr (.inr ⟨_,rfl,mem_iter.2 hsu⟩))
      · exact .inr (.inr (.inl hl))
    · rintro en hen
      exact mem_iter.1 hen
  · rw [hr]
    refine ⟨hle,h.authorized,?_,?_⟩
    · intro id sub hsu
      have hs := h.served id sub hsu
      refine hs.carry rfl (prefix_write _) (prefix_refl _) h.position_le (Nat.le_add_right _ _)
        (by simp) ?_ fun e he => absurd he (hq id e)
      intro e _ _ _
      refine .inr (.inl ⟨skipped,?_⟩)
      show _ ∈ (ses.frames ++ [_]).drop sub.written
      rw [drop_append_of_le_length hs.written_le]
      simp
    · simp [Busy,Session.write,hp]

end

variable {σ : System}

section

variable {X : Crates} {R : Relay} {m : Moment}

structure SystemOk (X : Crates) (R : Relay) (bef : Store) (σ : System) : Prop where
  announced : Announced X bef σ.world
  session : SessionOk X R bef σ.world.live σ.session

lemma advance_store (s : State) (ses : Session) : (ses.advance X R m s).1.store = s.store := by
  unfold Session.advance
  repeat' split
  all_goals rfl

lemma SystemOk.step (h : SystemOk X R bef σ) (a : SystemAction) :
    SystemOk X R bef (σ.step X R a) := by
  cases a with
  | relay a =>
    refine ⟨h.announced.step a,?_⟩
    cases a with
    | arrive event prin => exact h.session
    | run i m =>
      simp only [System.step,World.step]
      split
      · exact h.session
      · exact h.session.grow _
  | connect =>
    simp only [System.step]
    split
    next hp =>
      have he := h.session.busy
      simp only [Busy,hp] at he
      refine ⟨h.announced,le_rfl,?_,?_,trivial⟩
      · intro id sub hs
        simp [he] at hs
      · intro id sub hs
        simp [he] at hs
    · exact h
  | client msg =>
    simp only [System.step]
    split
    next hp => exact ⟨h.announced,h.session.handle hp msg⟩
    · exact h
  | receive ord =>
    simp only [System.step]
    split
    next hp => exact ⟨h.announced,h.session.receive hp ord⟩
    · exact h
  | advance m => exact ⟨h.announced.of_store (advance_store _ _),h.session.advance h.announced m⟩
  | disconnect =>
    refine ⟨h.announced,h.session.position_le,?_,?_,rfl⟩
    · intro id sub hs
      simp [System.step] at hs
    · intro id sub hs
      simp [System.step] at hs

lemma systemOk_start {s : State} (hef : EffectiveSet s.store.events) :
    SystemOk X R s.store (System.start s) := by
  refine ⟨⟨hef,fun e he => .inl he,fun e he => he,?_,?_⟩,Nat.zero_le _,?_,?_,rfl⟩
  · intro e he
    by_cases hk : Kept X s.store.events e
    · exact .inl hk
    · exact .inr ⟨he,hk⟩
  · rintro e (hs | ⟨task,ht,-⟩)
    · cases hs
    · cases ht
  · intro id sub hs
    simp [System.start,Session.start] at hs
  · intro id sub hs
    simp [System.start,Session.start] at hs

lemma SystemOk.run (h : SystemOk X R bef σ)
    (as : List SystemAction) : SystemOk X R bef (σ.run X R as) := by
  induction as generalizing σ with
  | nil => exact h
  | cons a as ih => exact ih (h.step a)

/-- The event is on its way to the subscription: a submission is about to announce it, the session
has still to receive or to deliver it, or it is in the part of the history that is not written. -/
def Underway (σ : System) (id : String) (sub : Subscription) (e : Event) : Prop :=
  (∃ task ∈ σ.world.tasks, task.announces = some e) ∨ Coming σ.world.live σ.session id sub e ∨
    Answering σ.session id e

/-- The session had received the event's announcement when it took up the REQ, or the event was
stored before the run began. -/
def ReceivedBefore (before : List Event) (σ : System) (sub : Subscription) (e : Event) : Prop :=
  e ∈ before ∨ Sent.plain e ∈ σ.world.live.take sub.received

/-- Why the history that answered a REQ need not have the event: another one had replaced it. -/
def Gone (X : Crates) (before : Store) (sub : Subscription) (e : Event) : Prop :=
  storedEvent X.toCrates e ∉ sub.snapshot ∧ (Replaced sub.snapshot e ∨ Lost X before e)

/-- What had been announced when a history was read had been stored, and was effective or replaced. -/
lemma Read.kept {live : List Sent} {sub : Subscription} (h : Read X bef live sub) (e : Event)
    (he : e ∈ bef.journal ∨ (isEphemeralKind e.kind = false ∧ Sent.plain e ∈ live.take sub.received)) :
    Kept X sub.snapshot e ∨ Lost X bef e := by
  obtain ⟨w,hw,⟨out,rfl⟩,hle,hs⟩ := h
  rw [take_append_of_le_length hle] at he
  rw [hs]
  refine hw.kept e ?_
  rcases he with hb | ⟨hd,ht⟩
  · exact hw.first e hb
  · exact hw.told e (.inl (mem_of_mem_take ht)) hd

lemma SystemOk.owed (h : SystemOk X R bef σ) {id : String}
    {sub : Subscription} (hsu : σ.session.subscriptions.lookup id = some sub) {e : Event}
    (he : e ∈ σ.world.relay.store.journal) (hw : Wanted X R σ.session sub e) :
    Delivered σ.session id sub e ∨ ToldLagged σ.session sub ∨ Underway σ id sub e ∨
      (ReceivedBefore bef.journal σ sub e ∧ (Gone X bef sub e ∨ CutOff X sub e)) := by
  have hs := h.session.served id sub hsu
  have hp : ReceivedBefore bef.journal σ sub e → Kept X sub.snapshot e ∨ Lost X bef e →
      Delivered σ.session id sub e ∨ ToldLagged σ.session sub ∨ Underway σ id sub e ∨
        (ReceivedBefore bef.journal σ sub e ∧ (Gone X bef sub e ∨ CutOff X sub e)) := by
    intro hr hk
    by_cases hef : storedEvent X.toCrates e ∈ sub.snapshot
    · rcases hs.history e hef hw with hd | hcut | ha
      · exact .inl hd
      · exact .inr (.inr (.inr ⟨hr,.inr hcut⟩))
      · exact .inr (.inr (.inl (.inr (.inr ha))))
    · exact .inr (.inr (.inr ⟨hr,.inl ⟨hef,hk.imp_left fun hk => hk.resolve_left hef⟩⟩))
  have hk := hs.read.kept e
  rcases h.announced.journal e he with hb | ⟨hdu,hse | hta⟩
  · exact hp (.inl hb) (hk (.inl hb))
  · rw [← take_append_drop sub.received σ.world.live,mem_append] at hse
    rcases hse with ht | hla
    · exact hp (.inr ht) (hk (.inr ⟨hdu,ht⟩))
    · rcases hs.live e hla hdu hw with hd | hl | hc
      · exact .inl hd
      · exact .inr (.inl hl)
      · exact .inr (.inr (.inl (.inr (.inl hc))))
  · exact .inr (.inr (.inl (.inl hta)))

end

end BuzzSolo.LocalRelay
