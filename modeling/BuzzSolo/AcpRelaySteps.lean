import BuzzSolo.AcpRelayTask

/-! The steps of the background task: what any piece of its code can do to the subscriptions, the
replay marks, the observer queues and the record of what was done. -/
namespace BuzzSolo.AcpRelay

open HashTable List

structure Core where
  active : Table Uuid String
  filters : Table Uuid ChannelFilter
  lastSeen : Table Uuid ℕ
  droppedSince : Table Uuid ℕ
  parked : Table Uuid ℕ
  retry : Table Uuid Unit
  gated : List Event
  inFlight : List Event
  dropped : ℕ
  deferred : List RelayCommand
  history : List Note

def World.core (w : World) : Core where
  active := w.state.activeSubscriptions
  filters := w.state.activeFilters
  lastSeen := w.state.lastSeen
  droppedSince := w.state.channelDroppedSince
  parked := w.state.rateLimitedPending
  retry := w.state.resubscribeRetry
  gated := w.state.gatedObserverPending
  inFlight := w.state.observerInFlight
  dropped := w.state.gatedObserverDropped
  deferred := w.deferred
  history := w.history

def live (channelId : Uuid) : List Note → Bool
  | [] => false
  | .sent _ (.req (.channel ch) _) :: earlier => ch = channelId || live channelId earlier
  | .connected :: _ => false
  | .subscribed ch :: earlier => ch ≠ channelId && live channelId earlier
  | _ :: earlier => live channelId earlier

def framesOf : RelayCommand → List Event
  | .publishEvent event => if isObserverFrame event then [event] else []
  | _ => []

def handed : List Note → List Event
  | [] => []
  | .took cmd :: earlier => handed earlier ++ framesOf cmd
  | _ :: earlier => handed earlier

def placed : List Note → List Event
  | [] => []
  | .placed event :: earlier => placed earlier ++ [event]
  | _ :: earlier => placed earlier

namespace Core

def mark (c : Core) (channelId : Uuid) : Option ℕ :=
  match c.lastSeen.lookup channelId, c.droppedSince.lookup channelId with
  | some l, some d => some (min l d)
  | some l, none => some l
  | none, some d => some d
  | none, none => none

def noted (c : Core) (n : Note) : Core := { c with history := n :: c.history }

def shifted (c : Core) (inFlight gated evicted : List Event) : Core :=
  { c with
    inFlight := inFlight
    gated := gated
    dropped := c.dropped + evicted.length
    history := (evicted.map .discarded).reverse ++ c.history }

def intended (c : Core) (channelId : Uuid) (filter : ChannelFilter) (text : String) : Core :=
  { c with
    active := c.active.insert channelId text
    filters := c.filters.insert channelId filter
    history := .subscribed channelId :: c.history }

def commanded (c : Core) (channelId : Uuid) (filter : ChannelFilter) (text : String) (request : ReqFilter) :
    Core :=
  { c with
    active := c.active.insert channelId text
    filters := c.filters.insert channelId filter
    parked := c.parked.erase channelId
    retry := c.retry.erase channelId
    history := .sent .command (.req (.channel channelId) request) :: .subscribed channelId :: c.history }

def left (c : Core) (channelId : Uuid) (n : Note) : Core :=
  { c with
    active := c.active.erase channelId
    filters := c.filters.erase channelId
    lastSeen := c.lastSeen.erase channelId
    droppedSince := c.droppedSince.erase channelId
    parked := c.parked.erase channelId
    retry := c.retry.erase channelId
    history := n :: c.history }

end Core

/-- The frames of the queues and those added keep their order and are all accounted for, and the
queues stay within their cap. -/
structure Shift (c : Core) (added inFlight gated evicted : List Event) : Prop where
  order : (inFlight ++ gated).Sublist (c.inFlight ++ c.gated ++ added)
  account : (inFlight ++ gated ++ evicted).Perm (c.inFlight ++ c.gated ++ added)
  caps : c.inFlight.length ≤ gatedObserverQueueCap → c.gated.length ≤ gatedObserverQueueCap →
    inFlight.length ≤ gatedObserverQueueCap ∧ gated.length ≤ gatedObserverQueueCap

/-- Notes that say nothing of channels, commands or observer frames. -/
def Note.Plain : Note → Prop
  | .offered subscription _ _ => ∀ ch, subscription ≠ .channel ch
  | .sent _ frame => ∀ ch filter, frame ≠ .req (.channel ch) filter
  | _ => False

/-- A channel whose parked request may be given up: it was asked for, or it is not subscribed. -/
def Core.Answered (c : Core) (channelId : Uuid) : Prop :=
  live channelId c.history = true ∨ c.filters.lookup channelId = none

/-- The steps that take and place no command's frames and strand no channel. -/
inductive Work : Core → Core → Prop
  | plain {c : Core} {n : Note} (h : n.Plain) : Work c (c.noted n)
  | received {c : Core} (channelId : Uuid) (event : Event) (outcome : TrySend) : Work c { c with
      lastSeen := BgState.raise c.lastSeen channelId event.createdAt
      droppedSince := if outcome = .full then BgState.lower c.droppedSince channelId event.createdAt
        else c.droppedSince
      history := .offered (.channel channelId) event outcome :: c.history }
  | replayed {c : Core} (channelId : Uuid) (filter : ReqFilter)
    (hfilter : (c.filters.lookup channelId).isSome)
    (hsince : ∀ m, c.mark channelId = some m → filter.since = m - sinceSkewSecs) : Work c { c with
      droppedSince := c.droppedSince.erase channelId
      history := .sent .replay (.req (.channel channelId) filter) :: c.history }
  | renewed {c : Core} (channelId : Uuid) (text : String) (h : (c.active.lookup channelId).isSome) :
    Work c { c with active := c.active.insert channelId text }
  | parked {c : Core} (channelId : Uuid) (deadline : ℕ) :
    Work c { c with parked := c.parked.insert channelId deadline }
  | retrying {c : Core} (channelId : Uuid) : Work c { c with retry := c.retry.insert channelId () }
  | unparked {c : Core} (channelId : Uuid) (h : c.Answered channelId) :
    Work c { c with parked := c.parked.erase channelId }
  | unretried {c : Core} (channelId : Uuid)
    (h : c.Answered channelId ∨ (c.parked.lookup channelId).isSome) :
    Work c { c with retry := c.retry.erase channelId }
  | left {c : Core} (channelId : Uuid) (n : Note)
    (hn : n = .unsubscribed channelId ∨ n = .denied channelId) : Work c (c.left channelId n)
  | shifted {c : Core} {inFlight gated evicted : List Event}
    (h : Shift c [] inFlight gated evicted) : Work c (c.shifted inFlight gated evicted)
  | acknowledged {c : Core} (before after : List Event) (eventId : String) (event : Event)
    (hflight : c.inFlight = before ++ event :: after) (hid : event.id.toHex = eventId) : Work c { c with
      inFlight := before ++ after
      history := .retired eventId event :: c.history }
  | summarised {c : Core} : Work c { c with dropped := 0, history := .summarised c.dropped :: c.history }

inductive Step : Core → Core → Prop
  | work {c d : Core} (h : Work c d) : Step c d
  | took {c : Core} (cmd : RelayCommand) : Step c (c.noted (.took cmd))
  | deferred {c : Core} (deferred : List RelayCommand) : Step c { c with deferred := deferred }
  | placed {c : Core} {inFlight gated evicted : List Event} (event : Event)
    (h : Shift c [event] inFlight gated evicted) :
      Step c ((c.noted (.placed event)).shifted inFlight gated evicted)
  | announced {c : Core} (channelId : Uuid) : Step c (c.noted (.subscribed channelId))
  | intended {c : Core} (channelId : Uuid) (filter : ChannelFilter) (text : String) :
    Step c (c.intended channelId filter text)
  | commanded {c : Core} (channelId : Uuid) (filter : ChannelFilter) (text : String) (request : ReqFilter)
    (hsince : ∀ l, c.lastSeen.lookup channelId = some l → request.since = l - sinceSkewSecs) :
    Step c (c.commanded channelId filter text request)
  | connected {c : Core} : Step c (c.noted .connected)
  | drainFailed {c : Core} : Step c (c.noted .drainFailed)
  | cleared {c : Core} : Step c { c with parked := ∅, retry := ∅ }

/-- Whether a Subscribe of the channel was processed since the latest connection. -/
def fresh (channelId : Uuid) : List Note → Bool
  | [] => false
  | .connected :: _ => false
  | .subscribed ch :: earlier => ch = channelId || fresh channelId earlier
  | _ :: earlier => fresh channelId earlier

/-- Whether the channel's latest Subscribe was processed since the latest connection and before a
drain of commands that ended in a failed write. -/
def abandoned (channelId : Uuid) : List Note → Bool
  | [] => false
  | .connected :: _ => false
  | .subscribed ch :: earlier => ch ≠ channelId && abandoned channelId earlier
  | .drainFailed :: earlier => fresh channelId earlier
  | _ :: earlier => abandoned channelId earlier

/-- Notes of something else than a Subscribe, a connection or a failed drain. -/
def Note.Neutral : Note → Prop
  | .subscribed _ => False
  | .connected => False
  | .drainFailed => False
  | _ => True

/-- A reading of the record for each channel that only the Subscribes of that channel, connections
and failed drains can change. -/
structure Excuse (F : Uuid → List Note → Bool) : Prop where
  neutral : ∀ channelId n earlier, n.Neutral → F channelId (n :: earlier) = F channelId earlier
  others : ∀ channelId ch earlier, ch ≠ channelId → F channelId (.subscribed ch :: earlier) =
    F channelId earlier

lemma excuse_fresh : Excuse fresh where
  neutral := by
    intro cid n ear hn
    cases n with
    | subscribed | connected | drainFailed => exact hn.elim
    | _ => rfl
  others := by
    intro cid ch ear hne
    simp [fresh,hne]

lemma excuse_abandoned : Excuse abandoned where
  neutral := by
    intro cid n ear hn
    cases n with
    | subscribed | connected | drainFailed => exact hn.elim
    | _ => rfl
  others := by
    intro cid ch ear hne
    simp [abandoned,hne]

variable {channelId : Uuid}

lemma fresh_of_abandoned {hi : List Note}
    (h : abandoned channelId hi = true) : fresh channelId hi = true := by
  induction hi with
  | nil => exact h
  | cons n ear ih =>
    cases n with
    | subscribed ch =>
      simp only [abandoned,Bool.and_eq_true] at h
      simp [fresh,ih h.2]
    | connected | drainFailed => exact h
    | _ => exact ih h

namespace Core

def Known (c : Core) : Prop :=
  ∀ channelId, (c.active.lookup channelId).isSome → (c.filters.lookup channelId).isSome

/-- The channel was asked for, or is held for a later attempt. -/
def Covers (c : Core) (channelId : Uuid) : Prop :=
  live channelId c.history = true ∨ (c.parked.lookup channelId).isSome ∨ (c.retry.lookup channelId).isSome

/-- No subscribed channel is stranded but those excused. -/
def CoveredBut (F : Uuid → List Note → Bool) (c : Core) : Prop :=
  ∀ channelId, (c.active.lookup channelId).isSome → c.Covers channelId ∨ F channelId c.history = true

def Covered (c : Core) : Prop := c.CoveredBut abandoned

/-- What is left of it once a write has failed. -/
def Hopeful (c : Core) : Prop := c.CoveredBut fresh

lemma Covered.hopeful {c : Core} (h : c.Covered) : c.Hopeful := fun channelId ha =>
  (h channelId ha).imp_right fresh_of_abandoned

end Core

def Works : Core → Core → Prop := Relation.ReflTransGen Work
def Reach : Core → Core → Prop := Relation.ReflTransGen Step

def Core.start : Core := ⟨∅,∅,∅,∅,∅,∅,[],[],0,[],[]⟩

def Reachable (c : Core) : Prop := Reach .start c

variable {c d e : Core}

lemma Works.refl (c : Core) : Works c c := Relation.ReflTransGen.refl

lemma Works.trans (h : Works c d) (h' : Works d e) : Works c e := Relation.ReflTransGen.trans h h'

lemma Works.step (h : Works c d) (h' : Work d e) : Works c e := Relation.ReflTransGen.tail h h'

lemma Work.works (h : Work c d) : Works c d := .single h

lemma Works.reach (h : Works c d) : Reach c d := by
  induction h with
  | refl => exact .refl
  | tail _ hl ih => exact ih.tail (.work hl)

lemma Reachable.step (h : Reachable c) (h' : Step c d) : Reachable d := Relation.ReflTransGen.tail h h'

lemma Reachable.trans (h : Reachable c) (h' : Reach c d) : Reachable d := Relation.ReflTransGen.trans h h'

lemma Reachable.works (h : Reachable c) (h' : Works c d) : Reachable d := h.trans h'.reach

/-- The rule for invariants of the task: what holds at the start and is kept by every step holds
wherever a run gets. -/
lemma Reachable.invariant {I : Core → Prop} (h : Reachable c) (hs : I .start)
    (hst : ∀ c d, I c → Step c d → I d) : I c := by
  induction h with
  | refl => exact hs
  | tail _ hl ih => exact hst _ _ ih hl

lemma skip_notes {α β : Type} (F : List Note → β) (g : α → Note) (hF : ∀ a h, F (g a :: h) = F h)
    (as : List α) (h : List Note) : F ((as.map g).reverse ++ h) = F h := by
  induction as generalizing h with
  | nil => rfl
  | cons a as ih =>
    rw [map_cons,reverse_cons,append_assoc,ih]
    exact hF a h

variable (h : Work c d)
include h

lemma Work.live_mono (cid : Uuid) (hl : live cid c.history = true) :
    live cid d.history = true := by
  cases h with
  | @plain n hn =>
    cases n with
    | sent og fm =>
      cases fm with
      | req sub filter =>
        cases sub with
        | channel ch => simp [Core.noted,live,hl]
        | membership | observerControl => exact hl
      | _ => exact hl
    | offered sub e out => exact hl
    | _ => exact hn.elim
  | replayed ch filter hfilter hsince => simp [live,hl]
  | left ch n hn =>
    rcases hn with rfl | rfl
    · exact hl
    · exact hl
  | shifted hs =>
    simp only [Core.shifted]
    rwa [skip_notes (live cid) _ fun _ _ => rfl]
  | _ => exact hl

variable {F : Uuid → List Note → Bool}

lemma Work.excuse_eq (hF : Excuse F) (cid : Uuid) : F cid d.history = F cid c.history := by
  cases h with
  | @plain n hn =>
    refine hF.neutral cid n c.history ?_
    cases n with
    | sent | offered => trivial
    | _ => exact hn.elim
  | received | replayed | acknowledged | summarised => exact hF.neutral _ _ _ trivial
  | left ch n hn =>
    refine hF.neutral cid n c.history ?_
    rcases hn with rfl | rfl
    · trivial
    · trivial
  | shifted hs => exact skip_notes (F cid) .discarded (fun _ _ => hF.neutral _ _ _ trivial) _ _
  | _ => rfl

lemma Work.active_of (ha : (d.active.lookup channelId).isSome) : (c.active.lookup channelId).isSome := by
  cases h with
  | renewed ch t hch =>
    rw [lookup_insert_eq] at ha
    split at ha
    next heq => rwa [heq]
    · exact ha
  | left ch n hn =>
    simp only [Core.left,lookup_erase_eq] at ha
    split at ha
    · simp at ha
    · exact ha
  | _ => exact ha

lemma Work.known (hk : c.Known) : d.Known := by
  intro channelId ha
  have hf := hk channelId (h.active_of ha)
  cases h with
  | left ch n hn =>
    simp only [Core.left,lookup_erase_eq] at ha ⊢
    split at ha
    · simp at ha
    · rw [if_neg ‹_›]
      exact hf
  | _ => exact hf

lemma Work.covers_parked (hac : (d.active.lookup channelId).isSome)
    (hf : (c.filters.lookup channelId).isSome) (hp : (c.parked.lookup channelId).isSome) :
    d.Covers channelId := by
  cases h with
  | parked ch dl =>
    refine .inr (.inl ?_)
    rw [lookup_insert_eq]
    split
    · rfl
    · exact hp
  | unparked ch ha =>
    by_cases heq : channelId = ch
    · subst heq
      rcases ha with hs | hno
      · exact .inl hs
      · simp [hno] at hf
    · exact .inr (.inl (by rwa [lookup_erase_eq,if_neg heq]))
  | left ch n hn =>
    by_cases heq : channelId = ch
    · simp [Core.left,lookup_erase_eq,heq] at hac
    · exact .inr (.inl (by simpa only [Core.left,lookup_erase_eq,if_neg heq] using hp))
  | _ => exact .inr (.inl hp)

/-- A request to be tried again is tried again, unless it was answered, waits for the gate, or the
channel was left. -/
lemma Work.covers_retry (hac : (d.active.lookup channelId).isSome)
    (hf : (c.filters.lookup channelId).isSome) (hr : (c.retry.lookup channelId).isSome) :
    d.Covers channelId := by
  cases h with
  | retrying ch =>
    refine .inr (.inr ?_)
    rw [lookup_insert_eq]
    split
    · rfl
    · exact hr
  | unretried ch ha =>
    by_cases heq : channelId = ch
    · subst heq
      rcases ha with (hs | hno) | hp
      · exact .inl hs
      · simp [hno] at hf
      · exact .inr (.inl hp)
    · exact .inr (.inr (by rwa [lookup_erase_eq,if_neg heq]))
  | left ch n hn =>
    by_cases heq : channelId = ch
    · simp [Core.left,lookup_erase_eq,heq] at hac
    · exact .inr (.inr (by simpa only [Core.left,lookup_erase_eq,if_neg heq] using hr))
  | _ => exact .inr (.inr hr)

/-- Work keeps a subscribed channel covered. -/
lemma Work.covers (hk : c.Known)
    (ha : (d.active.lookup channelId).isSome) (hc : c.Covers channelId) : d.Covers channelId := by
  have hf := hk channelId (h.active_of ha)
  rcases hc with hl | hp | hr
  · exact .inl (h.live_mono channelId hl)
  · exact h.covers_parked ha hf hp
  · exact h.covers_retry ha hf hr

lemma Work.coveredBut (hF : Excuse F) (hk : c.Known) (hc : c.CoveredBut F) : d.CoveredBut F := by
  intro ch ha
  rw [h.excuse_eq hF]
  exact (hc ch (h.active_of ha)).imp_left (h.covers hk ha)

/-- What a step of work leaves alone: the commands taken and put off, and the frames placed. -/
lemma Work.ledger :
    handed d.history = handed c.history ∧ placed d.history = placed c.history ∧ d.deferred = c.deferred := by
  cases h with
  | @plain n hn =>
    cases n with
    | sent | offered => exact ⟨rfl,rfl,rfl⟩
    | _ => exact hn.elim
  | left ch n hn =>
    rcases hn with rfl | rfl
    · exact ⟨rfl,rfl,rfl⟩
    · exact ⟨rfl,rfl,rfl⟩
  | shifted hs =>
    simp only [Core.shifted]
    exact ⟨skip_notes handed _ (fun _ _ => rfl) _ _,skip_notes placed _ (fun _ _ => rfl) _ _,trivial⟩
  | _ => exact ⟨rfl,rfl,rfl⟩

omit h

lemma Works.ledger (h : Works c d) :
    handed d.history = handed c.history ∧ placed d.history = placed c.history ∧ d.deferred = c.deferred := by
  induction h with
  | refl => exact ⟨rfl,rfl,rfl⟩
  | tail _ hl ih =>
    obtain ⟨hh,hp,hd⟩ := hl.ledger
    exact ⟨hh.trans ih.1,hp.trans ih.2.1,hd.trans ih.2.2⟩

lemma Step.known (h : Step c d) (hk : c.Known) : d.Known := by
  cases h with
  | work hw => exact hw.known hk
  | intended ch filter t =>
    intro channelId ha
    simp only [Core.intended,lookup_insert_eq] at ha ⊢
    split
    · rfl
    · rw [if_neg ‹_›] at ha
      exact hk channelId ha
  | commanded ch filter t req hsince =>
    intro channelId ha
    simp only [Core.commanded,lookup_insert_eq] at ha ⊢
    split
    · rfl
    · rw [if_neg ‹_›] at ha
      exact hk channelId ha
  | _ => exact hk

lemma Reachable.known (h : Reachable c) : c.Known :=
  h.invariant (fun _ ha => by simp [Core.start] at ha) fun _ _ hk hst => hst.known hk

lemma Works.known (h : Works c d) (hk : c.Known) : d.Known := by
  induction h with
  | refl => exact hk
  | tail _ hl ih => exact hl.known ih

lemma Works.covers (h : Works c d) (hk : c.Known)
    (ha : (d.active.lookup channelId).isSome) (hc : c.Covers channelId) : d.Covers channelId := by
  induction h with
  | refl => exact hc
  | tail hf hl ih =>
    exact hl.covers (Works.known hf hk) ha (ih (hl.active_of ha))

lemma Works.coveredBut (h : Works c d) (hF : Excuse F) (hk : c.Known) (hc : c.CoveredBut F) :
    d.CoveredBut F := by
  induction h with
  | refl => exact hc
  | tail hf hl ih => exact hl.coveredBut hF (Works.known hf hk) ih

/-- A property of each note of a record and of what was noted before it. -/
def Throughout (P : Note → List Note → Prop) : List Note → Prop
  | [] => True
  | n :: earlier => P n earlier ∧ Throughout P earlier

def Note.Quiet (n : Note) : Prop :=
  ∀ origin channelId filter, n ≠ .sent origin (.req (.channel channelId) filter)

section

variable {P : Note → List Note → Prop}

lemma Throughout.at {later ear : List Note} {n : Note} (h : Throughout P (later ++ n :: ear)) : P n ear := by
  induction later with
  | nil => exact h.1
  | cons m later ih => exact ih h.2

lemma Note.Plain.quiet {n : Note} (h : n.Plain) : n.Quiet := by
  rintro og ch filter rfl
  exact h ch filter rfl

lemma throughout_discarded (hq : ∀ n ear, n.Quiet → P n ear) (evs : List Event)
    {hi : List Note} (h : Throughout P hi) : Throughout P ((evs.map .discarded).reverse ++ hi) := by
  induction evs generalizing hi with
  | nil => exact h
  | cons e evs ih =>
    rw [map_cons,reverse_cons,append_assoc]
    exact ih ⟨hq _ _ (by simp [Note.Quiet]),h⟩

lemma Work.throughout (h : Work c d) (hq : ∀ n ear, n.Quiet → P n ear)
    (hr : ∀ channelId filter, (c.filters.lookup channelId).isSome →
      (∀ m, c.mark channelId = some m → filter.since = m - sinceSkewSecs) →
      P (.sent .replay (.req (.channel channelId) filter)) c.history)
    (ha : Throughout P c.history) : Throughout P d.history := by
  cases h with
  | plain hn => exact ⟨hq _ _ hn.quiet,ha⟩
  | received | acknowledged | summarised => exact ⟨hq _ _ (by simp [Note.Quiet]),ha⟩
  | replayed ch filter hf hsince => exact ⟨hr ch filter hf hsince,ha⟩
  | left ch n hn =>
    refine ⟨hq _ _ ?_,ha⟩
    rcases hn with rfl | rfl
    · simp [Note.Quiet]
    · simp [Note.Quiet]
  | shifted hs => exact throughout_discarded hq _ ha
  | _ => exact ha

/-- The requests that a step writes: replays, and those of Subscribe commands, which start from the
newest event that was recorded. -/
lemma Step.throughout (h : Step c d) (hq : ∀ n ear, n.Quiet → P n ear)
    (hr : ∀ channelId filter, (c.filters.lookup channelId).isSome →
      (∀ m, c.mark channelId = some m → filter.since = m - sinceSkewSecs) →
      P (.sent .replay (.req (.channel channelId) filter)) c.history)
    (hc : ∀ channelId filter, (∀ l, c.lastSeen.lookup channelId = some l → filter.since = l - sinceSkewSecs) →
      P (.sent .command (.req (.channel channelId) filter)) (.subscribed channelId :: c.history))
    (ha : Throughout P c.history) : Throughout P d.history := by
  cases h with
  | work hw => exact hw.throughout hq hr ha
  | took | announced | intended | connected | drainFailed => exact ⟨hq _ _ (by simp [Note.Quiet]),ha⟩
  | deferred | cleared => exact ha
  | placed e hs => exact throughout_discarded hq _ ⟨hq _ _ (by simp [Note.Quiet]),ha⟩
  | commanded ch filter t req hsince =>
    exact ⟨hc ch req hsince,hq _ _ (by simp [Note.Quiet]),ha⟩

end

end BuzzSolo.AcpRelay
