import BuzzSolo.AcpRelayReconnect

/-! Events that the agent harness had no room for, and whether the next request for their channel
asks for them again. The marks kept by channel are read off the record of a run. -/
namespace BuzzSolo.AcpRelay

open HashTable List

/-- The events received for a channel since it was last left, the latest first, each with what became
of its way to the harness. -/
def received (channelId : Uuid) : List Note → List (Event × TrySend)
  | [] => []
  | .offered (.channel ch) event outcome :: earlier =>
    if ch = channelId then (event,outcome) :: received channelId earlier else received channelId earlier
  | .unsubscribed ch :: earlier => if ch = channelId then [] else received channelId earlier
  | .denied ch :: earlier => if ch = channelId then [] else received channelId earlier
  | _ :: earlier => received channelId earlier

def recorded (channelId : Uuid) (history : List Note) : List Event :=
  (received channelId history).map Prod.fst

def unforwarded : List (Event × TrySend) → List Event
  | [] => []
  | (event,.full) :: earlier => event :: unforwarded earlier
  | (event,.ok) :: earlier => (unforwarded earlier).filter fun e => e.id ≠ event.id
  | (_,.closed) :: earlier => unforwarded earlier

def missing (channelId : Uuid) (history : List Note) : List Event := unforwarded (received channelId history)

/-- The events of a channel dropped since it was last replayed or left. A request that a Subscribe
command writes is no replay. -/
def unreplayed (channelId : Uuid) : List Note → List Event
  | [] => []
  | .offered (.channel ch) event .full :: earlier =>
    if ch = channelId then event :: unreplayed channelId earlier else unreplayed channelId earlier
  | .sent .replay (.req (.channel ch) _) :: earlier =>
    if ch = channelId then [] else unreplayed channelId earlier
  | .unsubscribed ch :: earlier => if ch = channelId then [] else unreplayed channelId earlier
  | .denied ch :: earlier => if ch = channelId then [] else unreplayed channelId earlier
  | _ :: earlier => unreplayed channelId earlier

variable {event : Event}

lemma mem_of_unforwarded {es : List (Event × TrySend)} (h : event ∈ unforwarded es) :
    event ∈ es.map Prod.fst := by
  induction es with
  | nil => exact h
  | cons en ear ih =>
    obtain ⟨e,out⟩ := en
    rw [map_cons,mem_cons]
    cases out with
    | ok => exact .inr (ih (mem_of_mem_filter h))
    | full => exact (mem_cons.1 h).imp_right ih
    | closed => exact .inr (ih h)

lemma recorded_of_missing {ch : Uuid} {hi : List Note}
    (h : event ∈ missing ch hi) : event ∈ recorded ch hi := mem_of_unforwarded h

section

variable {c d : Core}

lemma max?_cons_getD (v : ℕ) (xs : List ℕ) : (v :: xs).max? = some ((xs.max?.map (max · v)).getD v) := by
  rw [max?_cons]
  cases xs.max? with
  | none => rfl
  | some m => simp [max_comm]

lemma min?_cons_getD (v : ℕ) (xs : List ℕ) : (v :: xs).min? = some ((xs.min?.map (min · v)).getD v) := by
  rw [min?_cons]
  cases xs.min? with
  | none => rfl
  | some m => simp [min_comm]

structure Marked (c : Core) (channelId : Uuid) : Prop where
  lastSeen : c.lastSeen.lookup channelId = ((recorded channelId c.history).map (·.createdAt)).max?
  droppedSince : c.droppedSince.lookup channelId = ((unreplayed channelId c.history).map (·.createdAt)).min?

variable {channelId : Uuid}

lemma Marked.keep (h : Marked c channelId) (hse : d.lastSeen = c.lastSeen)
    (hd : d.droppedSince = c.droppedSince)
    (hr : recorded channelId d.history = recorded channelId c.history)
    (hu : unreplayed channelId d.history = unreplayed channelId c.history) : Marked d channelId :=
  ⟨by rw [hse,hr,h.lastSeen],by rw [hd,hu,h.droppedSince]⟩

lemma Marked.offered (h : Marked c channelId) (ch : Uuid) (e : Event) (out : TrySend) : Marked { c with
      lastSeen := BgState.raise c.lastSeen ch e.createdAt
      droppedSince := if out = .full then BgState.lower c.droppedSince ch e.createdAt
        else c.droppedSince
      history := .offered (.channel ch) e out :: c.history } channelId := by
  by_cases heq : ch = channelId
  · subst heq
    constructor
    · simp only [recorded,received,if_true,BgState.raise,lookup_insert_eq,map_cons]
      rw [max?_cons_getD,h.lastSeen,recorded]
    · cases out with
      | full =>
        simp only [unreplayed,if_true,BgState.lower,lookup_insert_eq,map_cons]
        rw [min?_cons_getD,h.droppedSince]
      | ok | closed => exact h.droppedSince
  · have hne : channelId ≠ ch := fun h => heq h.symm
    constructor
    · simp only [recorded,received,if_neg heq,BgState.raise,lookup_insert_eq,if_neg hne]
      exact h.lastSeen
    · cases out with
      | full =>
        simp only [unreplayed,if_true,if_neg heq,BgState.lower,lookup_insert_eq,if_neg hne]
        exact h.droppedSince
      | ok | closed => exact h.droppedSince

lemma Marked.left (h : Marked c channelId) {ch : Uuid} {n : Note}
    (hn : n = .unsubscribed ch ∨ n = .denied ch) : Marked (c.left ch n) channelId := by
  have hr : received channelId (n :: c.history) =
    (if ch = channelId then [] else received channelId c.history) ∧
      unreplayed channelId (n :: c.history) =
        (if ch = channelId then [] else unreplayed channelId c.history) := by
    rcases hn with rfl | rfl
    · exact ⟨rfl,rfl⟩
    · exact ⟨rfl,rfl⟩
  simp only [Core.left]
  constructor
  · simp only [recorded,lookup_erase_eq,hr.1,eq_comm (a := channelId)]
    split
    · rfl
    · exact h.lastSeen
  · simp only [lookup_erase_eq,hr.2,eq_comm (a := channelId)]
    split
    · rfl
    · exact h.droppedSince

lemma Work.marked (h : Work c d) (hm : Marked c channelId) : Marked d channelId := by
  cases h with
  | @plain n hn =>
    refine hm.keep rfl rfl ?_ ?_
    all_goals
      cases n with
      | sent og fm =>
        cases fm with
        | req sub filter =>
          cases sub with
          | channel ch => exact absurd rfl (hn ch filter)
          | membership | observerControl => cases og <;> rfl
        | _ => cases og <;> rfl
      | offered sub event out =>
        cases sub with
        | channel ch => exact absurd rfl (hn ch)
        | membership | observerControl => rfl
      | _ => exact hn.elim
  | received ch event out => exact hm.offered ch event out
  | replayed ch filter hfilter hsince =>
    refine ⟨hm.lastSeen,?_⟩
    simp only [lookup_erase_eq,unreplayed,eq_comm (a := channelId)]
    split
    · rfl
    · exact hm.droppedSince
  | left ch n hn => exact hm.left hn
  | shifted hs =>
    exact hm.keep rfl rfl (skip_notes (recorded channelId) _ (fun _ _ => rfl) _ _)
      (skip_notes (unreplayed channelId) _ (fun _ _ => rfl) _ _)
  | _ => exact hm.keep rfl rfl rfl rfl

lemma Step.marked (h : Step c d) (hm : Marked c channelId) : Marked d channelId := by
  cases h with
  | work hw => exact hw.marked hm
  | placed event hs =>
    exact hm.keep rfl rfl (skip_notes (recorded channelId) _ (fun _ _ => rfl) _ _)
      (skip_notes (unreplayed channelId) _ (fun _ _ => rfl) _ _)
  | _ => exact hm.keep rfl rfl rfl rfl

lemma Reachable.marked (h : Reachable c) (ch : Uuid) : Marked c ch :=
  h.invariant ⟨rfl,rfl⟩ fun _ _ hm hst => hst.marked hm

end

section

variable {c : Core} {channelId : Uuid} {event : Event} {since : ℕ}

variable (h : Marked c channelId)
include h

/-- The mark of the newest event recorded reaches back to an event iff none is much newer. -/
lemma Marked.lastSeen_le_iff {l : ℕ} (hl : c.lastSeen.lookup channelId = some l)
    (t : ℕ) : l ≤ t ↔ ∀ e ∈ recorded channelId c.history, e.createdAt ≤ t := by
  rw [max?_le_iff (h.lastSeen.symm.trans hl)]
  simp

lemma Marked.droppedSince_le_iff (t : ℕ) : (∃ d, c.droppedSince.lookup channelId = some d ∧ d ≤ t) ↔
      ∃ e ∈ unreplayed channelId c.history, e.createdAt ≤ t := by
  constructor
  · rintro ⟨d,hd,hle⟩
    obtain ⟨e,hm,rfl⟩ := mem_map.1 (min?_mem (h.droppedSince.symm.trans hd))
    exact ⟨e,hm,hle⟩
  · rintro ⟨e,hm,hle⟩
    have hc := mem_map_of_mem (f := (·.createdAt)) hm
    cases hd : c.droppedSince.lookup channelId with
    | none => simp [min?_eq_none_iff.1 (h.droppedSince.symm.trans hd)] at hc
    | some d =>
      have hl := (min?_eq_some_iff.1 (h.droppedSince.symm.trans hd)).2 _ hc
      exact ⟨d,rfl,hl.trans hle⟩

lemma Marked.lastSeen_of_recorded (hm : event ∈ recorded channelId c.history) :
    ∃ l, c.lastSeen.lookup channelId = some l := by
  have hc := mem_map_of_mem (f := (·.createdAt)) hm
  cases hl : c.lastSeen.lookup channelId with
  | none => simp [max?_eq_none_iff.1 (h.lastSeen.symm.trans hl)] at hc
  | some l => exact ⟨l,rfl⟩

lemma Marked.command_reaches_iff (hm : event ∈ recorded channelId c.history)
    (hs : ∀ l, c.lastSeen.lookup channelId = some l → since = l - sinceSkewSecs) : since ≤ event.createdAt ↔
      ∀ e ∈ recorded channelId c.history, e.createdAt ≤ event.createdAt + sinceSkewSecs := by
  obtain ⟨l,hl⟩ := h.lastSeen_of_recorded hm
  rw [hs l hl,← h.lastSeen_le_iff hl]
  omega

lemma Marked.replay_reaches_iff (hm : event ∈ recorded channelId c.history)
    (hs : ∀ m, c.mark channelId = some m → since = m - sinceSkewSecs) : since ≤ event.createdAt ↔
      (∀ e ∈ recorded channelId c.history, e.createdAt ≤ event.createdAt + sinceSkewSecs) ∨
        ∃ e ∈ unreplayed channelId c.history, e.createdAt ≤ event.createdAt + sinceSkewSecs := by
  obtain ⟨l,hl⟩ := h.lastSeen_of_recorded hm
  rw [← h.lastSeen_le_iff hl,← h.droppedSince_le_iff]
  cases hd : c.droppedSince.lookup channelId with
  | none =>
    rw [hs l (by simp [Core.mark,hl,hd])]
    simp
  | some d =>
    rw [hs (min l d) (by simp [Core.mark,hl,hd])]
    simp only [Option.some.injEq,exists_eq_left']
    omega

omit h

/-- Whether a request reaches back to the events of its channel that are missing. -/
def ReachesBack (n : Note) (earlier : List Note) : Prop :=
  ∀ origin channelId request, n = .sent origin (.req (.channel channelId) request) →
    ∀ event ∈ missing channelId earlier, (request.since ≤ event.createdAt ↔
        (∀ e ∈ recorded channelId earlier, e.createdAt ≤ event.createdAt + sinceSkewSecs) ∨
          (origin ≠ .command ∧
            ∃ e ∈ unreplayed channelId earlier, e.createdAt ≤ event.createdAt + sinceSkewSecs))

lemma Step.reachesBack {d : Core} (h : Step c d) (hr : Reachable c)
    (ha : Throughout ReachesBack c.history) : Throughout ReachesBack d.history := by
  refine h.throughout ?_ ?_ ?_ ha
  · intro n ear hq og ch req heq
    exact absurd heq (hq og ch req)
  · rintro ch filter - hs _ _ _ ⟨⟩ event hm
    rw [(hr.marked ch).replay_reaches_iff (recorded_of_missing hm) hs]
    simp
  · rintro ch filter hs _ _ _ ⟨⟩ event hm
    rw [(hr.marked ch).command_reaches_iff (recorded_of_missing hm) hs]
    have hre : recorded ch (.subscribed ch :: c.history) = recorded ch c.history := rfl
    simp [hre]

lemma Reachable.reachesBack (h : Reachable c) : Throughout ReachesBack c.history := by
  refine (h.invariant (I := fun c => Reachable c ∧ Throughout ReachesBack c.history) ?_ ?_).2
  · exact ⟨.refl,trivial⟩
  · exact fun _ _ hI hst => ⟨hI.1.step hst,hst.reachesBack hI.1 hI.2⟩

/-- In every run, a request written for a channel reaches back to an event that was dropped and not
forwarded since exactly where it is a replay and an event as old was dropped since the last one, or
where nothing much newer was received. -/
theorem request_reaches_dropped_iff (E : Env) (buffer : List RelayMessage) (inputs : List Input)
    (later earlier : List Note) (origin : Origin) (channelId : Uuid) (request : ReqFilter) (event : Event)
    (hsent : (run E buffer inputs).1.history = later ++ .sent origin
      (.req (.channel channelId) request) :: earlier)
    (hmissing : event ∈ missing channelId earlier) : request.since ≤ event.createdAt ↔
      (∀ e ∈ recorded channelId earlier, e.createdAt ≤ event.createdAt + sinceSkewSecs) ∨ (origin ≠ .command ∧
          ∃ e ∈ unreplayed channelId earlier, e.createdAt ≤ event.createdAt + sinceSkewSecs) := by
  have ha := (run_rests E buffer inputs).1.reachable.reachesBack
  have hh : (run E buffer inputs).1.core.history =
      later ++ .sent origin (.req (.channel channelId) request) :: earlier := hsent
  rw [hh] at ha
  exact ha.at origin channelId request rfl event hmissing

end

section

def room : Uuid := .ofNat 16 7

def roomEvent (number createdAt : ℕ) : Event := ⟨⟨.ofNat 32 1,createdAt,9,[],""⟩,.ofNat 32 number,.ofNat 64 0⟩

/-- Surroundings where ten seconds pass with each question, every write succeeds, and the harness
has no room for the first event. -/
def busyHarness : Env where
  parseUuid := fun text => if text = uuidText room then some room else none
  agentPubkeyHex := ""
  answers := fun tick =>
    { written := true
      instant := tick*10*nanosPerSec
      unixTime := 1000 + tick*10
      jittered := id
      offered := if tick = 7 then .full else .ok
      order := [] }
  rounds := 20

def roomRequest (since : ℕ) : ReqFilter := ⟨none,some [uuidText room],none,since⟩

def droppedAndReplayed : List Input :=
  [.command (some (.subscribe room ⟨none,false⟩ none)),
    .message (.received (.text (some (.event (channelSubId room) (roomEvent 1 1100))))), .elapsed,.empty]

/-- A newer event comes before the relay refuses the replay. -/
def replayRefused : List Input :=
  [.message (.received (.text (some (.event (channelSubId room) (roomEvent 2 1200))))),
    .message (.received (.text (some (.closed (channelSubId room) "rate-limited: retry in 5s"))))]

theorem request_reaches_dropped_first : (roomRequest 1095).since ≤ (roomEvent 1 1100).createdAt :=
  (request_reaches_dropped_iff busyHarness [] droppedAndReplayed []
    (run busyHarness [] droppedAndReplayed).1.history.tail .replay room (roomRequest 1095) (roomEvent 1 1100)
    (by decide +kernel) (by decide +kernel)).2 (.inr ⟨by decide,roomEvent 1 1100,by decide +kernel,by decide⟩)

/-- The replay that was refused has cleared the mark, so the next request starts after the event that
was dropped. -/
theorem refused_replay_forgets_dropped :
    ∃ earlier, (run busyHarness [] (droppedAndReplayed ++ replayRefused)).1.history =
        .sent .replay (.req (.channel room) (roomRequest 1195)) :: earlier ∧
          roomEvent 1 1100 ∈ missing room earlier ∧
      (roomEvent 1 1100).createdAt < (roomRequest 1195).since :=
  ⟨(run busyHarness [] (droppedAndReplayed ++ replayRefused)).1.history.tail,by decide +kernel,
    by decide +kernel,by decide⟩

end

end BuzzSolo.AcpRelay
