import BuzzSolo.BoundedQueue
import BuzzSolo.DecimalText
import BuzzSolo.Event
import BuzzSolo.HashTable
import BuzzSolo.LineText

/-! What the background task of the agent harness keeps about its relay connection: the
subscriptions it owes, replay marks, the rate-limit gate and observer frames. Instants are in
nanoseconds, timestamps of events in seconds. -/
namespace BuzzSolo.AcpRelay

open HexText HashTable BoundedQueue

def seenIdLimit : ℕ := 12000
def sinceSkewSecs : ℕ := 5
def kindAgentObserverFrame : ℕ := 24200
def kindMemberAddedNotification : ℕ := 44100
def kindMemberRemovedNotification : ℕ := 44101
def nanosPerSec : ℕ := 10^9

@[irreducible] def gatedObserverQueueCap : ℕ := 256

lemma gatedObserverQueueCap_pos : 0 < gatedObserverQueueCap := by
  unfold gatedObserverQueueCap
  decide

/-- Recent event ids in two generations: a full generation becomes the previous one. -/
structure TwoGenDedup where
  current : Finset String
  previous : Finset String
  limit : ℕ

namespace TwoGenDedup

def new (limit : ℕ) : TwoGenDedup := ⟨∅,∅,limit⟩

def contains (d : TwoGenDedup) (id : String) : Bool := id ∈ d.current ∨ id ∈ d.previous

/-- The set with the id in it, and whether the id was new. -/
def insert (d : TwoGenDedup) (id : String) : TwoGenDedup × Bool :=
  if d.contains id then (d,false)
  else
    let current := Insert.insert id d.current
    if d.limit/2 ≤ current.card then ({ d with previous := current, current := ∅ },true)
    else ({ d with current := current },true)

def remove (d : TwoGenDedup) (id : String) : TwoGenDedup :=
  { d with current := d.current.erase id, previous := d.previous.erase id }

variable {d : TwoGenDedup} {id other : String} {limit : ℕ} {since : Finset String}

inductive Call
  | insert (id : String)
  | remove (id : String)
  deriving DecidableEq

def step (d : TwoGenDedup) : Call → TwoGenDedup
  | .insert id => (d.insert id).1
  | .remove id => d.remove id

def run (d : TwoGenDedup) (calls : List Call) : TwoGenDedup := calls.foldl step d

/-- The ids other than `id` that are new when they are inserted. -/
def newOthers (id : String) : TwoGenDedup → List Call → Finset String
  | _,[] => ∅
  | d,.insert other :: calls =>
    (if other ≠ id ∧ (d.insert other).2 = true then {other} else ∅) ∪ newOthers id (d.insert other).1 calls
  | d,.remove other :: calls => newOthers id (d.remove other) calls

lemma insert_cases (d : TwoGenDedup) (id : String) : d.contains id = true ∧ d.insert id = (d,false) ∨
    d.contains id = false ∧ ∃ cur previous, d.insert id = (⟨cur,previous,d.limit⟩,true) ∧
      (d.limit/2 ≤ d.current.card + 1 ∧ cur = ∅ ∧ previous = Insert.insert id d.current ∨
        d.current.card + 1 < d.limit/2 ∧ cur = Insert.insert id d.current ∧ previous = d.previous) := by
  cases hc : d.contains id with
  | true => simp [insert,hc]
  | false =>
    have hn : id ∉ d.current := by simp_all [contains]
    by_cases hr : d.limit/2 ≤ d.current.card + 1
    · simp [insert,hc,Finset.card_insert_of_notMem hn,hr]
    · simp [insert,hc,Finset.card_insert_of_notMem hn,hr,not_le.1 hr]

/-- No id is in both generations, and the younger one is not full. -/
structure Balanced (limit : ℕ) (d : TwoGenDedup) : Prop where
  limit_eq : d.limit = limit
  disjoint : Disjoint d.current d.previous
  current_lt : d.current.card < limit/2
  previous_le : d.previous.card ≤ limit/2

lemma Balanced.step (h : Balanced limit d) (call : Call) : Balanced limit (d.step call) := by
  obtain ⟨rfl,hd,hc,hp⟩ := h
  cases call with
  | insert id =>
    have hi := Finset.card_insert_le id d.current
    rcases insert_cases d id with ⟨-,he⟩ | ⟨hn,_,_,he,⟨-,rfl,rfl⟩ | ⟨hr,rfl,rfl⟩⟩
    · simpa only [TwoGenDedup.step,he] using ⟨rfl,hd,hc,hp⟩
    · refine ⟨?_,?_,?_,?_⟩ <;> simp [TwoGenDedup.step,he] <;> omega
    · have hn : id ∉ d.previous := by simp_all [contains]
      refine ⟨?_,?_,?_,?_⟩ <;> simp [TwoGenDedup.step,he,hn,hd] <;> omega
  | remove id =>
    exact ⟨rfl,hd.mono (Finset.erase_subset id _) (Finset.erase_subset id _),
      Finset.card_erase_le.trans_lt hc,Finset.card_erase_le.trans hp⟩

lemma balanced_run (h : 2 ≤ limit) (cs : List Call) : Balanced limit ((new limit).run cs) := by
  induction cs using List.reverseRecOn with
  | nil => exact ⟨rfl,Finset.disjoint_empty_left _,by simp [run,new]; omega,Nat.zero_le _⟩
  | append_singleton cs call ih => simpa [run] using ih.step call

/-- The id is remembered, and once it is in the older generation the younger one holds nothing but ids
that were new since. -/
def Held (id : String) (since : Finset String) (d : TwoGenDedup) : Prop :=
  id ∈ d.current ∨ id ∈ d.previous ∧ d.current ⊆ since

lemma Held.contains (h : Held id since d) : d.contains id = true := by
  rcases h with h | ⟨h,-⟩ <;> simp [TwoGenDedup.contains,h]

lemma Held.insert (h : Held id since d) (hk : (Insert.insert other since).card < d.limit/2)
    (hn : (d.insert other).2 = true) : Held id (Insert.insert other since) (d.insert other).1 := by
  rcases insert_cases d other with ⟨-,he⟩ | ⟨hc,_,_,he,⟨hr,rfl,rfl⟩ | ⟨-,rfl,rfl⟩⟩
  · simp [he] at hn
  · rcases h with h | ⟨-,hs⟩
    · simp [Held,he,h]
    · -- the younger generation cannot be full
      have hle := Finset.card_le_card (Finset.insert_subset_insert other hs)
      rw [Finset.card_insert_of_notMem (by simp_all [TwoGenDedup.contains])] at hle
      omega
  · rcases h with h | ⟨h,hs⟩
    · simp [Held,he,h]
    · exact .inr (by simp only [he]; exact ⟨h,Finset.insert_subset_insert other hs⟩)

lemma Held.run {cs : List Call} (hb : Balanced limit d) (h : Held id since d) (hr : .remove id ∉ cs)
    (hk : (since ∪ newOthers id d cs).card < limit/2) : ((d.run cs).insert id).2 = false := by
  induction cs generalizing d since with
  | nil => simp [TwoGenDedup.run,TwoGenDedup.insert,h.contains]
  | cons call cs ih =>
    rw [List.mem_cons,not_or] at hr
    cases call with
    | insert other =>
      rw [newOthers] at hk
      split_ifs at hk with hn
      · rw [← Finset.union_assoc,Finset.union_comm since,← Finset.insert_eq] at hk
        refine ih (hb.step _) (h.insert ?_ hn.2) hr.2 hk
        rw [hb.limit_eq]
        exact (Finset.card_le_card Finset.subset_union_left).trans_lt hk
      · -- what is not new, or the id itself, leaves the memory as it is
        refine ih (hb.step _) ?_ hr.2 (by rwa [Finset.empty_union] at hk)
        rcases insert_cases d other with ⟨-,he⟩ | ⟨hc,_,_,he,-⟩
        · simpa [step,he]
        · obtain rfl : other = id := by simpa [he] using hn
          simp [h.contains] at hc
    | remove other =>
      have hne : id ≠ other := fun he => hr.1 (he ▸ rfl)
      refine ih (hb.step _) ?_ hr.2 hk
      rcases h with h | ⟨h,hc⟩
      · exact .inl (Finset.mem_erase_of_ne_of_mem hne h)
      · exact .inr ⟨Finset.mem_erase_of_ne_of_mem hne h,(Finset.erase_subset _ _).trans hc⟩

/-- The generations share no id and hold no more than the limit, and what they hold is a duplicate; a
new id is one until half the limit of other ids have been new, unless it is removed. -/
theorem duplicate_memory (h : 2 ≤ limit) (before : List Call) : let d := (new limit).run before
    Disjoint d.current d.previous ∧ d.current.card + d.previous.card ≤ limit ∧
      (∀ id, (d.insert id).2 = !d.contains id) ∧ ∀ id after, (d.insert id).2 = true → .remove id ∉ after →
        (newOthers id (d.insert id).1 after).card < limit/2 →
          (((d.insert id).1.run after).insert id).2 = false := by
  have hb := balanced_run h before
  refine ⟨hb.disjoint,by have := hb.current_lt; have := hb.previous_le; omega,fun id => ?_,
    fun id after hn hr hk => ?_⟩
  · rcases insert_cases ((new limit).run before) id with ⟨hc,he⟩ | ⟨hc,_,_,he,-⟩ <;> simp [he,hc]
  suffices hh : Held id ∅ (((new limit).run before).insert id).1 from
    hh.run (hb.step (.insert id)) hr (by rwa [Finset.empty_union])
  rcases insert_cases ((new limit).run before) id with ⟨-,he⟩ | ⟨-,_,_,he,⟨-,rfl,rfl⟩ | ⟨-,rfl,rfl⟩⟩
  · simp [he] at hn
  · simp [Held,he]
  · simp [Held,he]

theorem duplicate_memory_four :
    (((((new 4).run [.insert "a"]).insert "b").1.run [.insert "c"]).insert "b").2 = false :=
  (duplicate_memory (by decide) _).2.2.2 "b" _ (by decide) (by decide) (by decide)

end TwoGenDedup

structure ChannelFilter where
  kinds : Option (List ℕ)
  requireMention : Bool
  deriving DecidableEq

inductive RelayCommand
  | subscribe (channelId : Uuid) (filter : ChannelFilter) (replaySince : Option ℕ)
  | unsubscribe (channelId : Uuid)
  | reconnect
  | shutdown
  | subscribeMembership
  | subscribeObserverControls
  | publishEvent (event : Event)
  | setStartupWatermark (ts : ℕ)
  deriving DecidableEq

inductive RelayMessage
  | event (subscriptionId : String) (event : Event)
  | ok (eventId : String) (accepted : Bool) (message : String)
  | eose (subscriptionId : String)
  | closed (subscriptionId message : String)
  | notice (message : String)
  | auth (challenge : String)

inductive Subscription
  | channel (channelId : Uuid)
  | membership
  | observerControl
  deriving DecidableEq

def membershipNotifSubId : String := "membership-notif"
def observerControlSubId : String := "agent-observer-control"

def uuidText (u : Uuid) : String :=
  let digits := encode u.bytes
  String.ofList (digits.take 8 ++ '-' :: (digits.drop 8).take 4 ++ '-' :: (digits.drop 12).take 4 ++
    '-' :: (digits.drop 16).take 4 ++ '-' :: digits.drop 20)

def channelSubId (channelId : Uuid) : String := "ch-" ++ uuidText channelId

structure ReqFilter where
  kinds : Option (List ℕ)
  h : Option (List String)
  p : Option (List String)
  since : ℕ
  deriving DecidableEq

inductive Frame
  | req (subscription : Subscription) (filter : ReqFilter)
  | close (subscriptionId : String)
  | event (event : Event)
  | auth (challenge : String)
  | ping
  | pong (data : List Byte)
  | closeConnection
  deriving DecidableEq

def channelIdFromSubId (parseUuid : String → Option Uuid) (subId : String) : Option Uuid :=
  (LineText.stripStart "ch-" subId).bind parseUuid

def extractHTagUuid (parseUuid : String → Option Uuid) (event : Event) : Option Uuid :=
  event.tags.findSome? fun tag =>
    match tag.asSlice with
    | name :: value :: _ => if name = "h" then parseUuid value else none
    | _ => none

def startsWith (message start : String) : Bool := (LineText.stripStart start message).isSome

/-- What follows the first occurrence of a pattern. -/
def afterFirst (pattern : List Char) : List Char → Option (List Char)
  | [] => [].dropPrefix? pattern
  | c :: cs =>
    match (c :: cs).dropPrefix? pattern with
    | some rest => some rest
    | none => afterFirst pattern cs

def parseRateLimitRetrySecs (msg : String) : Option ℕ :=
  (afterFirst "retry in ".toList msg.toList).bind fun after =>
    DecimalText.parseUnsigned (2^64) (after.takeWhile Char.isDigit)

def channelAccessDeniedReasons : List String :=
  ["restricted: not a channel member","restricted: channel access revoked"]

def isAuthError (message : String) : Bool :=
  startsWith message "auth-required" || startsWith message "restricted" || decide
    ("auth".toList <:+: message.toList)

def isObserverFrame (event : Event) : Bool := event.kind = kindAgentObserverFrame

structure BgState where
  activeSubscriptions : Table Uuid String
  lastSeen : Table Uuid ℕ
  seenIds : TwoGenDedup
  activeFilters : Table Uuid ChannelFilter
  membershipDroppedSince : Option ℕ
  membershipLastSeen : Option ℕ
  membershipSubActive : Bool
  observerControlSubActive : Bool
  channelDroppedSince : Table Uuid ℕ
  proactiveResubscribeNeeded : Bool
  startupWatermark : Option ℕ
  subscribeSince : Table Uuid ℕ
  rateLimitGate : Option ℕ
  rateLimitedPending : Table Uuid ℕ
  membershipResubNeeded : Bool
  observerResubNeeded : Bool
  gatedObserverPending : List Event
  observerInFlight : List Event
  gatedObserverDropped : ℕ
  resubscribeRetry : Table Uuid Unit
  backoffStep : ℕ

namespace BgState

def new : BgState where
  activeSubscriptions := ∅
  lastSeen := ∅
  seenIds := .new seenIdLimit
  activeFilters := ∅
  membershipDroppedSince := none
  membershipLastSeen := none
  membershipSubActive := false
  observerControlSubActive := false
  channelDroppedSince := ∅
  proactiveResubscribeNeeded := false
  startupWatermark := none
  subscribeSince := ∅
  rateLimitGate := none
  rateLimitedPending := ∅
  membershipResubNeeded := false
  observerResubNeeded := false
  gatedObserverPending := []
  observerInFlight := []
  gatedObserverDropped := 0
  resubscribeRetry := ∅
  backoffStep := 0

/-- `entry(k).and_modify(..).or_insert(v)` with the larger value. -/
def raise (t : Table Uuid ℕ) (k : Uuid) (v : ℕ) : Table Uuid ℕ :=
  t.insert k (((t.lookup k).map (max · v)).getD v)

/-- `entry(k).and_modify(..).or_insert(v)` with the smaller value. -/
def lower (t : Table Uuid ℕ) (k : Uuid) (v : ℕ) : Table Uuid ℕ :=
  t.insert k (((t.lookup k).map (min · v)).getD v)

variable (s : BgState)

def recordEvent (channelId : Uuid) (event : Event) : BgState × Bool :=
  match s.seenIds.insert event.id.toHex with
  | (_,false) => (s,false)
  | (seenIds,true) =>
    ({ s with seenIds := seenIds, lastSeen := raise s.lastSeen channelId event.createdAt },true)

def channelSince (channelId : Uuid) : Option ℕ :=
  match s.lastSeen.lookup channelId, s.channelDroppedSince.lookup channelId with
  | some l, some d => some (min l d)
  | some l, none => some l
  | none, some d => some d
  | none, none => (s.subscribeSince.lookup channelId).or s.startupWatermark

def membershipSince : Option ℕ :=
  match s.membershipDroppedSince, s.membershipLastSeen with
  | some d, some l => some (min d l)
  | some d, none => some d
  | none, some l => some l
  | none, none => s.startupWatermark

def clearChannelState (channelId : Uuid) : BgState :=
  { s with
    lastSeen := s.lastSeen.erase channelId
    subscribeSince := s.subscribeSince.erase channelId
    channelDroppedSince := s.channelDroppedSince.erase channelId
    activeFilters := s.activeFilters.erase channelId
    rateLimitedPending := s.rateLimitedPending.erase channelId
    resubscribeRetry := s.resubscribeRetry.erase channelId }

/-- The replay floor of a channel is set by its first subscription only. -/
def seedSubscribeSince (channelId : Uuid) (replaySince : Option ℕ) (unixNow : ℕ) : BgState :=
  { s with subscribeSince :=
      match s.subscribeSince.lookup channelId with
      | some _ => s.subscribeSince
      | none => s.subscribeSince.insert channelId ((replaySince.or s.startupWatermark).getD unixNow) }

def setStartupWatermark (ts : ℕ) : BgState :=
  { s with startupWatermark := some ts, membershipLastSeen := s.membershipLastSeen.or (some ts) }

/-- The gate with a new deadline, which never comes before the one it has. -/
def armedGate (deadline : ℕ) : ℕ :=
  match s.rateLimitGate with
  | some existing => if deadline < existing then existing else deadline
  | none => deadline

-- The operations on the observer queues return the frames they evict beside the new state; each
-- of them is counted.

def parkGatedObserverFrame (event : Event) : BgState × List Event :=
  let pushed := push gatedObserverQueueCap s.gatedObserverPending event
  ({ s with
      gatedObserverPending := pushed.1
      gatedObserverDropped := s.gatedObserverDropped + pushed.2.length },pushed.2)

def requeueObserverInFlight : BgState × List Event :=
  -- frames leave the back of one queue for the front of the other
  let trimmed := trim gatedObserverQueueCap (s.observerInFlight.foldr List.cons s.gatedObserverPending)
  ({ s with
      observerInFlight := []
      gatedObserverPending := trimmed.1
      gatedObserverDropped := s.gatedObserverDropped + trimmed.2.length },trimmed.2)

def trackObserverInFlight (event : Event) : BgState × List Event :=
  let pushed := push gatedObserverQueueCap s.observerInFlight event
  ({ s with
      observerInFlight := pushed.1
      gatedObserverDropped := s.gatedObserverDropped + pushed.2.length },pushed.2)

/-- The state without the first frame in flight of that id, and the frame. -/
def acknowledgeObserverFrame (eventId : String) : BgState × Option Event :=
  ({ s with observerInFlight := s.observerInFlight.eraseP fun event => event.id.toHex = eventId },
    s.observerInFlight.find? fun event => event.id.toHex = eventId)

end BgState
end BuzzSolo.AcpRelay
