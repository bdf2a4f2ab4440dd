import BuzzSolo.EventStore
import BuzzSolo.Filter

/-! Queries of the laptop relay: selection of effective events with per-filter limits and
cursors, the read gate on single events, and the two query operations behind it. -/
namespace BuzzSolo.Query

open Ingest EventStore List

inductive QueryError
  | searchUnsupported
  | incompleteCursor
  deriving DecidableEq

inductive IdentityDenialCode
  | authenticationRequired
  | eventDisclosureDenied
  deriving DecidableEq

inductive ApiError
  | identity (code : IdentityDenialCode)
  | query (error : QueryError)
  deriving DecidableEq

structure CursorFilter where
  filter : Filter
  beforeId : Option EventId

def defaultQueryLimit : ℕ := 500
def maxQueryLimit : ℕ := 5000

/-- The order of answers: newest first, then by hexadecimal id. -/
def NewestFirst (left right : Event) : Prop :=
  right.createdAt < left.createdAt ∨ (right.createdAt = left.createdAt ∧ left.id.toHex ≤ right.id.toHex)

instance : DecidableRel NewestFirst := fun _ _ => inferInstanceAs (Decidable (_ ∨ _))

lemma newestFirst_iff (a b : Event) : NewestFirst a b ↔ rank b ≤ rank a := by
  rw [rank,rank,Prod.Lex.toLex_le_toLex]
  rfl

instance : Std.Total NewestFirst :=
  ⟨fun a b => by simpa only [newestFirst_iff] using le_total (rank b) (rank a)⟩

instance : IsTrans Event NewestFirst :=
  ⟨fun a b c hab hbc => by
    rw [newestFirst_iff] at hab hbc ⊢
    exact hbc.trans hab⟩

lemma id_eq_of_newestFirst {a b : Event} (hab : NewestFirst a b) (hba : NewestFirst b a) : a.id = b.id := by
  rw [newestFirst_iff] at hab hba
  exact rank_inj a b (le_antisymm hba hab)

def StoredNewestFirst (left right : StoredEvent) : Prop := NewestFirst left.event right.event

instance : DecidableRel StoredNewestFirst := fun a b =>
  inferInstanceAs (Decidable (NewestFirst a.event b.event))

instance : Std.Total StoredNewestFirst := ⟨fun a b => Std.Total.total (r := NewestFirst) a.event b.event⟩

instance : IsTrans StoredEvent StoredNewestFirst :=
  ⟨fun a b c hab hbc => IsTrans.trans (r := NewestFirst) a.event b.event c.event hab hbc⟩

def orderedEvents (events : List StoredEvent) : List StoredEvent := events.insertionSort StoredNewestFirst

def cursorAdmits (c : CursorFilter) (event : Event) : Bool :=
  match c.beforeId, c.filter.untilTime with
  | some beforeId, some untilTime =>
    decide (event.createdAt < untilTime) ||
      (decide (event.createdAt = untilTime) && decide (beforeId.toHex < event.id.toHex))
  | none, _ => true
  | some _, none => false

def queryLimit (f : Filter) : ℕ := min (f.limit.getD defaultQueryLimit) maxQueryLimit

def admits (c : CursorFilter) (stored : StoredEvent) : Bool :=
  Filter.filtersMatch [c.filter] stored && cursorAdmits c stored.event

def taken (c : CursorFilter) (ordered : List StoredEvent) : List StoredEvent :=
  (ordered.filter (admits c)).take (queryLimit c.filter)

/-- One round of the selection loop: an id is selected once. -/
def pick (acc : Finset EventId × List Event) (stored : StoredEvent) : Finset EventId × List Event :=
  if stored.event.id ∈ acc.1 then acc
  else (insert stored.event.id acc.1,acc.2 ++ [stored.event])

def selectMatches (ordered : List StoredEvent) (filters : List CursorFilter) : List Event :=
  (filters.foldl (fun acc c => (taken c ordered).foldl pick acc) (∅,[])).2

def validateFilters (filters : List Filter) : Except QueryError Unit :=
  if filters.any fun f => f.search.isSome then .error .searchUnsupported else .ok ()

def checkCursors (filters : List CursorFilter) : Except QueryError Unit :=
  if filters.any fun c => c.beforeId.isSome && c.filter.untilTime.isNone then
    .error .incompleteCursor
  else validateFilters (filters.map CursorFilter.filter)

def queryWithCursors (events : List StoredEvent) (filters : List CursorFilter) :
    Except QueryError (List Event) :=
  match checkCursors filters with
  | .error e => .error e
  | .ok () =>
    if filters.isEmpty then .ok []
    else .ok ((selectMatches (orderedEvents events) filters).insertionSort NewestFirst)

inductive Principal
  | nostr (pubkey : PublicKey)
  | relayNode (id : String)
  | system (id : String)
  deriving DecidableEq

def Principal.nostrPubkey : Principal → Option PublicKey
  | .nostr pubkey => some pubkey
  | .relayNode _ => none
  | .system _ => none

def kindEventReminder : ℕ := 30300
def kindPushLease : ℕ := 30350
def kindAgentObserverFrame : ℕ := 24200
def kindMemberAddedNotification : ℕ := 44100
def kindMemberRemovedNotification : ℕ := 44101
def kindGiftWrap : ℕ := 1059
def kindDmVisibility : ℕ := 30622
def kindAgentTurnMetric : ℕ := 44200
def kindBeaconPulse : ℕ := 20700

def authorOnlyKinds : List ℕ := [kindEventReminder,kindPushLease]

def pGatedKinds : List ℕ :=
  [kindAgentObserverFrame,kindMemberAddedNotification,kindMemberRemovedNotification,kindGiftWrap,
    kindDmVisibility,kindAgentTurnMetric]

def eventHasRecipient (event : Event) (readerPubkeyHex : String) : Bool :=
  (event.tagsNamed "p").any fun tag => tag.content = some readerPubkeyHex

def readerAuthorizedForEvent (event : Event) (readerPubkeyHex : String) : Bool :=
  if event.kind ≠ kindDmVisibility ∧ event.kind ≠ kindAgentTurnMetric then true
  else eventHasRecipient event readerPubkeyHex

/-- Whether the adapter lets the principal see the event; no other part of the request is
consulted. -/
def authorizeEventDelivery (principal : Principal) (event : Event) : Bool :=
  match principal.nostrPubkey with
  | none => false
  | some reader =>
    if authorOnlyKinds.contains event.kind && event.pubkey ≠ reader then false
    else if pGatedKinds.contains event.kind && !eventHasRecipient event reader.toHex then false
    else readerAuthorizedForEvent event reader.toHex

/-- The relay as far as reads depend on it. `identity` holds the admitted verification keys
of the identity adapter when there is one; `currentPulse` is the pulse the node signs for a
store at the time of the request. -/
structure Relay where
  identity : Option (List PublicKey)
  governanceOwner : Option PublicKey
  currentPulse : Store → Option Event
  currentPulse_kind : ∀ s pulse, currentPulse s = some pulse → pulse.kind = kindBeaconPulse

lemma noPulse_kind : ∀ (_ : Store) (pulse : Event), none = some pulse → pulse.kind = kindBeaconPulse := by
  simp

variable (R : Relay)

def authorizeQuery (principal : Option Principal) : Except ApiError Unit :=
  match R.identity, principal with
  | none, _ => .ok ()
  | some _, none => .error (.identity .authenticationRequired)
  | some _, some _ => .ok ()

def eventIsVisible (principal : Option Principal) (event : Event) : Bool :=
  match R.identity, principal with
  | none, _ => true
  | some _, some principal => authorizeEventDelivery principal event
  | some _, none => false

def pulseVisibleTo (principal : Option Principal) : Bool :=
  match R.identity with
  | none => true
  | some admitted =>
    match principal.bind Principal.nostrPubkey with
    | none => false
    | some pubkey => R.governanceOwner = some pubkey || admitted.contains pubkey

def asksForPulse (f : Filter) : Bool :=
  match f.kinds with
  | some kinds => kinds.contains kindBeaconPulse
  | none => false

/-- The pulse an answer starts with, if the filters ask for one and it is due. -/
def pulsePart (X : Crates) (R : Relay) (s : Store) (principal : Option Principal)
    (filters : List Filter) : List Event :=
  let pulseFilters := filters.filter asksForPulse
  if !pulseFilters.isEmpty && pulseVisibleTo R principal then
    match R.currentPulse s with
    | none => []
    | some pulse => if Filter.filtersMatch pulseFilters (storedEvent X pulse) then [pulse] else []
  else []

def queryForCursors (X : Crates) (R : Relay) (s : Store) (principal : Option Principal)
    (filters : List CursorFilter) : Except ApiError (List Event) :=
  match authorizeQuery R principal with
  | .error e => .error e
  | .ok () =>
    match queryWithCursors s.events filters with
    | .error e => .error (.query e)
    | .ok events =>
      .ok (pulsePart X R s principal (filters.map CursorFilter.filter) ++ events.filter
        (eventIsVisible R principal))

def countFor (s : Store) (principal : Option Principal) (filters : List Filter) : Except ApiError ℕ :=
  match authorizeQuery R principal with
  | .error e => .error e
  | .ok () =>
    match validateFilters filters with
    | .error e => .error (.query e)
    | .ok () =>
      if filters.isEmpty then .ok 0
      else .ok ((s.events.filter (Filter.filtersMatch filters)).filter
        fun stored => eventIsVisible R principal stored.event).length

/-- What every effective list is: one event an id, and none of a live-only kind. -/
structure EffectiveSet (events : List StoredEvent) : Prop where
  nodup : (events.map fun s => s.event.id).Nodup
  durable : ∀ s ∈ events, isEphemeralKind s.event.kind = false

lemma effectiveSet_nil : EffectiveSet [] := ⟨by simp,by simp⟩

variable {es : List StoredEvent}

lemma EffectiveSet.eq_of_id (h : EffectiveSet es)
    {s t : StoredEvent} (hs : s ∈ es) (ht : t ∈ es) (hid : s.event.id = t.event.id) : s = t :=
  inj_on_of_nodup_map h.nodup hs ht hid

lemma EffectiveSet.filter (h : EffectiveSet es) (p : StoredEvent → Bool) : EffectiveSet (es.filter p) :=
  ⟨h.nodup.sublist (filter_sublist.map _),fun s hs => h.durable s (mem_filter.1 hs).1⟩

lemma applyEffectiveEvent_effectiveSet (h : EffectiveSet es)
    (cand : StoredEvent) : EffectiveSet (applyEffectiveEvent es cand).1 := by
  by_cases hd : decideEvent es false cand.event = .stored
  · have hid : ¬ ∃ s ∈ es, s.event.id = cand.event.id := by
      intro hid
      simp [decideEvent,hid] at hd
    have hdu : isEphemeralKind cand.event.kind = false := by
      by_contra he
      have := (decideEvent_ephemeral_iff es cand.event hid).2 (by simpa using he)
      simp [this] at hd
    have hn : cand.event.id ∉ es.map fun s => s.event.id := by simpa using hid
    simp only [applyEffectiveEvent,hd,ne_eq,not_true_eq_false,if_false]
    split
    · refine ⟨?_,?_⟩
      · rw [map_set]
        exact h.nodup.set hn
      · intro s hs
        rcases mem_or_eq_of_mem_set hs with hs | rfl
        · exact h.durable s hs
        · exact hdu
    · refine ⟨?_,?_⟩
      · rw [map_append,nodup_append]
        refine ⟨h.nodup,by simp,?_⟩
        intro i hi j hj hij
        have hjc : j = cand.event.id := by simpa using hj
        exact hn (hjc ▸ hij ▸ hi)
      · intro s hs
        rcases mem_append.1 hs with hs | hs
        · exact h.durable s hs
        · exact mem_singleton.1 hs ▸ hdu
  · simpa [applyEffectiveEvent,hd] using h

/-- Every store keeps an effective set, whatever is submitted and whatever fails. -/
lemma accept_effectiveSet (X : Crates) (io : AppendOutcome) {s : Store} (h : EffectiveSet s.events)
    (e : Event) : EffectiveSet (accept X io s e).1.events := by
  have hst := applyEffectiveEvent_effectiveSet h (storedEvent X e)
  unfold accept
  split
  · exact h
  · split
    · exact h
    · exact h
    · exact h
    · split
      · exact hst
      · split
        · exact h
        · split
          · exact h
          · exact hst

end BuzzSolo.Query
