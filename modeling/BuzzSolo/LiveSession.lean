import BuzzSolo.Broadcast
import BuzzSolo.ConcurrentSubmissions
import BuzzSolo.HashTable

/-! One WebSocket session among submissions that run at the same time. It takes up one client
message or one live event at a time; while it answers a REQ it receives nothing. -/
namespace BuzzSolo.LocalRelay

open Ingest EventStore HashTable
open Query (Principal QueryError ApiError CursorFilter)

def eventChannelCapacity : ℕ := 1024
def maxSubscriptionsPerConnection : ℕ := 128
def maxSubscriptionIdLength : ℕ := 128

def queryErrorText : QueryError → String
  | .searchUnsupported => "NIP-50 search filters require the production relay"
  | .incompleteCursor => "before_id requires until to be set"

def denialText : Query.IdentityDenialCode → String
  | .authenticationRequired => "authentication_required"
  | .eventDisclosureDenied => "event_disclosure_denied"

def apiErrorText : ApiError → String
  | .identity code => denialText code ++ ": identity operation denied"
  | .query error => queryErrorText error

def laggedText (skipped : ℕ) : String := "local relay subscriber lagged by " ++ toString skipped ++ " events"

/-- What a session writes to its socket about its subscriptions. -/
inductive Frame
  | event (subscriptionId : String) (event : Event)
  | eose (subscriptionId : String)
  | closed (subscriptionId reason : String)
  | notice (text : String)
  deriving DecidableEq

/-- An open subscription. The session keeps its filters; what its REQ met is kept for statements:
the number of live messages received and of frames written before it, and the effective events
that its answer was read from. -/
structure Subscription where
  filters : List Filter
  received : ℕ
  written : ℕ
  snapshot : List StoredEvent

inductive Phase
  | away
  | idle
  | asked (subscriptionId : String) (filters : List Filter)
  | witnessing (subscriptionId : String) (subscription : Subscription) (events : List Event)
  | signing (subscriptionId : String) (subscription : Subscription) (events : List Event)
    (snap : Snapshot)
  | registering (subscriptionId : String) (subscription : Subscription) (events : List Event)
    (pulse : CurrentPulse)
  | answering (subscriptionId : String) (rest : List Event)
  | delivering (event : Event) (rest : List (String × Subscription))
  | ended

structure Session where
  phase : Phase
  position : ℕ
  subscriptions : Table String Subscription
  principal : Option Principal
  frames : List Frame

/-- A message of the client. The filters of a REQ come as they were parsed, or with the text that
refuses them. -/
inductive ClientMessage
  | req (subscriptionId : Option String) (filters : Except String (List Filter))
  | close (subscriptionId : Option String)
  | auth (authenticated : Option Principal)
  | unsupported

variable (R : Relay)

/-- The relay as far as a session's reads depend on it. -/
def identityOf : Query.Relay where
  identity := R.identity
  governanceOwner := R.governance.map Prod.fst
  currentPulse _ := none
  currentPulse_kind := Query.noPulse_kind

namespace Session

def start : Session := ⟨.away,0,∅,none,[]⟩

def write (ses : Session) (frame : Frame) : Session := { ses with frames := ses.frames ++ [frame] }

def refuse (ses : Session) (subscriptionId reason : String) : Session :=
  { ses.write (.closed subscriptionId reason) with phase := .idle }

def checkReq (ses : Session) (subscriptionId : String)
    (filters : Except String (List Filter)) : Except String (List Filter) := do
  Checks.require (subscriptionId.utf8ByteSize ≤ maxSubscriptionIdLength) "subscription ID too long"
  Checks.require (subscriptionId ∈ ses.subscriptions ∨
    ses.subscriptions.keys.length < maxSubscriptionsPerConnection) "too many subscriptions"
  let filters ← filters
  Checks.require (filters ≠ []) "invalid filters"
  (Query.validateFilters filters).mapError queryErrorText
  (Query.authorizeQuery (identityOf R) ses.principal).mapError apiErrorText
  .ok filters

def handle (ses : Session) : ClientMessage → Session
  | .req none _ => ses.write (.notice "invalid REQ")
  | .req (some subscriptionId) filters =>
    match checkReq R ses subscriptionId filters with
    | .error reason => ses.refuse subscriptionId reason
    | .ok filters => { ses with phase := .asked subscriptionId filters }
  | .close none => ses
  | .close (some subscriptionId) =>
    { ses with subscriptions := ses.subscriptions.erase subscriptionId }
  | .auth authenticated =>
    if R.identity.isSome ∧ ses.principal = none then { ses with principal := authenticated } else ses
  | .unsupported => ses.write (.notice "unsupported message")

/-- The subscription is open before its history is written. -/
def register (ses : Session) (subscriptionId : String) (subscription : Subscription)
    (events : List Event) : Session :=
  { ses with
    subscriptions := ses.subscriptions.insert subscriptionId subscription
    phase := .answering subscriptionId events }

/-- Whether a live event may go to the session; pulses and responses have a rule of their own. -/
def liveVisible (principal : Option Principal) (event : Event) : Bool :=
  if event.kind = Query.kindBeaconPulse ∨ event.kind = kindBeaconResponse then
    Query.pulseVisibleTo (identityOf R) principal
  else Query.eventIsVisible (identityOf R) principal event

/-- The next step of what the session is doing; only a registered pulse touches the relay. -/
def advance (X : Crates) (R : Relay) (m : Moment) (s : State) (ses : Session) : State × Session :=
  match ses.phase with
  | .away => (s,ses)
  | .idle => (s,ses)
  | .ended => (s,ses)
  | .asked subscriptionId filters =>
    match Query.queryWithCursors s.store.events (filters.map fun f => ⟨f,none⟩) with
    | .error error => (s,ses.refuse subscriptionId (queryErrorText error))
    | .ok events =>
      let subscription : Subscription := ⟨filters,ses.position,ses.frames.length,s.store.events⟩
      let visible := events.filter (Query.eventIsVisible (identityOf R) ses.principal)
      if (filters.any Query.asksForPulse && Query.pulseVisibleTo (identityOf R) ses.principal) = true then
        (s,{ ses with phase := .witnessing subscriptionId subscription visible })
      else (s,ses.register subscriptionId subscription visible)
  | .witnessing subscriptionId subscription events =>
    if R.relayKeys.isSome then
      (s,{ ses with phase := .signing subscriptionId subscription events (takeSnapshot R s.store) })
    else (s,ses.register subscriptionId subscription events)
  | .signing subscriptionId subscription events snap =>
    match signPulse X R m s.beaconRounds snap with
    | none => (s,ses.register subscriptionId subscription events)
    | some pulse =>
      if Filter.filtersMatch (subscription.filters.filter Query.asksForPulse)
          (storedEvent X.toCrates pulse.event) then
        (s,{ ses with phase := .registering subscriptionId subscription events pulse })
      else (s,ses.register subscriptionId subscription events)
  | .registering subscriptionId subscription events pulse =>
    ({ s with beaconRounds := registerPulse s.beaconRounds pulse },
      ses.register subscriptionId subscription (pulse.event :: events))
  | .answering subscriptionId [] => (s,{ ses.write (.eose subscriptionId) with phase := .idle })
  | .answering subscriptionId (event :: rest) =>
    (s,{ ses.write (.event subscriptionId event) with phase := .answering subscriptionId rest })
  | .delivering _ [] => (s,{ ses with phase := .idle })
  | .delivering event ((subscriptionId,subscription) :: rest) =>
    if (Filter.filtersMatch subscription.filters (storedEvent X.toCrates event) &&
        liveVisible R ses.principal event) = true then
      (s,{ ses.write (.event subscriptionId event) with phase := .delivering event rest })
    else (s,{ ses with phase := .delivering event rest })

def receive (live : List Sent) (order : List String) (ses : Session) : Session :=
  match Broadcast.recv eventChannelCapacity live ses.position with
  | (.nothing,_) => ses
  | (.item sent,position) =>
    { ses with
      position := position
      phase := .delivering sent.payload (iter order ses.subscriptions) }
  | (.lagged skipped,position) =>
    { ses.write (.notice (laggedText skipped)) with position := position }

end Session

structure System where
  world : World
  session : Session

/-- A step of the submissions, or of the session: it connects, takes up a client message, receives
from the live stream, goes on with what it is doing, or loses its connection. -/
inductive SystemAction
  | relay (action : Action)
  | connect
  | client (message : ClientMessage)
  | receive (order : List String)
  | advance (m : Moment)
  | disconnect

namespace System

def start (s : State) : System := ⟨World.start s,Session.start⟩

def step (X : Crates) (R : Relay) (σ : System) : SystemAction → System
  | .relay action => { σ with world := σ.world.step X R action }
  | .connect =>
    match σ.session.phase with
    | .away => { σ with session := { σ.session with phase := .idle, position := σ.world.live.length } }
    | _ => σ
  | .client message =>
    match σ.session.phase with
    | .idle => { σ with session := σ.session.handle R message }
    | _ => σ
  | .receive order =>
    match σ.session.phase with
    | .idle => { σ with session := σ.session.receive σ.world.live order }
    | _ => σ
  | .advance m =>
    let advanced := σ.session.advance X R m σ.world.relay
    ⟨{ σ.world with relay := advanced.1 },advanced.2⟩
  | .disconnect => { σ with session := { σ.session with phase := .ended, subscriptions := ∅ } }

def run (X : Crates) (R : Relay) (σ : System) (actions : List SystemAction) : System :=
  actions.foldl (step X R) σ

end System

end BuzzSolo.LocalRelay
