import BuzzSolo.AcpRelayState
import BuzzSolo.Suspension

/-! The background task of the agent harness that owns the relay connection. It waits for inputs;
everything else it learns from outside (the clock, whether a write or a `try_send` went through, the
order of a hash table) comes as an answer to a question. -/
namespace BuzzSolo.AcpRelay

open HashTable Suspension

def reqPacingInterval : ℕ := 125*10^6
def pongTimeout : ℕ := 10*nanosPerSec
def stableConnectionSecs : ℕ := 60
def drainBudgetPerIter : ℕ := 1
def startupConnectAttempts : ℕ := 5
def maxDnsFlatRetries : ℕ := 10

/-- The result of `try_send` on a bounded channel. -/
inductive TrySend
  | ok | full | closed
  deriving DecidableEq

/-- What the surroundings answer when the task asks. -/
structure Answer where
  /-- whether `ws_send_timeout` succeeds -/
  written : Bool
  instant : ℕ
  unixTime : ℕ
  /-- a duration with twenty percent of jitter -/
  jittered : ℕ → ℕ
  offered : TrySend
  order : List Uuid

structure Env where
  parseUuid : String → Option Uuid
  agentPubkeyHex : String
  answers : ℕ → Answer
  /-- how many rounds of each loop a run follows -/
  rounds : ℕ

/-- A frame of the socket; the text of a frame is taken as parsed. -/
inductive Message
  | text (parsed : Option RelayMessage)
  | ping (data : List HexText.Byte)
  | pong
  | close
  | other

/-- What `ws.next()` yields. -/
inductive Raw
  | received (msg : Message)
  | failed
  | ended

inductive ConnectResult
  | connected (buffer : List RelayMessage)
  | dnsError
  | error

inductive Input
  | message (raw : Raw)
  /-- a command, or the end of all senders -/
  | command (cmd : Option RelayCommand)
  /-- the command channel is found empty -/
  | empty
  | elapsed
  | pingTick
  | connection (result : ConnectResult)

inductive Site
  | select | commands | sleep | connect | cut
  deriving DecidableEq

/-- The part of the task that writes a frame. -/
inductive Origin
  | command | replay | upkeep
  deriving DecidableEq

/-- What the task does, as far as it can be told from outside or is counted. -/
inductive Note
  | took (cmd : RelayCommand)
  | subscribed (channelId : Uuid)
  | unsubscribed (channelId : Uuid)
  | denied (channelId : Uuid)
  | offered (subscription : Subscription) (event : Event) (outcome : TrySend)
  | sent (origin : Origin) (frame : Frame)
  | connected
  /-- the commands drained after a reconnect ended in a failed write -/
  | drainFailed
  /-- an observer frame enters one of the two queues for the first time -/
  | placed (event : Event)
  | retired (eventId : String) (event : Event)
  | discarded (event : Event)
  /-- the count of discarded frames is logged and starts again -/
  | summarised (count : ℕ)
  deriving DecidableEq

structure World where
  state : BgState
  /-- the commands that `pacing_sleep` has put off -/
  deferred : List RelayCommand
  inputs : List Input
  tick : ℕ
  /-- what was done so far, the latest first -/
  history : List Note

abbrev Job := Task Site World

variable (E : Env)

def ask : Job Answer := fun w => ({ w with tick := w.tick + 1 },.ok (E.answers w.tick))

/-- Waits until an input comes; one that cannot end this wait leaves the task waiting. -/
def waitFor {α : Type} (site : Site) (accept : Input → Option α) : Job α := fun w =>
  match w.inputs with
  | [] => (w,.error site)
  | input :: rest =>
    match accept input with
    | none => (w,.error site)
    | some a => ({ w with inputs := rest },.ok a)

def note (n : Note) : Job Unit := update fun w => { w with history := n :: w.history }

def readState : Job BgState := fun w => (w,.ok w.state)

def modifyState (f : BgState → BgState) : Job Unit := update fun w => { w with state := f w.state }

/-- `ws_send_timeout`. -/
def wsSend (origin : Origin) (frame : Frame) : Job Bool := do
  let answer ← ask E
  if answer.written then do
    note (.sent origin frame)
    pure true
  else pure false

/-- `try_send` of an event to the harness. -/
def offer (subscription : Subscription) (event : Event) : Job TrySend := do
  let answer ← ask E
  note (.offered subscription event answer.offered)
  pure answer.offered

/-- `try_send(None)`: the harness is told of the loss, if its channel has room. -/
def signalLoss : Job Unit := do
  let _ ← ask E
  pure ()

def onQueues (f : BgState → BgState × List Event) : Job Unit := update fun w =>
  { w with state := (f w.state).1, history := ((f w.state).2.map .discarded).reverse ++ w.history }

def setRateLimitGate (retrySecs : ℕ) : Job ℕ := do
  let answer ← ask E
  let secs := if retrySecs < 2 then 5 else retrySecs
  let s ← readState
  let gate := s.armedGate (answer.instant + answer.jittered (secs*nanosPerSec))
  modifyState fun s => { s with rateLimitGate := some gate }
  pure gate

def checkRateGate : Job (Option ℕ) := do
  let s ← readState
  match s.rateLimitGate with
  | none => pure none
  | some deadline => do
    let answer ← ask E
    if answer.instant < deadline then pure (some deadline)
    else do
      modifyState fun s => { s with rateLimitGate := none }
      pure none

/-- The `since` of a REQ: some seconds before the mark, or now where there is no mark. -/
def sinceOrNow (unixNow : ℕ) : Option ℕ → ℕ
  | some ts => ts - sinceSkewSecs
  | none => unixNow

def channelRequest (channelId : Uuid) (filter : ChannelFilter) (since : ℕ) : ReqFilter where
  kinds := filter.kinds
  h := some [uuidText channelId]
  p := if filter.requireMention then some [E.agentPubkeyHex] else none
  since := since

/-- The origin is not part of the frame: it tells the code paths that write it apart. -/
def sendSubscribe (origin : Origin) (channelId : Uuid) (since : Option ℕ) (filter : ChannelFilter) :
    Job Bool := do
  let answer ← ask E
  wsSend E origin
    (.req (.channel channelId) (channelRequest E channelId filter (sinceOrNow answer.unixTime since)))

def sendMembershipSubscribe (origin : Origin) (since : Option ℕ) : Job Bool := do
  let answer ← ask E
  wsSend E origin (.req .membership
    { kinds := some [kindMemberAddedNotification,kindMemberRemovedNotification]
      h := none
      p := some [E.agentPubkeyHex]
      since := sinceOrNow answer.unixTime since })

def sendObserverControlSubscribe (origin : Origin) : Job Bool := do
  let answer ← ask E
  wsSend E origin (.req .observerControl
    { kinds := some [kindAgentObserverFrame]
      h := none
      p := some [E.agentPubkeyHex]
      since := answer.unixTime })

def sendPublishEventFrame (origin : Origin) (event : Event) : Job Bool := wsSend E origin (.event event)

def parkPublished (event : Event) : Job Unit := do
  note (.placed event)
  onQueues fun s => s.parkGatedObserverFrame event

/-- Records the intent of a command while there is no connection. -/
def applyCommandToState : RelayCommand → Job Unit
  | .subscribe channelId filter replaySince => do
    let answer ← ask E
    note (.subscribed channelId)
    modifyState fun s =>
      ({ s with
          activeSubscriptions := s.activeSubscriptions.insert channelId (channelSubId channelId)
          activeFilters := s.activeFilters.insert channelId filter
        } : BgState).seedSubscribeSince channelId replaySince answer.unixTime
  | .unsubscribe channelId => do
    note (.unsubscribed channelId)
    modifyState fun s =>
      ({ s with activeSubscriptions := s.activeSubscriptions.erase channelId
        } : BgState).clearChannelState channelId
  | .subscribeMembership => modifyState fun s => { s with membershipSubActive := true }
  | .subscribeObserverControls => modifyState fun s => { s with observerControlSubActive := true }
  | .setStartupWatermark ts => modifyState fun s => s.setStartupWatermark ts
  | .publishEvent event => if isObserverFrame event then parkPublished event else pure ()
  | .reconnect => pure ()
  | .shutdown => pure ()

def retainFailedCommandIntent : RelayCommand → Job Unit
  | .publishEvent event => if isObserverFrame event then parkPublished event else pure ()
  | cmd => applyCommandToState E cmd

def retainDeferred : RelayCommand → Job Unit
  | .shutdown => pure ()
  | .reconnect => pure ()
  | cmd => retainFailedCommandIntent E cmd

def retainEach : List RelayCommand → Job Unit
  | [] => pure ()
  | cmd :: rest => do
    update fun w => { w with deferred := rest }
    retainDeferred E cmd
    retainEach rest

/-- Keeps what the commands put off asked for when the connection is lost before they run. -/
def retainDeferredCommandIntent : Job Unit := do
  let w ← read
  retainEach E w.deferred

def executeSubscribe (channelId : Uuid) (filter : ChannelFilter) (replaySince : Option ℕ) : Job Bool := do
  match ← checkRateGate E with
  | some retryAfter => do
    applyCommandToState E (.subscribe channelId filter replaySince)
    modifyState fun s =>
      { s with rateLimitedPending := s.rateLimitedPending.insert channelId retryAfter }
    pure true
  | none => do
    let answer ← ask E
    modifyState fun s => s.seedSubscribeSince channelId replaySince answer.unixTime
    let s ← readState
    note (.subscribed channelId)
    let since := (s.lastSeen.lookup channelId).or (s.subscribeSince.lookup channelId)
    if ← sendSubscribe E .command channelId since filter then do
      modifyState fun s =>
        { s with
          activeSubscriptions := s.activeSubscriptions.insert channelId (channelSubId channelId)
          activeFilters := s.activeFilters.insert channelId filter
          rateLimitedPending := s.rateLimitedPending.erase channelId
          resubscribeRetry := s.resubscribeRetry.erase channelId }
      pure true
    else do
      applyCommandToState E (.subscribe channelId filter replaySince)
      pure false

/-- CLOSE is sent at best effort, and only for a channel that was subscribed. -/
def sendClose : Option String → Job Unit
  | none => pure ()
  | some subId => do
    let _ ← wsSend E .command (.close subId)
    pure ()

def executeUnsubscribe (channelId : Uuid) : Job Bool := do
  let s ← readState
  modifyState fun s => { s with activeSubscriptions := s.activeSubscriptions.erase channelId }
  sendClose E (s.activeSubscriptions.lookup channelId)
  note (.unsubscribed channelId)
  modifyState fun s => s.clearChannelState channelId
  pure true

def executeSubscribeMembership : Job Bool := do
  modifyState fun s => { s with membershipSubActive := true }
  match ← checkRateGate E with
  | some _ => do
    modifyState fun s => { s with membershipResubNeeded := true }
    pure true
  | none => do
    let s ← readState
    let since := s.membershipLastSeen.or s.startupWatermark
    if ← sendMembershipSubscribe E .command since then do
      modifyState fun s =>
        { s with membershipResubNeeded := false, membershipLastSeen := s.membershipLastSeen.or since }
      pure true
    else do
      modifyState fun s => { s with membershipResubNeeded := true }
      pure false

def executeSubscribeObserverControls : Job Bool := do
  modifyState fun s => { s with observerControlSubActive := true }
  match ← checkRateGate E with
  | some _ => do
    modifyState fun s => { s with observerResubNeeded := true }
    pure true
  | none => do
    if ← sendObserverControlSubscribe E .command then do
      modifyState fun s => { s with observerResubNeeded := false }
      pure true
    else do
      modifyState fun s => { s with observerResubNeeded := true }
      pure false

/-- An observer frame waits while the gate is armed or others wait before it. -/
def mustPark (event : Event) : Job Bool := do
  if isObserverFrame event then do
    let gate ← checkRateGate E
    let s ← readState
    pure (gate.isSome || !s.gatedObserverPending.isEmpty)
  else pure false

def executePublishEvent (event : Event) : Job Bool := do
  if ← mustPark E event then do
    parkPublished event
    pure true
  else do
    match ← checkRateGate E with
    | some _ => pure true
    | none => do
      if ← sendPublishEventFrame E .command event then
        if isObserverFrame event then do
          note (.placed event)
          onQueues fun s => s.trackObserverInFlight event
          pure true
        else pure true
      else
        if isObserverFrame event then do
          parkPublished event
          pure true
        else pure true

/-- Executes a command on a live connection; `false` is a failed write. -/
def executeConnectedCommand : RelayCommand → Job Bool
  | .subscribe channelId filter replaySince => executeSubscribe E channelId filter replaySince
  | .unsubscribe channelId => executeUnsubscribe E channelId
  | .subscribeMembership => executeSubscribeMembership E
  | .subscribeObserverControls => executeSubscribeObserverControls E
  | .publishEvent event => executePublishEvent E event
  | .setStartupWatermark ts => do
    modifyState fun s => s.setStartupWatermark ts
    pure true
  | .shutdown => pure true
  | .reconnect => pure true

/-- An event of a channel subscription: recorded, and handed on unless it is a duplicate. -/
def handleChannelEvent (channelId : Uuid) (event : Event) : Job Bool := do
  let s ← readState
  match s.recordEvent channelId event with
  | (_,false) => pure true
  | (recorded,true) => do
    modifyState fun _ => recorded
    match ← offer E (.channel channelId) event with
    | .ok => pure true
    | .full => do
      modifyState fun s =>
        { s with
          seenIds := s.seenIds.remove event.id.toHex
          channelDroppedSince := BgState.lower s.channelDroppedSince channelId event.createdAt
          proactiveResubscribeNeeded := true }
      pure true
    | .closed => pure false

def handleMembershipEvent (event : Event) : Job Bool := do
  match extractHTagUuid E.parseUuid event with
  | none => pure true
  | some _ => do
    let s ← readState
    match s.seenIds.insert event.id.toHex with
    | (_,false) => pure true
    | (seenIds,true) => do
      modifyState fun s => { s with seenIds := seenIds }
      match ← offer E .membership event with
      | .ok => do
        modifyState fun s =>
          { s with membershipLastSeen := some (max (s.membershipLastSeen.getD 0) event.createdAt) }
        pure true
      | .full => do
        modifyState fun s =>
          { s with
            seenIds := s.seenIds.remove event.id.toHex
            membershipDroppedSince := some ((s.membershipDroppedSince.map
              (min · event.createdAt)).getD event.createdAt)
            proactiveResubscribeNeeded := true }
        pure true
      | .closed => pure false

def handleEvent (subscriptionId : String) (event : Event) : Job Bool := do
  if subscriptionId = observerControlSubId then do
    let outcome ← offer E .observerControl event
    pure (outcome ≠ .closed)
  else if subscriptionId = membershipNotifSubId then handleMembershipEvent E event
  else
    match channelIdFromSubId E.parseUuid subscriptionId with
    | some channelId => handleChannelEvent E channelId event
    | none => pure true

def handleNotice (message : String) : Job Bool := do
  if startsWith message "rate-limited:" then do
    let _ ← setRateLimitGate E ((parseRateLimitRetrySecs message).getD 0)
    onQueues fun s => s.requeueObserverInFlight
    pure true
  else pure true

def dropChannelOnAccessDenied (subId message : String) : Job Bool := do
  if message ∈ channelAccessDeniedReasons then
    match channelIdFromSubId E.parseUuid subId with
    | none => pure false
    | some channelId => do
      note (.denied channelId)
      modifyState fun s =>
        ({ s with activeSubscriptions := s.activeSubscriptions.erase channelId
          } : BgState).clearChannelState channelId
      pure true
  else pure false

/-- A REQ that the relay refused for the time being waits for the gate. -/
def parkRateLimited (subscriptionId : String) (deadline : ℕ) : Job Unit := do
  match channelIdFromSubId E.parseUuid subscriptionId with
  | some channelId => modifyState fun s =>
    { s with rateLimitedPending := s.rateLimitedPending.insert channelId deadline }
  | none =>
    if subscriptionId = membershipNotifSubId then
      modifyState fun s => { s with membershipResubNeeded := true }
    else if subscriptionId = observerControlSubId then
      modifyState fun s => { s with observerResubNeeded := true }
    else pure ()

def resubscribeClosedChannel (channelId : Uuid) : Job Bool := do
  let s ← readState
  match s.activeSubscriptions.lookup channelId with
  | none => pure true
  | some _ =>
    match s.activeFilters.lookup channelId with
    | none => pure false
    | some filter => do
      if ← sendSubscribe E .replay channelId (s.channelSince channelId) filter then do
        modifyState fun s =>
          { s with
            activeSubscriptions := s.activeSubscriptions.insert channelId (channelSubId channelId)
            channelDroppedSince := s.channelDroppedSince.erase channelId }
        pure true
      else pure false

def resubscribeClosed (subscriptionId : String) : Job Bool := do
  if subscriptionId = observerControlSubId then do
    if ← sendObserverControlSubscribe E .replay then do
      modifyState fun s => { s with observerControlSubActive := true }
      pure true
    else pure false
  else if subscriptionId = membershipNotifSubId then do
    let s ← readState
    if ← sendMembershipSubscribe E .replay s.membershipSince then do
      modifyState fun s => { s with membershipDroppedSince := none }
      pure true
    else pure false
  else
    match channelIdFromSubId E.parseUuid subscriptionId with
    | some channelId => resubscribeClosedChannel E channelId
    | none => pure true

def handleClosed (subscriptionId message : String) : Job Bool := do
  if ← dropChannelOnAccessDenied E subscriptionId message then pure true
  else if startsWith message "rate-limited:" then do
    let deadline ← setRateLimitGate E ((parseRateLimitRetrySecs message).getD 0)
    parkRateLimited E subscriptionId deadline
    pure true
  else if isAuthError message then pure false
  else resubscribeClosed E subscriptionId

def acknowledge (eventId : String) : Job Unit := update fun w =>
  { w with
    state := (w.state.acknowledgeObserverFrame eventId).1
    history := ((w.state.acknowledgeObserverFrame eventId).2.map (.retired eventId)).toList ++ w.history }

def handleOk (eventId : String) (accepted : Bool) (message : String) : Job Bool := do
  if !accepted && startsWith message "auth" then pure false
  else do
    acknowledge eventId
    pure true

def handleRelayMessage : RelayMessage → Job Bool
  | .event subscriptionId event => handleEvent E subscriptionId event
  | .eose _ => pure true
  | .notice message => handleNotice E message
  | .closed subscriptionId message => handleClosed E subscriptionId message
  | .auth challenge => wsSend E .upkeep (.auth challenge)
  | .ok eventId accepted message => handleOk eventId accepted message

/-- Handles a frame of the socket; `false` when the connection is lost. -/
def handleWsMessage : Message → Job Bool
  | .text none => pure true
  | .text (some message) => handleRelayMessage E message
  | .ping data => wsSend E .upkeep (.pong data)
  | .close => pure false
  | .pong => pure true
  | .other => pure true

/-- The messages that came during the handshake; a challenge among them is stale. -/
def processHandshakeBuffer : List RelayMessage → Job Bool
  | [] => pure true
  | .auth _ :: rest => processHandshakeBuffer rest
  | message :: rest => do
    if ← handleRelayMessage E message then processHandshakeBuffer rest
    else pure false

/-- What ends a sleep: the time is up, or a command (or the end of all senders) comes. -/
inductive Woken
  | elapsed
  | command (cmd : RelayCommand)
  | shutdown

def sleepOrCommand : Input → Option Woken
  | .elapsed => some .elapsed
  | .command none => some .shutdown
  | .command (some .shutdown) => some .shutdown
  | .command (some cmd) => some (.command cmd)
  | _ => none

def pacingRound : Unit → Job (Unit ⊕ Bool) := fun _ => do
  match ← waitFor .sleep sleepOrCommand with
  | .elapsed => pure (.inr true)
  | .shutdown => pure (.inr false)
  | .command cmd => do
    note (.took cmd)
    update fun w => { w with deferred := w.deferred ++ [cmd] }
    pure (.inl ())

/-- Commands that come during the pause are put off. `false` is a shutdown. -/
def pacingSleep : Job Bool := rounds .cut pacingRound E.rounds ()

def backoffRound : Unit → Job (Unit ⊕ Bool) := fun _ => do
  match ← waitFor .sleep sleepOrCommand with
  | .elapsed => pure (.inr true)
  | .shutdown => pure (.inr false)
  | .command cmd => do
    note (.took cmd)
    applyCommandToState E cmd
    pure (.inl ())

/-- The pause between two attempts to connect, `dns_flat_sleep` among them: commands that come
are recorded as intent. -/
def backoffSleep : Job Bool := rounds .cut (backoffRound E) E.rounds ()

inductive ResubscribeResult
  | ok | retryConnection | shutdown

inductive ReconnectOutcome
  | ok | failed | shutdown

/-- What `drain_commands` takes next: commands put off come before those of the channel. -/
inductive NextCommand
  | command (cmd : RelayCommand)
  | empty
  | disconnected

def tryRecv : Input → Option NextCommand
  | .command (some cmd) => some (.command cmd)
  | .command none => some .disconnected
  | .empty => some .empty
  | _ => none

def popDeferred : Job (Option RelayCommand) := fun w =>
  match w.deferred with
  | [] => (w,.ok none)
  | cmd :: rest => ({ w with deferred := rest },.ok (some cmd))

def nextCommand : Job NextCommand := do
  match ← popDeferred with
  | some cmd => pure (.command cmd)
  | none => do
    match ← waitFor .commands tryRecv with
    | .command cmd => do
      note (.took cmd)
      pure (.command cmd)
    | .empty => pure .empty
    | .disconnected => pure .disconnected

def isSubscription : RelayCommand → Bool
  | .subscribe .. => true
  | .subscribeMembership => true
  | .subscribeObserverControls => true
  | _ => false

def closeAndReturn : Job (Bool ⊕ ReconnectOutcome) := do
  let _ ← wsSend E .upkeep .closeConnection
  pure (.inr .shutdown)

def drainAfterFailure : RelayCommand → Job (Bool ⊕ ReconnectOutcome)
  | .shutdown => closeAndReturn E
  | .reconnect => pure (.inl true)
  | cmd => do
    retainFailedCommandIntent E cmd
    pure (.inl true)

/-- A subscription that is written, not only parked, is followed by a pause. -/
def drainSubscription (cmd : RelayCommand) : Job (Bool ⊕ ReconnectOutcome) := do
  let gate ← checkRateGate E
  if ← executeConnectedCommand E cmd then
    if gate.isNone then do
      if ← pacingSleep E then pure (.inl false)
      else pure (.inr .shutdown)
    else pure (.inl false)
  else pure (.inl true)

def drainLive : RelayCommand → Job (Bool ⊕ ReconnectOutcome)
  | .reconnect => pure (.inl false)
  | .shutdown => closeAndReturn E
  | cmd =>
    if isSubscription cmd then drainSubscription E cmd
    else do
      let ok ← executeConnectedCommand E cmd
      pure (.inl (!ok))

def drainRound (sendFailed : Bool) : Job (Bool ⊕ ReconnectOutcome) := do
  match ← nextCommand with
  | .empty => pure (.inr (if sendFailed then .failed else .ok))
  | .disconnected => pure (.inr .shutdown)
  | .command cmd => if sendFailed then drainAfterFailure E cmd else drainLive E cmd

def drainCommands : Job ReconnectOutcome := do
  let w ← read
  rounds .cut (drainRound E) (E.rounds + w.deferred.length) false

def noteDrain : ReconnectOutcome → Job ReconnectOutcome
  | .failed => do
    note .drainFailed
    pure .failed
  | outcome => pure outcome

def drainPostReconnect : Job ReconnectOutcome := do
  update fun w => { w with deferred := [] }
  let outcome ← drainCommands E
  noteDrain outcome

/-- One channel of the replay; `false` is a shutdown during the pause after it. -/
def resubscribeChannel (channelId : Uuid) : Job Bool := do
  match ← checkRateGate E with
  | some retryAfter => do
    modifyState fun s =>
      { s with rateLimitedPending := s.rateLimitedPending.insert channelId retryAfter }
    pure true
  | none => do
    let s ← readState
    match s.activeFilters.lookup channelId with
    | none => do
      modifyState fun s => { s with resubscribeRetry := s.resubscribeRetry.insert channelId () }
      pure true
    | some filter => do
      if ← sendSubscribe E .replay channelId (s.channelSince channelId) filter then do
        modifyState fun s => { s with channelDroppedSince := s.channelDroppedSince.erase channelId }
        pacingSleep E
      else do
        modifyState fun s => { s with resubscribeRetry := s.resubscribeRetry.insert channelId () }
        pure true

def resubscribeChannels : List Uuid → Job Bool
  | [] => pure true
  | channelId :: rest => do
    if ← resubscribeChannel E channelId then resubscribeChannels rest
    else pure false

/-- A control subscription that cannot be written ends the replay. -/
def retryConnection : Job (Option ResubscribeResult) := do
  retainDeferredCommandIntent E
  pure (some .retryConnection)

def replayMembership : Job (Option ResubscribeResult) := do
  let s ← readState
  if ← sendMembershipSubscribe E .replay s.membershipSince then do
    modifyState fun s => { s with membershipDroppedSince := none, membershipResubNeeded := false }
    pure none
  else retryConnection E

def replayObserverControls : Job (Option ResubscribeResult) := do
  if ← sendObserverControlSubscribe E .replay then do
    modifyState fun s => { s with observerResubNeeded := false }
    pure none
  else retryConnection E

/-- Only a replay of channels before it makes a pause necessary. -/
def paceMembership : Job Bool := do
  let s ← readState
  if s.activeSubscriptions.keys.isEmpty then pure true else pacingSleep E

/-- `some` result ends the replay. -/
def resubscribeMembership : Job (Option ResubscribeResult) := do
  let s ← readState
  if s.membershipSubActive then do
    match ← checkRateGate E with
    | some _ => do
      modifyState fun s => { s with membershipResubNeeded := true }
      pure none
    | none => do
      if ← paceMembership E then replayMembership E
      else pure (some .shutdown)
  else pure none

def resubscribeObserverControls : Job (Option ResubscribeResult) := do
  let s ← readState
  if s.observerControlSubActive then do
    match ← checkRateGate E with
    | some _ => do
      modifyState fun s => { s with observerResubNeeded := true }
      pure none
    | none => do
      if ← pacingSleep E then replayObserverControls E
      else pure (some .shutdown)
  else pure none

def ReconnectOutcome.resubscribed : ReconnectOutcome → ResubscribeResult
  | .ok => .ok
  | .failed => .retryConnection
  | .shutdown => .shutdown

/-- On a fresh connection the queues that derive from the subscriptions are built anew. -/
def clearDerived (isFreshConnection : Bool) : Job Unit :=
  if isFreshConnection then
    modifyState fun s => { s with rateLimitedPending := ∅, resubscribeRetry := ∅ }
  else pure ()

def activeChannels : Job (List Uuid) := do
  let answer ← ask E
  let s ← readState
  pure ((iter answer.order s.activeSubscriptions).map Prod.fst)

def resubscribeAfterReconnect (isFreshConnection : Bool) : Job ResubscribeResult := do
  clearDerived isFreshConnection
  update fun w => { w with deferred := [] }
  let channels ← activeChannels E
  if ← resubscribeChannels E channels then do
    match ← resubscribeMembership E with
    | some result => pure result
    | none => do
      match ← resubscribeObserverControls E with
      | some result => pure result
      | none => do
        let outcome ← drainCommands E
        pure outcome.resubscribed
  else pure .shutdown

/-- Sends parked observer frames, at most `budget` of them, and returns how many were sent. -/
def drainGatedFrames : ℕ → ℕ → Job ℕ
  | 0, sent => pure sent
  | budget+1, sent => do
    match ← checkRateGate E with
    | some _ => pure sent
    | none => do
      let s ← readState
      match s.gatedObserverPending with
      | [] => pure sent
      | event :: rest => do
        if ← sendPublishEventFrame E .replay event then do
          onQueues fun s => { s with gatedObserverPending := rest }.trackObserverInFlight event
          drainGatedFrames budget (sent + 1)
        else pure sent

/-- Once no frame is parked, the count of those lost is logged and reset. -/
def summariseDropped : Job Unit := do
  let s ← readState
  if s.gatedObserverPending.isEmpty && 0 < s.gatedObserverDropped then do
    note (.summarised s.gatedObserverDropped)
    modifyState fun s => { s with gatedObserverDropped := 0 }
  else pure ()

def drainGatedObserverPending (budget : ℕ) : Job ℕ := do
  let sent ← drainGatedFrames E budget 0
  summariseDropped
  pure sent

def drainPendingChannel (channelId : Uuid) : Job ℕ := do
  match ← checkRateGate E with
  | some retryAfter => do
    modifyState fun s =>
      { s with rateLimitedPending := s.rateLimitedPending.insert channelId retryAfter }
    pure 0
  | none => do
    let s ← readState
    match s.activeFilters.lookup channelId with
    | none => do
      modifyState fun s => { s with rateLimitedPending := s.rateLimitedPending.erase channelId }
      pure 0
    | some filter => do
      if ← sendSubscribe E .replay channelId (s.channelSince channelId) filter then do
        modifyState fun s =>
          { s with
            rateLimitedPending := s.rateLimitedPending.erase channelId
            channelDroppedSince := s.channelDroppedSince.erase channelId }
        pure 1
      else do
        let answer ← ask E
        modifyState fun s =>
          { s with rateLimitedPending :=
              s.rateLimitedPending.insert channelId (answer.instant + 5*nanosPerSec) }
        pure 0

def drainRetryChannel (channelId : Uuid) : Job ℕ := do
  match ← checkRateGate E with
  | some retryAfter => do
    modifyState fun s =>
      { s with
        rateLimitedPending := s.rateLimitedPending.insert channelId retryAfter
        resubscribeRetry := s.resubscribeRetry.erase channelId }
    pure 0
  | none => do
    let s ← readState
    match s.activeFilters.lookup channelId with
    | none => do
      modifyState fun s => { s with resubscribeRetry := s.resubscribeRetry.erase channelId }
      pure 0
    | some filter => do
      if ← sendSubscribe E .replay channelId (s.channelSince channelId) filter then do
        modifyState fun s =>
          { s with
            resubscribeRetry := s.resubscribeRetry.erase channelId
            channelDroppedSince := s.channelDroppedSince.erase channelId }
        pure 1
      else pure 0

/-- Drains channels one after the other and returns how many REQs were sent. -/
def drainEach (drain : Uuid → Job ℕ) : List Uuid → Job ℕ
  | [] => pure 0
  | channelId :: rest => do
    let sent ← drain channelId
    let more ← drainEach drain rest
    pure (sent + more)

def drainRateLimitedPending (budget : ℕ) : Job ℕ := do
  let answer ← ask E
  let s ← readState
  let ready := ((iter answer.order s.rateLimitedPending).filter fun entry =>
    entry.2 ≤ answer.instant).map Prod.fst
  drainEach (drainPendingChannel E) (ready.take budget)

def drainResubscribeRetry (budget : ℕ) : Job ℕ := do
  let answer ← ask E
  let s ← readState
  drainEach (drainRetryChannel E) (((iter answer.order s.resubscribeRetry).map Prod.fst).take budget)

def connect : Input → Option ConnectResult
  | .connection result => some result
  | _ => none

/-- The pause between two attempts of the bounded ladder; none follows the last attempt. -/
def autonomousBackoff (attempt dnsRetryCount : ℕ) : Job ((ℕ × ℕ) ⊕ ReconnectOutcome) := do
  if attempt + 1 < startupConnectAttempts then do
    if ← backoffSleep E then pure (.inl (attempt + 1,dnsRetryCount))
    else pure (.inr .shutdown)
  else pure (.inl (attempt + 1,dnsRetryCount))

/-- What a new socket is used for first: the buffered messages, then the replay. -/
def restore (buffer : List RelayMessage) : Job ResubscribeResult := do
  note .connected
  if ← processHandshakeBuffer E buffer then resubscribeAfterReconnect E true
  else pure .retryConnection

def autonomousRound (progress : ℕ × ℕ) : Job ((ℕ × ℕ) ⊕ ReconnectOutcome) := do
  if progress.1 < startupConnectAttempts then do
    match ← waitFor .connect connect with
    | .connected buffer => do
      match ← restore E buffer with
      | .ok => pure (.inr .ok)
      | .shutdown => pure (.inr .shutdown)
      | .retryConnection => autonomousBackoff E progress.1 progress.2
    | .dnsError =>
      if progress.2 < maxDnsFlatRetries then do
        if ← backoffSleep E then pure (.inl (progress.1,progress.2 + 1))
        else pure (.inr .shutdown)
      else autonomousBackoff E progress.1 progress.2
    | .error => autonomousBackoff E progress.1 progress.2
  else pure (.inr .failed)

def tryAutonomousReconnect : Job ReconnectOutcome := do
  onQueues fun s => s.requeueObserverInFlight
  rounds .cut (autonomousRound E) E.rounds (0,0)

/-- What `recv` yields while the task waits for the order to reconnect. -/
def recvCommand : Input → Option (Option RelayCommand)
  | .command cmd => some cmd
  | _ => none

def awaitReconnectRound : Unit → Job (Unit ⊕ Bool) := fun _ => do
  match ← waitFor .commands recvCommand with
  | some .reconnect => pure (.inr true)
  | some .shutdown => pure (.inr false)
  | none => pure (.inr false)
  | some cmd => do
    note (.took cmd)
    applyCommandToState E cmd
    pure (.inl ())

def awaitReconnect (skipDrain : Bool) : Job Bool :=
  if skipDrain then pure true else rounds .cut (awaitReconnectRound E) E.rounds ()

def ladderBackoff (attempt : ℕ) : Job (ℕ ⊕ ReconnectOutcome) := do
  modifyState fun s => { s with backoffStep := attempt }
  if ← backoffSleep E then pure (.inl (attempt + 1))
  else pure (.inr .shutdown)

def waitRound (attempt : ℕ) : Job (ℕ ⊕ ReconnectOutcome) := do
  match ← waitFor .connect connect with
  | .connected buffer => do
    match ← restore E buffer with
    | .ok => do
      let outcome ← drainPostReconnect E
      pure (.inr outcome)
    | .shutdown => pure (.inr .shutdown)
    | .retryConnection => ladderBackoff E attempt
  | .dnsError => do
    if ← backoffSleep E then pure (.inl attempt)
    else pure (.inr .shutdown)
  | .error => ladderBackoff E attempt

def waitForReconnect (skipDrain : Bool) : Job ReconnectOutcome := do
  onQueues fun s => s.requeueObserverInFlight
  if ← awaitReconnect E skipDrain then do
    let s ← readState
    rounds .cut (waitRound E) E.rounds s.backoffStep
  else pure .shutdown

/-- The callers look at the outcome for a shutdown only. -/
def goesOn : ReconnectOutcome → Bool
  | .shutdown => false
  | _ => true

/-- The recovery that the main loop spells out wherever the connection is lost; `false` when the
task returns. -/
def recover : Job Bool := do
  signalLoss E
  match ← tryAutonomousReconnect E with
  | .ok => do
    let outcome ← drainPostReconnect E
    pure (goesOn outcome)
  | .shutdown => pure false
  | .failed => do
    let outcome ← waitForReconnect E true
    pure (goesOn outcome)

structure Loop where
  pingSent : Bool
  lastPong : ℕ
  connectedSince : ℕ
  stableLogged : Bool
  drainPacingNext : Option ℕ

def Loop.restarted (l : Loop) : Job Loop := do
  let answer ← ask E
  pure { l with
    pingSent := false, lastPong := answer.instant, connectedSince := answer.instant, stableLogged := false }

def recovered (l : Loop) : Job (Loop ⊕ Unit) := do
  if ← recover E then do
    let l ← l.restarted E
    pure (.inl l)
  else pure (.inr ())

def proactiveResubscribe (l : Loop) : Job (Loop ⊕ Unit) := do
  let s ← readState
  if s.proactiveResubscribeNeeded then do
    modifyState fun s => { s with proactiveResubscribeNeeded := false }
    match ← resubscribeAfterReconnect E false with
    | .ok => pure (.inl l)
    | .shutdown => pure (.inr ())
    | .retryConnection => recovered E l
  else pure (.inl l)

/-- What is left of the budget of a drain, and whether it has sent anything. -/
abbrev Budget := ℕ × Bool

def Budget.spend (b : Budget) (sent : ℕ) : Budget := (b.1 - sent,b.2 || 0 < sent)

def drainMembership (b : Budget) : Job Budget := do
  let s ← readState
  if s.membershipResubNeeded && 0 < b.1 then do
    if ← sendMembershipSubscribe E .replay s.membershipSince then do
      modifyState fun s => { s with membershipResubNeeded := false, membershipDroppedSince := none }
      pure (b.spend 1)
    else pure b
  else pure b

def drainObserverControls (b : Budget) : Job Budget := do
  let s ← readState
  if s.observerResubNeeded && 0 < b.1 then do
    if ← sendObserverControlSubscribe E .replay then do
      modifyState fun s => { s with observerResubNeeded := false }
      pure (b.spend 1)
    else pure b
  else pure b

def drainControlSubs (b : Budget) : Job Budget := do
  match ← checkRateGate E with
  | some _ => pure b
  | none => do
    let b ← drainMembership E b
    drainObserverControls E b

def drainWith (b : Budget) (waiting : BgState → Bool) (drain : ℕ → Job ℕ) : Job Budget := do
  let s ← readState
  if 0 < b.1 && waiting s then do
    let sent ← drain b.1
    pure (b.spend sent)
  else pure b

def nextDrain (anySent : Bool) (drainPacingNext : Option ℕ) : Job (Option ℕ) := do
  let s ← readState
  if anySent then do
    let answer ← ask E
    pure (some (answer.instant + reqPacingInterval))
  else if !s.gatedObserverPending.isEmpty then do
    match ← checkRateGate E with
    | some deadline => pure (some deadline)
    | none => do
      let answer ← ask E
      pure (some (answer.instant + reqPacingInterval))
  else pure drainPacingNext

def drainAll (drainPacingNext : Option ℕ) : Job (Option ℕ) := do
  let b ← drainControlSubs E (drainBudgetPerIter,false)
  let b ← drainWith b (fun s => !s.rateLimitedPending.keys.isEmpty) (drainRateLimitedPending E)
  let b ← drainWith b (fun s => !s.resubscribeRetry.keys.isEmpty) (drainResubscribeRetry E)
  let b ← drainWith b (fun s => !s.gatedObserverPending.isEmpty) (drainGatedObserverPending E)
  nextDrain E b.2 drainPacingNext

def drainPending (l : Loop) : Job Loop := do
  let answer ← ask E
  if l.drainPacingNext.all (· ≤ answer.instant) then do
    let next ← drainAll E l.drainPacingNext
    pure { l with drainPacingNext := next }
  else pure l

inductive Wake
  | message (raw : Raw)
  | command (cmd : Option RelayCommand)
  | pingTick
  | pacing

def select (drainPacingNext : Option ℕ) : Input → Option Wake
  | .message raw => some (.message raw)
  | .command cmd => some (.command cmd)
  | .pingTick => some .pingTick
  | .elapsed => if drainPacingNext.isSome then some .pacing else none
  | _ => none

def onMessage (l : Loop) : Raw → Job (Loop ⊕ Unit)
  | .received .pong => do
    let answer ← ask E
    pure (.inl { l with lastPong := answer.instant, pingSent := false })
  | .received msg => do
    if ← handleWsMessage E msg then pure (.inl l)
    else recovered E l
  | .failed => recovered E l
  | .ended => recovered E l

def shutDown : Job (Loop ⊕ Unit) := do
  let _ ← wsSend E .upkeep .closeConnection
  pure (.inr ())

def onReconnectCommand (l : Loop) : Job (Loop ⊕ Unit) := do
  let outcome ← waitForReconnect E true
  if goesOn outcome then do
    let l ← l.restarted E
    pure (.inl l)
  else pure (.inr ())

def onCommand (l : Loop) : Option RelayCommand → Job (Loop ⊕ Unit)
  | none => shutDown E
  | some .shutdown => shutDown E
  | some .reconnect => onReconnectCommand E l
  | some cmd => do
    note (.took cmd)
    if ← executeConnectedCommand E cmd then pure (.inl l)
    else recovered E l

def onPingTick (l : Loop) : Job (Loop ⊕ Unit) := do
  let answer ← ask E
  if l.pingSent && decide (pongTimeout < answer.instant - l.lastPong) then recovered E l
  else if !l.pingSent then do
    if ← wsSend E .upkeep .ping then pure (.inl { l with pingSent := true })
    else recovered E l
  else pure (.inl l)

def onWake (l : Loop) : Wake → Job (Loop ⊕ Unit)
  | .message raw => onMessage E l raw
  | .command cmd => onCommand E l cmd
  | .pingTick => onPingTick E l
  | .pacing => pure (.inl { l with drainPacingNext := none })

/-- A connection that has lasted resets the ladder of pauses. -/
def noteStable (l : Loop) : Job Loop := do
  let answer ← ask E
  if !l.stableLogged && decide (stableConnectionSecs*nanosPerSec < answer.instant - l.connectedSince) then do
    modifyState fun s => { s with backoffStep := 0 }
    pure { l with stableLogged := true }
  else pure l

def mainRound (l : Loop) : Job (Loop ⊕ Unit) := do
  match ← proactiveResubscribe E l with
  | .inr () => pure (.inr ())
  | .inl l => do
    let l ← drainPending E l
    let wake ← waitFor .select (select l.drainPacingNext)
    match ← onWake E l wake with
    | .inr () => pure (.inr ())
    | .inl l => do
      let l ← noteStable E l
      pure (.inl l)

def mainLoop : Job Unit := do
  let answer ← ask E
  rounds .cut (mainRound E) E.rounds ⟨false,answer.instant,answer.instant,false,none⟩

def runBackgroundTask (initialHandshakeBuffer : List RelayMessage) : Job Unit := do
  if ← processHandshakeBuffer E initialHandshakeBuffer then mainLoop E
  else do
    if ← recover E then mainLoop E
    else pure ()

def World.start (inputs : List Input) : World := ⟨.new,[],inputs,0,[]⟩

/-- Where a run of the task stands when the inputs are used up, and whether it waits or has
returned. -/
def run (buffer : List RelayMessage) (inputs : List Input) : World × Except Site Unit :=
  runBackgroundTask E buffer (.start inputs)

end BuzzSolo.AcpRelay
