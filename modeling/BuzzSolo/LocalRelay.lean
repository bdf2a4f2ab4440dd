import BuzzSolo.Handoff
import BuzzSolo.Query

/-! The laptop relay around its store: a submission is checked, accepted, published to the live
stream, followed by the discovery events of a group creation, and witnessed by a signed pulse.
Responses to a pulse are collected in rounds. -/
namespace BuzzSolo.LocalRelay

open Checks HexText LineText Ingest EventStore
open Handoff (Json field)
open Query (Principal kindBeaconPulse)

structure Crates extends EventStore.Crates where
  /-- `serde_json::from_str` at the value type. -/
  parseJson : String → Option Json
  /-- `Value::to_string`. -/
  jsonText : Json → String
  /-- The text of the error `Uuid::parse_str` gives. -/
  uuidError : String → String
  /-- The `Debug` text of a string. -/
  debugText : String → String

def kindBeaconResponse : ℕ := 20701
def kindSyncDeclaration : ℕ := 30700
def kindNip29CreateGroup : ℕ := 9007
def kindNip29GroupMetadata : ℕ := 39000
def kindNip29GroupAdmins : ℕ := 39001
def kindNip29GroupMembers : ℕ := 39002

def pulseAdapterId : String := "portable-relay-laptop-v0.1"
def pulseRoleSovereign : String := "sovereign"
def defaultRecognitionWindowSecs : ℕ := 300
def beaconStances : List String := ["recognize","advanced","conflict","diverged","unsatisfied"]

def saturatingAdd (a b : ℕ) : ℕ := min (a+b) (2^64-1)

def eventTagValue (event : Event) (name : String) : Option String :=
  (event.tagsNamed name).findSome? Tag.content

structure EventBuilder where
  kind : ℕ
  content : String
  tags : List Tag
  /-- Set by `custom_created_at`; otherwise the time of signing is used. -/
  createdAt : Option ℕ

/-- What one submission meets outside the relay: the clock, the signer behind the relay key,
the disk and the sessions that are connected. -/
structure Moment where
  now : ℕ
  sign : EventBuilder → Except String Event
  append : Event → AppendOutcome
  sessions : ℕ × List String
  /-- The signer signs an event of the kind it is given. -/
  sign_kind : ∀ builder event, sign builder = .ok event → event.kind = builder.kind

/-- A map with ordered keys, as the sorted list of its entries. -/
def mapInsert {α : Type} (key : String) (value : α) : List (String × α) → List (String × α)
  | [] => [(key,value)]
  | (k,v) :: rest =>
    if key < k then (key,value) :: (k,v) :: rest
    else if key = k then (key,value) :: rest
    else (k,v) :: mapInsert key value rest

structure BeaconRound where
  pulseId : String
  head : String
  createdAt : ℕ
  responses : List (String × String)

/-- What does not change while the relay runs. `identity` holds the admitted verification
keys when there is an identity adapter; `governance` is the owner and the node label;
`relayKeys` is the public part of the relay key. -/
structure Relay where
  identity : Option (List PublicKey)
  governance : Option (PublicKey × String)
  relayKeys : Option PublicKey

structure State where
  store : Store
  beaconRounds : List BeaconRound

structure CurrentPulse where
  event : Event
  head : Option String

/-- What a pulse states about the store, read under its lock. -/
structure Snapshot where
  sequence : ℕ
  head : Option String
  previous : Option String
  agreements : List (String × Json)
  admitClaimed : Bool

def startsWith (text start : String) : Bool := start.toList.isPrefixOf text.toList

/-- One effective event in the loop that collects the agreement heads. -/
def collectAgreement (owner : PublicKey) (nodeLabel : String)
    (acc : List (String × Json) × Bool) (stored : StoredEvent) : List (String × Json) × Bool :=
  if stored.event.kind ≠ kindSyncDeclaration ∨ stored.event.pubkey ≠ owner then acc
  else match eventTagValue stored.event "d" with
    | none => acc
    | some d =>
      if eventTagValue stored.event "n" ≠ some nodeLabel then acc
      else (mapInsert d (.string stored.event.id.toHex) acc.1,acc.2 || startsWith d "admit/")

def takeSnapshot (R : Relay) (s : Store) : Snapshot :=
  let agreements := match R.governance with
    | none => ([],false)
    | some (owner,nodeLabel) => s.events.foldl (collectAgreement owner nodeLabel) ([],false)
  { sequence := s.journal.length
    head := s.journal.getLast?.map fun event => event.id.toHex
    previous :=
      if 2 ≤ s.journal.length then (s.journal[s.journal.length-2]?).map fun event => event.id.toHex
      else none
    agreements := agreements.1
    admitClaimed := agreements.2 }

def textOrNull : Option String → Json
  | some text => .string text
  | none => .null

def pulseRecognition (now : ℕ) (rounds : List BeaconRound) (head : Option String) : Option Json := do
  let head ← head
  let round ← rounds.reverse.find? fun round =>
    round.head = head && now ≤ saturatingAdd round.createdAt defaultRecognitionWindowSecs &&
      !round.responses.isEmpty
  some (.object [("head",.string round.head),("pulse",.string round.pulseId),
    ("responses",.object (round.responses.map fun r => (r.1,.string r.2))),
    ("window_secs",.number defaultRecognitionWindowSecs.repr)])

def nodeLabel (R : Relay) : String := (R.governance.map Prod.snd).getD ""

def pulseCoherence (R : Relay) (m : Moment) (rounds : List BeaconRound) (snap : Snapshot) : Json :=
  .object
    ([("governance",.object [("peers",.string (if snap.admitClaimed then "journal" else "bootstrap"))])] ++
    (if R.identity.isSome then
      [("sessions",.object [("count",.number m.sessions.1.repr),
        ("principals",.array (m.sessions.2.map .string))])] else []) ++
    (match pulseRecognition m.now rounds snap.head with
      | some recognition => [("recognition",recognition)]
      | none => []))

def pulseContent (R : Relay) (m : Moment) (rounds : List BeaconRound) (snap : Snapshot) : Json :=
  .object [("node",.string (nodeLabel R)),("label",.string (nodeLabel R)), ("adapter",.string pulseAdapterId),
    ("journal",.object [("sequence",.number snap.sequence.repr),("head",textOrNull snap.head)]),
    ("previous",textOrNull snap.previous),("checkpoints",.object []),
    ("agreements",.object snap.agreements),("coherence",pulseCoherence R m rounds snap)]

variable (X : Crates)

def pulseBuilder (R : Relay) (m : Moment) (rounds : List BeaconRound) (snap : Snapshot) : EventBuilder where
  kind := kindBeaconPulse
  content := X.jsonText (pulseContent R m rounds snap)
  tags := (if nodeLabel R = "" then [] else [⟨"n",[nodeLabel R]⟩]) ++ [⟨"role",[pulseRoleSovereign]⟩]
  createdAt := none

/-- The pulse for a snapshot that has been taken; the rounds are read afterwards. -/
def signPulse (R : Relay) (m : Moment) (rounds : List BeaconRound) (snap : Snapshot) : Option CurrentPulse :=
  match m.sign (pulseBuilder X R m rounds snap) with
  | .ok event => some ⟨event,snap.head⟩
  | .error _ => none

def currentPulse (R : Relay) (m : Moment) (s : State) : Option CurrentPulse :=
  if R.relayKeys.isSome then signPulse X R m s.beaconRounds (takeSnapshot R s.store) else none

def registerPulse (rounds : List BeaconRound) (pulse : CurrentPulse) : List BeaconRound :=
  let kept := rounds.filter fun round =>
    pulse.event.createdAt - defaultRecognitionWindowSecs ≤ round.createdAt
  match pulse.head with
  | none => kept
  | some head => kept ++ [⟨pulse.event.id.toHex,head,pulse.event.createdAt,[]⟩]

def reads (R : Relay) (m : Moment) (rounds : List BeaconRound) : Query.Relay where
  identity := R.identity
  governanceOwner := R.governance.map Prod.fst
  currentPulse s := (currentPulse X R m ⟨s,rounds⟩).map CurrentPulse.event
  currentPulse_kind := by
    intro s pulse h
    unfold currentPulse signPulse at h
    split at h
    · split at h
      next event hsign =>
        cases h
        exact m.sign_kind _ _ hsign
      · simp at h
    · simp at h

def isLowerHexEventId (value : String) : Bool := value.toList.length = 64 && value.toList.all isLowerHexChar

/-- `Value::as_u64`: the parser keeps the text of a number. -/
def asU64 : Json → Option ℕ
  | .number text => DecimalText.parseUnsigned (2^64) text.toList
  | _ => none

/-- `Value::as_i64`: the parser keeps the text of a number. -/
def asI64 : Json → Option ℤ
  | .number text =>
    match text.toList with
    | '-' :: digits =>
      ((DecimalText.parseUnsigned (2^63+1) digits).filter (0 < ·)).map fun n => -(n : ℤ)
    | digits => (DecimalText.parseUnsigned (2^63) digits).map fun n => (n : ℤ)
  | _ => none

def hasText (observed : List (String × Json)) (name : String) : Bool :=
  (((field observed name).bind Json.asStr).filter fun value => !value.isEmpty).isSome

def validBeaconObserved (stance : String) (observed : List (String × Json)) : Bool :=
  match stance with
  | "recognize" => true
  | "advanced" => ((field observed "since").bind asU64).isSome
  | "conflict" => hasText observed "claim" && hasText observed "mine"
  | "diverged" =>
    ((field observed "measure").bind Json.asStr = some "head-unknown" ||
      (field observed "measure").bind Json.asStr = some "agreements") && hasText observed "detail"
  | "unsatisfied" => hasText observed "agreement" && hasText observed "reason"
  | _ => false

def validHead : Json → Bool
  | .null => true
  | .string value => isLowerHexEventId value
  | _ => false

/-- The stance a response to the round takes, if it passes every check. -/
def responseStance (witness : PublicKey) (now : ℕ) (round : BeaconRound)
    (event : Event) : Option String := do
  let window := saturatingAdd round.createdAt defaultRecognitionWindowSecs
  if event.createdAt < round.createdAt ∨ window < event.createdAt ∨ window < now ∨
    eventTagValue event "p" ≠ some witness.toHex then none
  else
    let content ← (X.parseJson event.content).bind Json.asObject
    let stance ← (field content "stance").bind Json.asStr
    if stance ∉ beaconStances ∨ (field content "head").bind Json.asStr ≠ some round.head then none
    else
      let mine ← (field content "mine").bind Json.asObject
      let sequence := (field mine "sequence").bind asU64
      let observed := (field content "observed").bind Json.asObject
      if sequence.isNone || !(field mine "head").any validHead || !observed.any
        (validBeaconObserved stance) then none
      else some stance

/-- The rounds with the response entered, or nothing when it is refused. -/
def recordBeaconResponse (R : Relay) (now : ℕ) (rounds : List BeaconRound)
    (event : Event) : Option (List BeaconRound) := do
  let witness ← R.relayKeys
  let pulseId ← eventTagValue event "e"
  let index ← rounds.findIdx? fun round => round.pulseId = pulseId
  let round ← rounds[index]?
  let stance ← responseStance X witness now round event
  some (rounds.set index { round with responses := mapInsert event.pubkey.toHex stance round.responses })

inductive Nip29ProjectionError
  | invalidCommand (reason : String)
  | signing (reason : String)

def requiredTag (event : Event) (name : String) : Except Nip29ProjectionError String :=
  okOr (eventTagValue event name) (.invalidCommand ("missing required " ++ name ++ " tag"))

def optionalTag (event : Event) (name : String) : List Tag :=
  match (eventTagValue event name).filter fun value => !value.isEmpty with
  | some value => [⟨name,[value]⟩]
  | none => []

def signProjection (m : Moment) (event : Event) (part : ℕ × List Tag) : Except Nip29ProjectionError Event :=
  (m.sign ⟨part.1,"",part.2,some event.createdAt⟩).mapError .signing

def projectGroupCreate (R : Relay) (m : Moment) (event : Event) : Except Nip29ProjectionError (List Event) :=
  if R.relayKeys.isNone then .ok [] else do
  let groupId ← requiredTag event "h"
  require (X.parseUuid groupId ≠ none) (.invalidCommand ("invalid h tag UUID: " ++ X.uuidError groupId))
  let name ← requiredTag event "name"
  require (isBlank name = false) (.invalidCommand "name tag cannot be empty")
  let visibility := (eventTagValue event "visibility").getD "open"
  require (visibility = "open" ∨ visibility = "private")
    (.invalidCommand ("unsupported visibility " ++ X.debugText visibility))
  let channelType := (eventTagValue event "channel_type").getD "stream"
  require (channelType = "stream" ∨ channelType = "forum" ∨ channelType = "dm")
    (.invalidCommand ("unsupported channel_type " ++ X.debugText channelType))
  let metadata := [⟨"d",[groupId]⟩,⟨"name",[name]⟩] ++ optionalTag event "about" ++
    [⟨if visibility = "private" then "private" else "public",[]⟩,⟨"closed",[]⟩,⟨"t",[channelType]⟩] ++
    optionalTag event "ttl"
  let creator := event.pubkey.toHex
  collect (signProjection m event)
    [(kindNip29GroupMetadata,metadata), (kindNip29GroupAdmins,[⟨"d",[groupId]⟩,⟨"p",[creator,"owner"]⟩]),
      (kindNip29GroupMembers,[⟨"d",[groupId]⟩,⟨"p",[creator,"","owner"]⟩])]

/-- The errors of a submission: those of the store, and discovery events that cannot be
signed. -/
inductive SubmitError
  | store (error : StoreError)
  | materialization (reason : String)
  deriving DecidableEq

structure Answer where
  result : Except SubmitError WriteResult
  live : List Event
  deriving DecidableEq

def publishProjectedEvents (X : Crates) (m : Moment) (s : Store) :
    List Event → Store × Except StoreError Unit × List Event
  | [] => (s,.ok (),[])
  | event :: rest =>
    match accept X.toCrates (m.append event) s event with
    | (s,.error e) => (s,.error e,[])
    | (s,.ok result) =>
      match publishProjectedEvents X m s rest with
      | (s,outcome,live) => (s,outcome,(if result.publishLive then [event] else []) ++ live)

def witness (R : Relay) (m : Moment) (s : State) : State × List Event :=
  match currentPulse X R m s with
  | none => (s,[])
  | some pulse => ({ s with beaconRounds := registerPulse s.beaconRounds pulse },[pulse.event])

def publish (R : Relay) (m : Moment) (s : State) (event : Event)
    (result : WriteResult) (projected : List Event) : State × Answer :=
  if result.publishLive then
    match publishProjectedEvents X m s.store projected with
    | (store,.error e,live) => ({ s with store := store },⟨.error (.store e),event :: live⟩)
    | (store,.ok (),live) =>
      if result.message = "stored" then
        let witnessed := witness X R m { s with store := store }
        (witnessed.1,⟨.ok result,event :: live ++ witnessed.2⟩)
      else ({ s with store := store },⟨.ok result,event :: live⟩)
  else (s,⟨.ok result,[]⟩)

def rejected (event : Event) (message : String) : Answer := ⟨.ok (.ofRejected event message),[]⟩

def lacksStanding : String := "invalid: responder lacks Beacon standing"
def answersNoPulse : String := "invalid: response does not answer the active Beacon pulse"

def hasStanding (R : Relay) (m : Moment) (s : State) (principal : Option Principal) : Bool :=
  R.identity.isNone || Query.pulseVisibleTo (reads X R m s.beaconRounds) principal

def projectedEvents (R : Relay) (m : Moment) (event : Event) : Except Nip29ProjectionError (List Event) :=
  if event.kind = kindNip29CreateGroup then projectGroupCreate X R m event else .ok []

def conclude (R : Relay) (m : Moment) (s : State) (event : Event)
    (projected : List Event) : Store × Except StoreError WriteResult → State × Answer
  | (store,.error e) => ({ s with store := store },⟨.error (.store e),[]⟩)
  | (store,.ok result) =>
    if event.kind = kindBeaconResponse ∧ result.accepted = true ∧ result.message = "ephemeral" then
      match recordBeaconResponse X R m.now s.beaconRounds event with
      | none => ({ s with store := store },rejected event answersNoPulse)
      | some rounds => publish X R m ⟨store,rounds⟩ event result projected
    else publish X R m { s with store := store } event result projected

def submitFrom (R : Relay) (m : Moment) (s : State) (event : Event)
    (principal : Option Principal) : State × Answer :=
  if event.kind = kindBeaconResponse ∧ hasStanding X R m s principal = false then
    (s,rejected event lacksStanding)
  else match projectedEvents X R m event with
    | .error (.invalidCommand reason) => (s,rejected event reason)
    | .error (.signing reason) => (s,⟨.error (.materialization reason),[]⟩)
    | .ok projected =>
      conclude X R m s event projected (accept X.toCrates (m.append event) s.store event)

end BuzzSolo.LocalRelay
