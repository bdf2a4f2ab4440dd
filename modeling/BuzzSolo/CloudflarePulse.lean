import BuzzSolo.CloudflareDeclarations

/-! The Durable Object around the ingest tables: live delivery to its sockets, the rounds of
pulse responses, and the signed pulse that follows every stored event. An exception leaves
what was committed before it. -/
namespace BuzzSolo.CloudflareNode

open HexText
open Handoff (Json field)

structure EventTemplate where
  kind : ℕ
  createdAt : ℕ
  tags : List (List String)
  content : String

/-- The language and the libraries: JSON, safe integers, and nostr-tools. A secret that is
not a valid scalar makes signing throw. -/
structure JsCrates where
  parseJson : String → Option Json
  stringify : Json → String
  /-- The value of a number text when `Number.isSafeInteger` holds of it. -/
  safeInteger : String → Option ℤ
  verifySafely : JsEvent → Bool
  validSecret : FixedBytes 32 → Bool
  publicKey : FixedBytes 32 → String
  sign : FixedBytes 32 → EventTemplate → JsEvent
  matchFilters : List Json → JsEvent → Bool

structure Env where
  nodeSecret : Option String
  ownerPubkey : Option String
  nodeLabel : Option String
  requireAuth : Option String
  replicationPeers : Option String
  replicationReaders : Option String
  replicationStreams : Option String

structure BeaconRoundRow where
  pulseId : String
  head : String
  createdAt : ℕ

structure BeaconResponseRow where
  pulseId : String
  responderPubkey : String
  stance : String
  createdAt : ℕ

/-- A row of `subscriptions`, with the filters its text is the JSON of. -/
structure SubscriptionRow where
  connectionId : String
  subscriptionId : String
  filters : List Json

/-- The tables of the object. `connections` gives the principal of a connection. -/
structure Durable where
  node : Node
  stableNodeKey : Option String
  witnessedHead : Option String
  witnessedPrev : Option String
  sourceCheckpoints : List (String × String)
  beaconRounds : List BeaconRoundRow
  beaconResponses : List BeaconResponseRow
  connections : List (String × Option String)
  subscriptions : List SubscriptionRow

/-- A socket: the connection id it carries, and whether a frame for a subscription can be
sent. -/
structure Socket where
  connectionId : Option String
  sends : String → JsEvent → Bool

structure Instant where
  now : ℕ
  sockets : List Socket

inductive Thrown
  | malformedDeclaration (error : MalformedDeclarationError)
  | sqlite (message : String)
  | invalidSecret
  deriving DecidableEq

def kindBeaconPulse : ℕ := 20700
def defaultRecognitionWindowSecs : ℕ := 300
def pulseRoleRendezvous : String := "rendezvous"
def adapterId : String := "portable-relay-cloudflare-v0.1"
def beaconStances : List String := ["recognize","advanced","conflict","diverged","unsatisfied"]

section

variable (J : JsCrates) (E : Env) (t : Instant)

def authRequired : Bool := E.requireAuth = some "1" || E.requireAuth = some "true" || E.requireAuth =
    some "yes"

/-- Effective events that may carry declarations; the consumers check kind and author. -/
def declarationHeadEvents (node : Node) : List JsEvent :=
  (effectiveEvents node).filter fun event => event.kind = kindSyncDeclaration

def ownerDeclarations (node : Node) : Except MalformedDeclarationError DeclarationConfig :=
  if E.ownerPubkey.getD "" = "" ∨ E.nodeLabel.getD "" = "" then .ok .unclaimed
  else evaluateDeclarations J.parseJson (E.ownerPubkey.getD "") (E.nodeLabel.getD "")
    (declarationHeadEvents node)

def trustEntry (trust : Properties ReplicationPeerTrust) (candidate : String × Json) :
    Properties ReplicationPeerTrust :=
  match candidate.2.asObject with
  | none => trust
  | some entry =>
    match field entry "principal", field entry "verification_keys" with
    | some (.string principal), some (.array keys) =>
      assign candidate.1 ⟨principal,keys.filterMap Json.asStr⟩ trust
    | _, _ => trust

def parsePeerTrust (raw : Option String) : Properties ReplicationPeerTrust :=
  match (raw.bind J.parseJson).bind Json.asObject with
  | none => []
  | some entries => entries.foldl trustEntry []

def resolvedPeers (node : Node) : Except MalformedDeclarationError (Properties ReplicationPeerTrust) :=
  (ownerDeclarations J E node).map fun config =>
    config.peers.getD (parsePeerTrust J E.replicationPeers)

def resolvedReaders (node : Node) : Except MalformedDeclarationError (Properties ReplicationPeerTrust) :=
  (ownerDeclarations J E node).map fun config =>
    config.readers.getD (parsePeerTrust J E.replicationReaders)

def hasKey (reader : String) (trust : Properties ReplicationPeerTrust) : Bool :=
  trust.any fun entry => entry.2.verificationKeys.contains reader

def pulseVisibleTo (node : Node) (reader : Option String) : Except MalformedDeclarationError Bool :=
  if !authRequired E then .ok true
  else match reader with
    | none => .ok false
    | some reader =>
      if E.ownerPubkey.getD "" ≠ "" ∧ reader = E.ownerPubkey.getD "" then .ok true
      else do
        let peers ← resolvedPeers J E node
        if hasKey reader peers then .ok true
        else
          let readers ← resolvedReaders J E node
          .ok (hasKey reader readers)

def authorOnlyKinds : List ℕ := [30300,30350]
def pGatedKinds : List ℕ := [24200,44100,44101,1059,30622,44200]

def eventVisibleToReader (reader : String) (event : JsEvent) : Bool :=
  !(authorOnlyKinds.contains event.kind && event.pubkey ≠ reader) &&
    !(pGatedKinds.contains event.kind && !(pTagValues event).contains reader)

def principalOf (connections : List (String × Option String)) (connectionId : String) : Option String :=
  ((connections.find? fun row => row.1 = connectionId).map Prod.snd).join

def liveVisible (d : Durable) (event : JsEvent) (connectionId : String) :
    Except MalformedDeclarationError Bool :=
  if !authRequired E then .ok true
  else
    let reader := principalOf d.connections connectionId
    if event.kind = kindBeaconPulse ∨ event.kind = kindBeaconResponse then
      pulseVisibleTo J E d.node reader
    else .ok (match reader with
      | none => false
      | some reader => eventVisibleToReader reader event)

def deliver (socket : Socket) (event : JsEvent) (connectionId : String)
    (subscriptions : List SubscriptionRow) : List SubscriptionRow :=
  if (subscriptions.filter fun row => row.connectionId = connectionId).any fun row =>
      J.matchFilters row.filters event && !socket.sends row.subscriptionId event then
    subscriptions.filter fun row => row.connectionId ≠ connectionId
  else subscriptions

def publishLive (event : JsEvent) (d : Durable) :
    List Socket → Durable × Except MalformedDeclarationError Unit
  | [] => (d,.ok ())
  | socket :: sockets =>
    match socket.connectionId with
    | none => publishLive event d sockets
    | some connectionId =>
      match liveVisible J E d event connectionId with
      | .error e => (d,.error e)
      | .ok false => publishLive event d sockets
      | .ok true =>
        publishLive event
          { d with subscriptions := deliver J socket event connectionId d.subscriptions } sockets

def witnessSecretFromEnv : Option (FixedBytes 32) := E.nodeSecret.bind (FixedBytes.fromHex 32)

def witnessPubkeyFromEnv : Option String :=
  (witnessSecretFromEnv E).bind fun secret =>
    if J.validSecret secret then some (J.publicKey secret) else none

def finalizeEvent (secret : FixedBytes 32) (template : EventTemplate) : Except Thrown JsEvent :=
  if J.validSecret secret then .ok (J.sign secret template) else .error .invalidSecret

def agreements (node : Node) : Properties String :=
  if E.ownerPubkey.getD "" = "" ∨ E.nodeLabel.getD "" = "" then []
  else (declarationHeadEvents node).foldl (fun record event =>
    match governingTag (E.ownerPubkey.getD "") (E.nodeLabel.getD "") event with
    | none => record
    | some dTag => assign dTag event.id record) []

def pulseSessions (d : Durable) : Option (List String) :=
  if authRequired E then
    some (t.sockets.filterMap fun socket => socket.connectionId.bind (principalOf d.connections))
  else none

def pulseRecognition (d : Durable) (head : Option String) : Option Json := do
  let head ← head
  let round ← d.beaconRounds.reverse.find? fun round =>
    round.head = head && t.now - defaultRecognitionWindowSecs ≤ round.createdAt &&
      d.beaconResponses.any fun response => response.pulseId = round.pulseId
  some (.object [("head",.string head),("pulse",.string round.pulseId),
    ("responses",.object (((d.beaconResponses.filter fun r => r.pulseId = round.pulseId).mergeSort
      fun a b => a.responderPubkey ≤ b.responderPubkey).map
        fun r => (r.responderPubkey,.string r.stance))),
          ("window_secs",.number defaultRecognitionWindowSecs.repr)])

def textOrNull : Option String → Json
  | some text => .string text
  | none => .null

def governanceText {α : Type} : Option α → Json
  | none => .string "bootstrap"
  | some _ => .string "journal"

def journalHead (node : Node) : Option Row := node.eventJournal.getLast?

def previousHead (d : Durable) : Option String :=
  if (journalHead d.node).map Row.eventId = d.witnessedHead then d.witnessedPrev else d.witnessedHead

def pulseContent (d : Durable) (config : DeclarationConfig) : Json :=
  let head := (journalHead d.node).map Row.eventId
  .object [("node",.string (d.stableNodeKey.getD "")),("label",.string (E.nodeLabel.getD "")),
    ("adapter",.string adapterId),
    ("journal",.object [("sequence",.number (((journalHead d.node).map Row.sequence).getD 0).repr),
      ("head",textOrNull head)]), ("previous",textOrNull (previousHead d)),
    ("checkpoints",.object (((d.sourceCheckpoints.mergeSort fun a b => a.1 ≤ b.1).foldl
      (fun record row => assign row.1 row.2 record) []).map fun row => (row.1,.string row.2))),
    ("agreements",.object ((agreements E d.node).map fun entry => (entry.1,.string entry.2))),
    ("coherence",.object ([("governance",.object [("peers",governanceText config.peers),
      ("readers",governanceText config.readers),("streams",governanceText config.streams)])] ++
      (match pulseSessions E t d with
        | none => []
        | some principals => [("sessions",.object [("count",.number principals.length.repr),
          ("principals",.array (principals.dedup.mergeSort.map .string))])]) ++
            (match pulseRecognition t d head with
        | none => []
        | some recognition => [("recognition",recognition)])))]

def pulseTemplate (d : Durable) (config : DeclarationConfig) : EventTemplate where
  kind := kindBeaconPulse
  createdAt := t.now
  tags := (if E.nodeLabel.getD "" = "" then [] else [["n",E.nodeLabel.getD ""]]) ++
    [["role",pulseRoleRendezvous]]
  content := J.stringify (pulseContent E t d config)

def currentPulse (d : Durable) : Except Thrown (Option (JsEvent × Option String)) :=
  match witnessSecretFromEnv E with
  | none => .ok none
  | some secret =>
    match ownerDeclarations J E d.node with
    | .error e => .error (.malformedDeclaration e)
    | .ok config =>
      (finalizeEvent J secret (pulseTemplate J E t d config)).map fun event =>
        some (event,(journalHead d.node).map Row.eventId)

def registerPulse (d : Durable) (event : JsEvent) (head : Option String) : Durable :=
  let cutoff := t.now - defaultRecognitionWindowSecs
  let expired := (d.beaconRounds.filter fun r => r.createdAt < cutoff).map BeaconRoundRow.pulseId
  let rounds := d.beaconRounds.filter fun r => cutoff ≤ r.createdAt
  { d with
    beaconResponses := d.beaconResponses.filter fun r => !expired.contains r.pulseId
    beaconRounds := match head with
      | none => rounds
      | some head =>
        if rounds.any fun r => r.pulseId = event.id then rounds
        else rounds ++ [⟨event.id,head,event.createdAt⟩] }

/-- The witnessed chain moves to the head of an emitted pulse. -/
def advanceWitness (d : Durable) (head : Option String) : Durable :=
  if head = none ∨ head = d.witnessedHead then d
  else { d with witnessedPrev := d.witnessedHead.or d.witnessedPrev, witnessedHead := head }

def emitPulse (d : Durable) : Durable × Except Thrown Unit :=
  match currentPulse J E t d with
  | .error e => (d,.error e)
  | .ok none => (d,.ok ())
  | .ok (some (event,head)) =>
    let registered := registerPulse t d event head
    match publishLive J E event registered t.sockets with
    | (published,.error e) => (published,.error (.malformedDeclaration e))
    | (published,.ok ()) => (advanceWitness published head,.ok ())

def isRecord : Option Json → Option (Properties Json)
  | some (.object fields) => some fields
  | _ => none

def isCount : Option Json → Bool
  | some (.number text) => ((J.safeInteger text).filter fun n => 0 ≤ n).isSome
  | _ => false

def isText : Option Json → Bool
  | some (.string text) => text ≠ ""
  | _ => false

def validObserved (stance : String) (observed : Properties Json) : Bool :=
  match stance with
  | "recognize" => true
  | "advanced" => isCount J (field observed "since")
  | "conflict" => isText (field observed "claim") && isText (field observed "mine")
  | "diverged" =>
    ((field observed "measure").bind Json.asStr = some "head-unknown" ||
      (field observed "measure").bind Json.asStr = some "agreements") && isText (field observed "detail")
  | "unsatisfied" => isText (field observed "agreement") && isText (field observed "reason")
  | _ => false

def validHead : Option Json → Bool
  | some .null => true
  | some (.string head) => isShaText head
  | _ => false

/-- The stance of a well-formed answer to the round. -/
def parseBeaconResponse (round : BeaconRoundRow) (witness : String) (event : JsEvent) : Option String := do
  let window := round.createdAt + defaultRecognitionWindowSecs
  if event.kind ≠ kindBeaconResponse ∨
    !(event.tags.any fun tag => tag.head? = some "e" && tag[1]? = some round.pulseId) ∨
    !(event.tags.any fun tag => tag.head? = some "p" && tag[1]? = some witness) ∨
    event.createdAt < round.createdAt ∨ window < event.createdAt ∨ window < t.now then none
  else
    let content ← isRecord (J.parseJson event.content)
    let stance ← (field content "stance").bind Json.asStr
    let mine ← isRecord (field content "mine")
    let observed ← isRecord (field content "observed")
    if (field content "head").bind Json.asStr ≠ some round.head ∨ stance ∉ beaconStances ∨
      !isCount J (field mine "sequence") ∨ !validHead (field mine "head") ∨
        !validObserved J stance observed then none
    else some stance

def upsertResponse (row : BeaconResponseRow) (rows : List BeaconResponseRow) : List BeaconResponseRow :=
  if rows.any fun r => r.pulseId = row.pulseId && r.responderPubkey = row.responderPubkey then
    rows.map fun r =>
      if r.pulseId = row.pulseId ∧ r.responderPubkey = row.responderPubkey then row else r
  else rows ++ [row]

def recordBeaconResponse (d : Durable) (event : JsEvent) : Option Durable := do
  let witness ← witnessPubkeyFromEnv J E
  let pulseId ← tagValue event "e"
  let round ← d.beaconRounds.find? fun round => round.pulseId = pulseId
  let stance ← parseBeaconResponse J t round witness event
  some { d with
    beaconResponses := upsertResponse ⟨pulseId,event.pubkey,stance,event.createdAt⟩ d.beaconResponses }

def mayRespond (d : Durable) (principal : Option String) : Except MalformedDeclarationError Bool :=
  if authRequired E then
    match principal with
    | none => .ok false
    | some principal => pulseVisibleTo J E d.node (some principal)
  else .ok true

def publishThen (d : Durable) (event : JsEvent) (result : WriteResult) :
    Durable × Except Thrown WriteResult :=
  match publishLive J E event d t.sockets with
  | (published,.error e) => (published,.error (.malformedDeclaration e))
  | (published,.ok ()) => (published,.ok result)

/-- A beacon response, after its signature and novelty. -/
def applyResponse (d : Durable) (event : JsEvent) (principal : Option String) :
    Durable × Except Thrown WriteResult :=
  match mayRespond J E d principal with
  | .error e => (d,.error (.malformedDeclaration e))
  | .ok false => (d,.ok ⟨event.id,false,.invalid⟩)
  | .ok true =>
    match recordBeaconResponse J E t d event with
    | none => (d,.ok ⟨event.id,false,.invalid⟩)
    | some recorded => publishThen J E t recorded event ⟨event.id,true,.ephemeral⟩

def afterStore (d : Durable) (event : JsEvent) : Durable × Except Thrown WriteResult :=
  match publishLive J E event d t.sockets with
  | (published,.error e) => (published,.error (.malformedDeclaration e))
  | (published,.ok ()) =>
    match emitPulse J E t published with
    | (emitted,.error e) => (emitted,.error e)
    | (emitted,.ok ()) => (emitted,.ok ⟨event.id,true,.stored⟩)

def Durable.applyEvent (d : Durable) (event : JsEvent) (ingestSource principal : Option String) :
    Durable × Except Thrown WriteResult :=
  if !J.verifySafely event then (d,.ok ⟨event.id,false,.invalid⟩)
  else if d.node.acceptedEventIds.any fun row => row.1 = event.id then
    (d,.ok ⟨event.id,true,.duplicate⟩)
  else if event.kind = kindBeaconResponse then applyResponse J E t d event principal
  else if isEphemeralKind event.kind then publishThen J E t d event ⟨event.id,true,.ephemeral⟩
  else if loses d.node event then
    match insertAccepted event.id .superseded d.node.acceptedEventIds with
    | .error e => (d,.error (.sqlite e))
    | .ok accepted =>
      ({ d with node := { d.node with acceptedEventIds := accepted } }, .ok ⟨event.id,true,.superseded⟩)
  else
    match storeEvent d.node event (replacementKey event) ingestSource with
    | .error e => (d,.error (.sqlite e))
    | .ok stored => afterStore J E t { d with node := stored } event

end

end BuzzSolo.CloudflareNode
