import BuzzSolo.Checks
import BuzzSolo.ProofLedger
import BuzzSolo.ReplayWindow
import BuzzSolo.Query

/-! Authentication on the laptop: the checks of a signed challenge response and of a signed HTTP
request, and the adapter that consumes the proof. JSON, URLs and the hash of a body belong to crates
outside the repository. -/
namespace BuzzSolo.Authentication

open Checks HexText LineText ProofLedger ReplayWindow
open Query (Principal)

/-- The url crate: parsing, and the parts that normalization reads and sets. -/
structure UrlCrate where
  Url : Type
  parse : String → Option Url
  hostStr : Url → Option String
  setHost : Url → String → Url
  path : Url → String
  setPath : Url → String → Url
  text : Url → String

structure Crates extends Nostr where
  url : UrlCrate
  /-- `serde_json::from_str` at the event type. -/
  fromStr : String → Except String Event
  sha256 : List Byte → FixedBytes 32
  /-- `str::to_lowercase`, over all of Unicode. -/
  toLowercase : String → String

inductive AuthError
  | invalidSignature | challengeMismatch | relayUrlMismatch | eventExpired
  | nip98Invalid (message : String)
  | nip98Replay | pubkeyMismatch

def kindAuthentication : ℕ := 22242
def kindHttpAuth : ℕ := 27235
def timestampToleranceSecs : ℕ := 60

def trimEndSlashes (path : String) : String := String.ofList (path.toList.rdropWhile (· = '/'))

def stripPath (U : UrlCrate) (url : U.Url) : String := U.text (U.setPath url (trimEndSlashes (U.path url)))

def normalizeRelayUrl (U : UrlCrate) (raw : String) : String :=
  match U.parse raw with
  | none => raw
  | some parsed =>
    if U.hostStr parsed = some "localhost" ∨ U.hostStr parsed = some "::1" then
      stripPath U (U.setHost parsed "127.0.0.1")
    else stripPath U parsed

variable (X : Crates)

/-- No host is an alias of another here. -/
def normalizeUrl (raw : String) : String :=
  match X.url.parse raw with
  | none => X.toLowercase raw
  | some parsed => stripPath X.url parsed

def findTag (event : Event) (name : String) : Option Tag := (event.tagsNamed name).head?

def tagContent (event : Event) (name : String) : Option String := (findTag event name).bind Tag.content

def absDiff (a b : ℕ) : ℕ := if a ≤ b then b-a else a-b

def eqIgnoreAsciiCase (a b : String) : Bool := a.toList.map Char.toLower = b.toList.map Char.toLower

def verifyNip42EventAt (event : Event) (expectedChallenge relayUrl : String) (now : ℕ) :
    Except AuthError Unit := do
  require (event.kind = kindAuthentication) .invalidSignature
  require (Verified X.toNostr event) .invalidSignature
  let challenge ← okOr (tagContent event "challenge") .challengeMismatch
  require (challenge = expectedChallenge) .challengeMismatch
  let relay ← okOr (tagContent event "relay") .relayUrlMismatch
  require (normalizeRelayUrl X.url relay = normalizeRelayUrl X.url relayUrl) .relayUrlMismatch
  require (absDiff now event.createdAt ≤ timestampToleranceSecs) .eventExpired

def payloadMatches (payload : Option String) (body : Option (List Byte)) : Bool :=
  match payload, body with
  | some payload, some bytes => (X.sha256 bytes).toHex = payload
  | _, _ => true

def verifyNip98EventAt (eventJson expectedUrl expectedMethod : String)
    (body : Option (List Byte)) (now : ℕ) : Except AuthError PublicKey := do
  let event ← (X.fromStr eventJson).mapError fun e =>
    .nip98Invalid ("event JSON parse error: " ++ e)
  require (event.kind = kindHttpAuth) (.nip98Invalid ("expected kind 27235, got " ++ event.kind.repr))
  require (Verified X.toNostr event) (.nip98Invalid "invalid Schnorr signature")
  require (absDiff now event.createdAt ≤ timestampToleranceSecs)
    (.nip98Invalid ("event timestamp outside ±" ++ timestampToleranceSecs.repr ++
      "s window (delta: " ++ (absDiff now event.createdAt).repr ++ "s)"))
  let url ← okOr (tagContent event "u") (.nip98Invalid "missing `u` tag")
  require (normalizeUrl X url = normalizeUrl X expectedUrl)
    (.nip98Invalid ("URL mismatch: event has `" ++ url ++ "`, expected `" ++ expectedUrl ++ "`"))
  let method ← okOr (tagContent event "method") (.nip98Invalid "missing `method` tag")
  require (eqIgnoreAsciiCase method expectedMethod = true)
    (.nip98Invalid ("method mismatch: event has `" ++ method ++ "`, expected `" ++ expectedMethod ++ "`"))
  require (payloadMatches X (tagContent event "payload") body = true)
    (.nip98Invalid "payload tag SHA-256 mismatch: request body does not match signed hash")
  .ok event.pubkey

def mapNip42Error : AuthError → LocalIdentityError
  | .eventExpired => .denied .evidenceExpired
  | .challengeMismatch => .denied .audienceMismatch
  | .relayUrlMismatch => .denied .audienceMismatch
  | _ => .denied .invalidEvidence

def containsText (message part : String) : Bool := part.toList <:+: message.toList

def mapNip98Error : AuthError → LocalIdentityError
  | .nip98Replay => .denied .replayDetected
  | .nip98Invalid message =>
    if containsText message "timestamp" then .denied .evidenceExpired
    else if containsText message "URL mismatch" || containsText message "method mismatch" then
      .denied .audienceMismatch
    else .denied .invalidEvidence
  | _ => .denied .invalidEvidence

inductive AuthenticationMethod
  | nip42 | nip98
  deriving DecidableEq

structure AuthenticatedPrincipal where
  principal : Principal
  method : AuthenticationMethod
  audience : String
  authenticatedAt : ℕ
  expiresAt : Option ℕ
  proofId : Option String
  deriving DecidableEq

inductive Evidence
  | nip42 (event : Event) (challenge : String)
  | nip98 (eventJson method : String) (body : List Byte)

structure PeerEvidence where
  event : Event
  challenge : String

structure RelayPeerTrust where
  source : String
  relayNodePrincipal : String
  verificationMethods : PublicKey → Option String

structure ReplicationPeerBinding where
  source : String
  relayNodePrincipal : String
  verificationMethod : String

structure Adapter where
  consumedProofs : Ledger
  peerTrust : String → Option RelayPeerTrust

def withPeerTrustAndProofStore (peerTrust : String → Option RelayPeerTrust)
    (store : Option (Option String)) : Except LocalIdentityError Adapter :=
  match load store with
  | .error e => .error e
  | .ok ledger => .ok ⟨ledger,peerTrust⟩

def authenticatedNostrPrincipal (pubkey : PublicKey) (method : AuthenticationMethod)
    (audience : String) (now : ℕ) (proofId : EventId) : AuthenticatedPrincipal :=
  ⟨.nostr pubkey,method,audience,now,none,some proofId.toHex⟩

def consumeProof {α : Type} (a : Adapter) (id : EventId) (now : ℕ) (value : α) :
    Adapter × Except LocalIdentityError α :=
  ({ a with consumedProofs := (consume a.consumedProofs id now).1 },
    match (consume a.consumedProofs id now).2 with
    | .error e => .error e
    | .ok () => .ok value)

def authenticateAt (a : Adapter) (evidence : Evidence) (audience : String) (now : ℕ) :
    Adapter × Except LocalIdentityError AuthenticatedPrincipal :=
  match evidence with
  | .nip42 event challenge =>
    match verifyNip42EventAt X event challenge audience now with
    | .error e => (a,.error (mapNip42Error e))
    | .ok () => consumeProof a event.id now
        (authenticatedNostrPrincipal event.pubkey .nip42 audience now event.id)
  | .nip98 eventJson method body =>
    match X.fromStr eventJson with
    | .error _ => (a,.error (.denied .invalidEvidence))
    | .ok event =>
      if findTag event "payload" = none then (a,.error (.denied .invalidEvidence))
      else match verifyNip98EventAt X eventJson audience method (some body) now with
        | .error e => (a,.error (mapNip98Error e))
        | .ok pubkey => consumeProof a event.id now
            (authenticatedNostrPrincipal pubkey .nip98 audience now event.id)

def authenticatePeerAt (a : Adapter) (evidence : PeerEvidence) (audience source : String)
    (now : ℕ) : Adapter × Except LocalIdentityError ReplicationPeerBinding :=
  match a.peerTrust source with
  | none => (a,.error (.denied .peerUnbound))
  | some trust =>
    match verifyNip42EventAt X evidence.event evidence.challenge audience now with
    | .error e => (a,.error (mapNip42Error e))
    | .ok () =>
      match trust.verificationMethods evidence.event.pubkey with
      | none => (a,.error (.denied .sourceMismatch))
      | some method => consumeProof a evidence.event.id now
          ⟨source,trust.relayNodePrincipal,method⟩

end BuzzSolo.Authentication
