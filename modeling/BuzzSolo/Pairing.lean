import BuzzSolo.CallLog
import BuzzSolo.Checks
import BuzzSolo.Event

/-! One side of a device pairing: a session that checks, decrypts and answers the messages of its
peer. Keys, signatures, encryption and JSON belong to crates outside the repository. A call returns
the event to publish. -/
namespace BuzzSolo.Pairing

open Checks HexText Except

abbrev SecretKey := FixedBytes 32
abbrev Bytes32 := FixedBytes 32

inductive PayloadType
  | nsec | bunker | connect | custom
  deriving DecidableEq

inductive AbortReason
  | sasMismatch | userDenied | timeout | protocolError | unknown
  deriving DecidableEq

inductive PairingMessage
  | offer (sessionId : String) (version : ℕ)
  | sasConfirm (transcriptHash : String)
  | payload (payloadType : PayloadType) (payload : String)
  | complete (success : Bool)
  | abort (reason : AbortReason)
  deriving DecidableEq

inductive PairingError
  | invalidSessionId
  | sasMismatch
  | transcriptMismatch
  | unexpectedMessage (expected got : String)
  | sessionExpired
  | nip44 (text : String)
  | json (text : String)
  | invalidPubkey (text : String)
  | signingError (text : String)
  deriving DecidableEq

/-- The crates behind a session: nostr with its NIP-44, HKDF and shared keys, and serde_json
at the message type. -/
structure Crates where
  verify : Event → Except String Unit
  eventIdNew : EventBody → EventId
  signature : SecretKey → Bytes32 → EventId → Except String Signature
  publicKey : SecretKey → PublicKey
  generateSharedKey : SecretKey → PublicKey → Except String Bytes32
  encrypt : SecretKey → PublicKey → Bytes32 → String → Except String String
  decrypt : SecretKey → PublicKey → String → Except String String
  /-- HKDF-SHA256 of a salt, a key and an info text, 32 bytes long. -/
  hkdf32 : List Byte → List Byte → String → Bytes32
  messageText : PairingMessage → Except String String
  parseMessage : String → Except String PairingMessage

/-- What a call takes from the monotonic clock, in nanoseconds, from the wall clock and from
the random source. -/
structure Draw where
  instant : ℕ
  unixTime : ℕ
  jitter : ℕ
  nonce : Bytes32
  aux : Bytes32

section

variable (X : Crates)

def deriveSessionId (sessionSecret : Bytes32) : Bytes32 :=
  X.hkdf32 [] sessionSecret.bytes "nostr-pair-session-id"

def firstU32 (b : Bytes32) : ℕ := (b.bytes.take 4).foldl (fun n byte => 256*n + byte.val) 0

def deriveSas (ecdhShared sessionSecret : Bytes32) : ℕ × Bytes32 :=
  let sasInput := X.hkdf32 sessionSecret.bytes ecdhShared.bytes "nostr-pair-sas-v1"
  (firstU32 sasInput % 1000000,sasInput)

def deriveTranscriptHash (sessionId : Bytes32) (sourcePubkey targetPubkey : PublicKey)
    (sasInput sessionSecret : Bytes32) : Bytes32 :=
  X.hkdf32 sessionSecret.bytes (sessionId.bytes ++ sourcePubkey.bytes ++ targetPubkey.bytes ++ sasInput.bytes)
    "nostr-pair-transcript-v1"

def formatSas (code : ℕ) : String :=
  String.ofList (List.replicate (6 - (Nat.toDigits 10 code).length) '0' ++ Nat.toDigits 10 code)

end

inductive Role
  | source | target
  deriving DecidableEq

def Role.debugText : Role → String
  | .source => "Source"
  | .target => "Target"

inductive SessionState
  | waiting | confirming | awaitingConfirmation | transferring | payloadExchanged | completed | aborted
  deriving DecidableEq

def SessionState.debugText : SessionState → String
  | .waiting => "Waiting"
  | .confirming => "Confirming"
  | .awaitingConfirmation => "AwaitingConfirmation"
  | .transferring => "Transferring"
  | .payloadExchanged => "PayloadExchanged"
  | .completed => "Completed"
  | .aborted => "Aborted"

def defaultTimeout : ℕ := 120*10^9
def pairingKind : ℕ := 24134

structure QrPayload where
  version : ℕ
  sourcePubkey : PublicKey
  sessionSecret : Bytes32
  relays : List String

structure PairingSession where
  role : Role
  state : SessionState
  keys : SecretKey
  sessionSecret : Bytes32
  relayUrls : List String
  peerPubkey : Option PublicKey
  sessionId : Bytes32
  sasCode : Option ℕ
  sasInput : Option Bytes32
  processedIds : Finset EventId
  createdAt : ℕ
  timeout : ℕ
  deriving DecidableEq

def PairingMessage.gotName : PairingMessage → String
  | .offer .. => "offer"
  | .sasConfirm .. => "sas-confirm"
  | .payload .. => "payload"
  | .complete .. => "complete"
  | .abort .. => "abort"

def unexpected (expected : String) (got : PairingMessage) : PairingError :=
  .unexpectedMessage expected got.gotName

section

variable (X : Crates) (d : Draw) (s : PairingSession)

def checkExpired : Except PairingError Unit := require (¬ s.timeout < d.instant - s.createdAt) .sessionExpired

def expectState (expected : SessionState) : Except PairingError Unit :=
  require (s.state = expected)
    (.unexpectedMessage ("state " ++ expected.debugText) ("state " ++ s.state.debugText))

def expectRole (expected : Role) : Except PairingError Unit :=
  require (s.role = expected)
    (.unexpectedMessage ("role " ++ expected.debugText) ("role " ++ s.role.debugText))

def addressedTo (event : Event) (key : PublicKey) : Bool :=
  (event.tagsNamed "p").any fun tag => tag.content = some key.toHex

def validateEventBasics (event : Event) : Except PairingError Unit := do
  (X.verify event).mapError fun e => .invalidPubkey ("event verification failed: " ++ e)
  require (event.id ∉ s.processedIds) (.unexpectedMessage "new event" "duplicate event id")
  require (event.kind = pairingKind)
    (.unexpectedMessage ("kind " ++ pairingKind.repr) ("kind " ++ event.kind.repr))
  require (addressedTo event (X.publicKey s.keys) = true)
    (.invalidPubkey "event p-tag does not match our ephemeral pubkey")

def validateEventFromPeer (event : Event) : Except PairingError Unit := do
  validateEventBasics X s event
  match s.peerPubkey with
  | none => .ok ()
  | some expected =>
    require (event.pubkey = expected)
      (.invalidPubkey ("event from " ++ event.pubkey.toHex ++ " but expected " ++ expected.toHex))

def recordEvent (event : Event) : PairingSession := { s with processedIds := insert event.id s.processedIds }

def decryptMessage (event : Event) : Except PairingError PairingMessage := do
  let contentLen := event.content.utf8ByteSize
  require (132 ≤ contentLen ∧ contentLen ≤ 87472)
    (.unexpectedMessage "NIP-44 content (132–87472 chars)" (contentLen.repr ++ " chars"))
  let decrypted ← (X.decrypt s.keys event.pubkey event.content).mapError .nip44
  -- the text has been wiped when its length goes into the error
  require (decrypted.utf8ByteSize ≤ 65535) (.unexpectedMessage "plaintext ≤ 65535 bytes" "0 bytes")
  (X.parseMessage decrypted).mapError .json

def eventBody (peer : PublicKey) (encrypted : String) : EventBody where
  pubkey := X.publicKey s.keys
  createdAt := d.unixTime - d.jitter % 31
  kind := pairingKind
  tags := [⟨"p",[peer.toHex]⟩]
  content := encrypted

def buildEvent (message : PairingMessage) : Except PairingError Event := do
  let peer ← okOr s.peerPubkey (.invalidPubkey "no peer pubkey set")
  let plaintext ← (X.messageText message).mapError .json
  let encrypted ← (X.encrypt s.keys peer d.nonce plaintext).mapError .nip44
  let body := eventBody X d s peer encrypted
  let sig ← (X.signature s.keys d.aux (X.eventIdNew body)).mapError .signingError
  .ok { toEventBody := body, id := X.eventIdNew body, sig := sig }

def newSource (keys : SecretKey) (sessionSecret : Bytes32) (relayUrl : String) : PairingSession × QrPayload :=
  ({ role := .source, state := .waiting, keys := keys, sessionSecret := sessionSecret,
     relayUrls := [relayUrl], peerPubkey := none, sessionId := deriveSessionId X sessionSecret,
     sasCode := none, sasInput := none, processedIds := ∅, createdAt := d.instant, timeout :=
       defaultTimeout },
   { version := 1, sourcePubkey := X.publicKey keys, sessionSecret := sessionSecret, relays := [relayUrl] })

/-- Everything that is checked before a source locks to the sender of an offer. -/
def offerChecks (event : Event) : Except PairingError Unit := do
  checkExpired d s
  expectState s .waiting
  expectRole s .source
  validateEventBasics X s event
  let message ← decryptMessage X s event
  match message with
  | .offer sessionId version => do
    require (version = 1) (.unexpectedMessage "version 1" ("version " ++ version.repr))
    require (FixedBytes.fromHex 32 sessionId = some s.sessionId) .invalidSessionId
  | other => .error (unexpected "offer" other)

def handleOffer (event : Event) : PairingSession × Except PairingError String :=
  match offerChecks X d s event with
  | .error e => (s,.error e)
  | .ok () =>
    let locked := { s with peerPubkey := some event.pubkey }
    match X.generateSharedKey s.keys event.pubkey with
    | .error e => (locked,.error (.signingError e))
    | .ok ecdh =>
      let sas := deriveSas X ecdh s.sessionSecret
      (recordEvent { locked with sasCode := some sas.1, sasInput := some sas.2, state := .confirming }
        event,.ok (formatSas sas.1))

/-- The event of a send operation moves the session on; an error leaves it. -/
def sendThen (built : Except PairingError Event) (next : SessionState) :
    PairingSession × Except PairingError Event :=
  match built with
  | .error e => (s,.error e)
  | .ok event => ({ s with state := next },.ok event)

def sasConfirmEvent : Except PairingError Event := do
  checkExpired d s
  expectState s .confirming
  expectRole s .source
  let sasInput ← okOr s.sasInput .sasMismatch
  let peer ← okOr s.peerPubkey (.invalidPubkey "no peer")
  buildEvent X d s (.sasConfirm (deriveTranscriptHash X s.sessionId (X.publicKey s.keys) peer sasInput
    s.sessionSecret).toHex)

def confirmSas : PairingSession × Except PairingError Event :=
  sendThen s (sasConfirmEvent X d s) .transferring

def payloadEvent (payloadType : PayloadType) (payload : String) : Except PairingError Event := do
  checkExpired d s
  expectState s .transferring
  expectRole s .source
  buildEvent X d s (.payload payloadType payload)

def sendPayload (payloadType : PayloadType) (payload : String) : PairingSession × Except PairingError Event :=
  sendThen s (payloadEvent X d s payloadType payload) .payloadExchanged

/-- The message of the peer, for a session in that state and role. -/
def receive (state : SessionState) (role : Role) (event : Event) : Except PairingError PairingMessage := do
  checkExpired d s
  expectState s state
  expectRole s role
  validateEventFromPeer X s event
  decryptMessage X s event

def handleComplete (event : Event) : PairingSession × Except PairingError Unit :=
  match receive X d s .payloadExchanged .source event with
  | .error e => (s,.error e)
  | .ok (.complete true) => (recordEvent { s with state := .completed } event,.ok ())
  | .ok (.complete false) => ({ s with state := .aborted },
      .error (.unexpectedMessage "complete(success=true)" "complete(success=false)"))
  | .ok other => (s,.error (unexpected "complete" other))

def newTarget (keys : SecretKey) (qr : QrPayload) : Except PairingError (PairingSession × Event) := do
  let sessionId := deriveSessionId X qr.sessionSecret
  let ecdh ← (X.generateSharedKey keys qr.sourcePubkey).mapError .signingError
  let sas := deriveSas X ecdh qr.sessionSecret
  let session : PairingSession :=
    { role := .target, state := .waiting, keys := keys, sessionSecret := qr.sessionSecret,
      relayUrls := qr.relays, peerPubkey := some qr.sourcePubkey, sessionId := sessionId,
      sasCode := some sas.1, sasInput := some sas.2, processedIds := ∅, createdAt := d.instant,
      timeout := defaultTimeout }
  let event ← buildEvent X d session (.offer sessionId.toHex 1)
  .ok ({ session with state := .confirming },event)

/-- The transcript hash the source is expected to send, with the hash it has sent. -/
def receiveTranscript (event : Event) : Except PairingError (Option Bytes32 × Bytes32) := do
  let message ← receive X d s .confirming .target event
  match message with
  | .sasConfirm transcriptHash => do
    let sasInput ← okOr s.sasInput .sasMismatch
    let peer ← okOr s.peerPubkey (.invalidPubkey "no peer")
    .ok (FixedBytes.fromHex 32 transcriptHash,
      deriveTranscriptHash X s.sessionId peer (X.publicKey s.keys) sasInput s.sessionSecret)
  | other => .error (unexpected "sas-confirm" other)

def handleSasConfirm (event : Event) : PairingSession × Except PairingError String :=
  match receiveTranscript X d s event with
  | .error e => (s,.error e)
  | .ok (received,expected) =>
    if received = some expected then
      let next := recordEvent { s with state := .awaitingConfirmation } event
      match s.sasCode with
      | none => (next,.error .sasMismatch)
      | some code => (next,.ok (formatSas code))
    else ({ s with state := .aborted },.error .transcriptMismatch)

def confirmTargetSas : PairingSession × Except PairingError Unit :=
  match (do
    checkExpired d s
    expectState s .awaitingConfirmation
    expectRole s .target : Except PairingError Unit) with
  | .error e => (s,.error e)
  | .ok () => ({ s with state := .transferring },.ok ())

def handlePayload (event : Event) : PairingSession × Except PairingError (PayloadType × String) :=
  match receive X d s .transferring .target event with
  | .error e => (s,.error e)
  | .ok (.payload payloadType payload) =>
    (recordEvent { s with state := .payloadExchanged } event,.ok (payloadType,payload))
  | .ok other => (s,.error (unexpected "payload" other))

def completeEvent : Except PairingError Event := do
  checkExpired d s
  expectState s .payloadExchanged
  expectRole s .target
  buildEvent X d s (.complete true)

def sendComplete : PairingSession × Except PairingError Event := sendThen s (completeEvent X d s) .completed

def isTerminal : Bool := s.state = .completed || s.state = .aborted

def terminalError : PairingError := .unexpectedMessage "non-terminal state" ("state " ++ s.state.debugText)

def abort (reason : AbortReason) : PairingSession × Except PairingError (Option Event) :=
  if isTerminal s then (s,.error (terminalError s))
  else if s.peerPubkey.isNone then ({ s with state := .aborted },.ok none)
  else match buildEvent X d s (.abort reason) with
    | .error e => (s,.error e)
    | .ok event => ({ s with state := .aborted },.ok (some event))

def receiveAbort (event : Event) : Except PairingError PairingMessage := do
  require (isTerminal s = false) (terminalError s)
  require (s.peerPubkey ≠ none) (.invalidPubkey "cannot accept abort before peer is known")
  validateEventFromPeer X s event
  decryptMessage X s event

def handleAbort (event : Event) : PairingSession × Except PairingError AbortReason :=
  match receiveAbort X s event with
  | .error e => (s,.error e)
  | .ok (.abort reason) => (recordEvent { s with state := .aborted } event,.ok reason)
  | .ok other => (s,.error (unexpected "abort" other))

end

inductive Call
  | handleOffer (event : Event)
  | confirmSas
  | sendPayload (payloadType : PayloadType) (payload : String)
  | handleComplete (event : Event)
  | handleSasConfirm (event : Event)
  | confirmTargetSas
  | handlePayload (event : Event)
  | sendComplete
  | abort (reason : AbortReason)
  | handleAbort (event : Event)

def Call.received : Call → Option Event
  | .handleOffer event => some event
  | .handleComplete event => some event
  | .handleSasConfirm event => some event
  | .handlePayload event => some event
  | .handleAbort event => some event
  | _ => none

inductive Answer
  | sas (code : String)
  | event (event : Event)
  | done
  | payload (payloadType : PayloadType) (payload : String)
  | quiet
  | reason (reason : AbortReason)
  deriving DecidableEq

def Answer.published : Answer → Option Event
  | .event e => some e
  | _ => none

def answerWith {α : Type} (f : α → Answer) (outcome : PairingSession × Except PairingError α) :
    PairingSession × Except PairingError Answer :=
  (outcome.1,outcome.2.map f)

def PairingSession.call (X : Crates) (d : Draw) (s : PairingSession) :
    Call → PairingSession × Except PairingError Answer
  | .handleOffer event => answerWith .sas (handleOffer X d s event)
  | .confirmSas => answerWith .event (confirmSas X d s)
  | .sendPayload payloadType payload => answerWith .event (sendPayload X d s payloadType payload)
  | .handleComplete event => answerWith (fun _ => .done) (handleComplete X d s event)
  | .handleSasConfirm event => answerWith .sas (handleSasConfirm X d s event)
  | .confirmTargetSas => answerWith (fun _ => .done) (confirmTargetSas d s)
  | .handlePayload event => answerWith (fun p => .payload p.1 p.2) (handlePayload X d s event)
  | .sendComplete => answerWith .event (sendComplete X d s)
  | .abort reason => answerWith (fun e => e.elim .quiet .event) (abort X d s reason)
  | .handleAbort event => answerWith .reason (handleAbort X s event)

section

variable {X : Crates} {d : Draw} {s : PairingSession} {event : Event}

/-- What every event has to meet before it is decrypted. -/
structure Acceptable (X : Crates) (s : PairingSession) (event : Event) : Prop where
  verified : X.verify event = .ok ()
  fresh : event.id ∉ s.processedIds
  kind : event.kind = pairingKind
  addressed : addressedTo event (X.publicKey s.keys) = true

lemma validateEventBasics_eq_ok : validateEventBasics X s event = .ok () ↔ Acceptable X s event := by
  simp only [validateEventBasics,bind_eq_ok,relabelled_ok,require_eq_ok,exists_unit]
  constructor
  · rintro ⟨hv,hf,hk,ha⟩
    exact ⟨hv,hf,hk,ha⟩
  · intro h
    exact ⟨h.verified,h.fresh,h.kind,h.addressed⟩

structure FromPeer (X : Crates) (s : PairingSession) (event : Event) : Prop extends
    Acceptable X s event where
  peer : ∀ expected, s.peerPubkey = some expected → event.pubkey = expected

lemma validateEventFromPeer_eq_ok : validateEventFromPeer X s event = .ok () ↔ FromPeer X s event := by
  simp only [validateEventFromPeer,bind_eq_ok,exists_unit,validateEventBasics_eq_ok]
  cases hp : s.peerPubkey with
  | none => exact ⟨fun h => ⟨h.1,by simp [hp]⟩,fun h => ⟨h.toAcceptable,rfl⟩⟩
  | some expected =>
    simp only [require_eq_ok]
    exact ⟨fun h => ⟨h.1,by simpa [hp] using h.2⟩, fun h => ⟨h.toAcceptable,h.peer expected hp⟩⟩

/-- The session has not expired and is in that state and role. -/
structure Ready (d : Draw) (s : PairingSession) (state : SessionState) (role : Role) : Prop where
  live : ¬ s.timeout < d.instant - s.createdAt
  state : s.state = state
  role : s.role = role

lemma receive_eq_ok {st : SessionState} {role : Role} {msg : PairingMessage} :
    receive X d s st role event = .ok msg ↔
      Ready d s st role ∧ FromPeer X s event ∧ decryptMessage X s event = .ok msg := by
  simp only [receive,checkExpired,expectState,expectRole,bind_eq_ok,require_eq_ok,exists_unit,
    validateEventFromPeer_eq_ok]
  constructor
  · rintro ⟨hl,hst,hr,hp,hm⟩
    exact ⟨⟨hl,hst,hr⟩,hp,hm⟩
  · rintro ⟨hrd,hp,hm⟩
    exact ⟨hrd.live,hrd.state,hrd.role,hp,hm⟩

structure Carries (X : Crates) (d : Draw) (s : PairingSession) (peer : PublicKey)
    (message : PairingMessage) (event : Event) : Prop where
  known : s.peerPubkey = some peer
  encrypted : ∃ plaintext, X.messageText message = .ok plaintext ∧
    X.encrypt s.keys peer d.nonce plaintext = .ok event.content
  body : event.toEventBody = eventBody X d s peer event.content
  id : event.id = X.eventIdNew event.toEventBody

lemma carries_of_buildEvent {msg : PairingMessage} (h : buildEvent X d s msg = .ok event) :
    ∃ peer, Carries X d s peer msg event := by
  simp only [buildEvent,bind_eq_ok,relabelled_ok,okOr_eq_ok,ok.injEq] at h
  obtain ⟨peer,hp,plaintext,ht,encrypted,he,sig,-,rfl⟩ := h
  exact ⟨peer,hp,⟨plaintext,ht,he⟩,rfl,rfl⟩

/-- An offer with the version and the session id of this session. -/
structure Offered (X : Crates) (s : PairingSession) (event : Event) : Prop where
  acceptable : Acceptable X s event
  message : ∃ sessionId, decryptMessage X s event = .ok (.offer sessionId 1) ∧
    FixedBytes.fromHex 32 sessionId = some s.sessionId

lemma offerChecks_eq_ok : offerChecks X d s event = .ok () ↔ Ready d s .waiting .source ∧
    Offered X s event := by
  simp only [offerChecks,checkExpired,expectState,expectRole,bind_eq_ok,require_eq_ok,exists_unit,
    validateEventBasics_eq_ok]
  constructor
  · rintro ⟨hl,hst,hr,ha,msg,hm,ho⟩
    cases msg with
    | offer sid version =>
      simp only [bind_eq_ok,require_eq_ok,exists_unit] at ho
      obtain ⟨rfl,hid⟩ := ho
      exact ⟨⟨hl,hst,hr⟩,ha,sid,hm,hid⟩
    | _ => simp at ho
  · rintro ⟨hrd,ha,sid,hm,hid⟩
    exact ⟨hrd.live,hrd.state,hrd.role,ha,_,hm,by simp [hid]⟩

/-- The session after an offer: locked to its sender, with the codes of that pair. -/
def locked (X : Crates) (s : PairingSession) (event : Event) (ecdh : Bytes32) : PairingSession :=
  recordEvent { s with
    peerPubkey := some event.pubkey
    sasCode := some (deriveSas X ecdh s.sessionSecret).1
    sasInput := some (deriveSas X ecdh s.sessionSecret).2
    state := .confirming } event

def expectedTranscript (X : Crates) (s : PairingSession) (peer : PublicKey) (sasInput : Bytes32) : Bytes32 :=
  deriveTranscriptHash X s.sessionId peer (X.publicKey s.keys) sasInput s.sessionSecret

/-- A transcript hash for this session, sent by its peer. -/
structure Transcribed (X : Crates) (s : PairingSession) (event : Event) (received : String)
    (expected : Bytes32) : Prop where
  fromPeer : FromPeer X s event
  message : decryptMessage X s event = .ok (.sasConfirm received)
  expected : ∃ peer sasInput, s.peerPubkey = some peer ∧ s.sasInput = some sasInput ∧
    expected = expectedTranscript X s peer sasInput

lemma receiveTranscript_eq_ok {out : Option Bytes32 × Bytes32} :
    receiveTranscript X d s event = .ok out ↔ Ready d s .confirming .target ∧
      ∃ received, Transcribed X s event received out.2 ∧ out.1 = FixedBytes.fromHex 32 received := by
  simp only [receiveTranscript,bind_eq_ok,receive_eq_ok]
  constructor
  · rintro ⟨msg,⟨hrd,hp,hm⟩,h⟩
    cases msg with
    | sasConfirm received =>
      simp only [bind_eq_ok,okOr_eq_ok,ok.injEq] at h
      obtain ⟨sasInput,hi,peer,hk,rfl⟩ := h
      exact ⟨hrd,received,⟨hp,hm,peer,sasInput,hk,hi,rfl⟩,rfl⟩
    | _ => simp at h
  · rintro ⟨hrd,received,⟨hp,hm,peer,sasInput,hk,hi,he⟩,hr⟩
    refine ⟨_,⟨hrd,hp,hm⟩,?_⟩
    simp only [bind_eq_ok,okOr_eq_ok,ok.injEq]
    exact ⟨sasInput,hi,peer,hk,Prod.ext hr.symm he.symm⟩

inductive Succeeds (X : Crates) (d : Draw) (s : PairingSession) : Call → PairingSession → Answer → Prop
  | offer {event : Event} {ecdh : Bytes32} (hready : Ready d s .waiting .source)
      (hoffered : Offered X s event) (hkey : X.generateSharedKey s.keys event.pubkey = .ok ecdh) :
      Succeeds X d s (.handleOffer event) (locked X s event ecdh)
        (.sas (formatSas (deriveSas X ecdh s.sessionSecret).1))
  | confirmSas {event : Event} {peer : PublicKey} {hash : String}
      (hready : Ready d s .confirming .source) (hcarries : Carries X d s peer (.sasConfirm hash) event) :
      Succeeds X d s .confirmSas { s with state := .transferring } (.event event)
  | sendPayload {event : Event} {peer : PublicKey} {payloadType : PayloadType} {payload : String}
      (hready : Ready d s .transferring .source)
      (hcarries : Carries X d s peer (.payload payloadType payload) event) :
      Succeeds X d s (.sendPayload payloadType payload) { s with state := .payloadExchanged } (.event event)
  | complete {event : Event} (hready : Ready d s .payloadExchanged .source) (hpeer : FromPeer X s event)
      (hmessage : decryptMessage X s event = .ok (.complete true)) :
      Succeeds X d s (.handleComplete event) (recordEvent { s with state := .completed } event) .done
  | sasConfirm {event : Event} {received : String} {expected : Bytes32} {code : ℕ}
      (hready : Ready d s .confirming .target)
      (htranscribed : Transcribed X s event received expected)
      (hmatch : FixedBytes.fromHex 32 received = some expected) (hcode : s.sasCode = some code) :
      Succeeds X d s (.handleSasConfirm event)
        (recordEvent { s with state := .awaitingConfirmation } event) (.sas (formatSas code))
  | confirmTargetSas (hready : Ready d s .awaitingConfirmation .target) :
      Succeeds X d s .confirmTargetSas { s with state := .transferring } .done
  | payload {event : Event} {payloadType : PayloadType} {payload : String}
      (hready : Ready d s .transferring .target) (hpeer : FromPeer X s event)
      (hmessage : decryptMessage X s event = .ok (.payload payloadType payload)) :
      Succeeds X d s (.handlePayload event) (recordEvent { s with state := .payloadExchanged } event)
        (.payload payloadType payload)
  | sendComplete {event : Event} {peer : PublicKey} (hready : Ready d s .payloadExchanged .target)
      (hcarries : Carries X d s peer (.complete true) event) :
      Succeeds X d s .sendComplete { s with state := .completed } (.event event)
  | abortAlone {reason : AbortReason} (hlive : isTerminal s = false) (hpeer : s.peerPubkey = none) :
      Succeeds X d s (.abort reason) { s with state := .aborted } .quiet
  | abort {event : Event} {peer : PublicKey} {reason : AbortReason} (hlive : isTerminal s = false)
      (hcarries : Carries X d s peer (.abort reason) event) :
      Succeeds X d s (.abort reason) { s with state := .aborted } (.event event)
  | aborted {event : Event} {reason : AbortReason} (hlive : isTerminal s = false)
      (hpeer : FromPeer X s event) (hmessage : decryptMessage X s event = .ok (.abort reason)) :
      Succeeds X d s (.handleAbort event) (recordEvent { s with state := .aborted } event) (.reason reason)

inductive Fails (X : Crates) (d : Draw) (s : PairingSession) : Call → PairingSession → PairingError → Prop
  | unchanged {c : Call} {e : PairingError} : Fails X d s c s e
  | keyAgreement {event : Event} {e : String} (hready : Ready d s .waiting .source)
      (hoffered : Offered X s event)
      (hkey : X.generateSharedKey s.keys event.pubkey = .error e) :
      Fails X d s (.handleOffer event) { s with peerPubkey := some event.pubkey } (.signingError e)
  | transcript {event : Event} {received : String} {expected : Bytes32}
      (hready : Ready d s .confirming .target)
      (htranscribed : Transcribed X s event received expected)
      (hmismatch : FixedBytes.fromHex 32 received ≠ some expected) :
      Fails X d s (.handleSasConfirm event) { s with state := .aborted } .transcriptMismatch
  | withoutCode {event : Event} (hready : Ready d s .confirming .target) (hcode : s.sasCode = none) :
      Fails X d s (.handleSasConfirm event)
        (recordEvent { s with state := .awaitingConfirmation } event) .sasMismatch
  | incomplete {event : Event} (hready : Ready d s .payloadExchanged .source)
      (hpeer : FromPeer X s event) (hmessage : decryptMessage X s event = .ok (.complete false)) :
      Fails X d s (.handleComplete event) { s with state := .aborted }
        (.unexpectedMessage "complete(success=true)" "complete(success=false)")

inductive Outcome (X : Crates) (d : Draw) (s : PairingSession) (c : Call) :
    PairingSession × Except PairingError Answer → Prop
  | succeeds {s' a} (h : Succeeds X d s c s' a) : Outcome X d s c (s',.ok a)
  | fails {s' e} (h : Fails X d s c s' e) : Outcome X d s c (s',.error e)

lemma outcome_handleOffer : Outcome X d s (.handleOffer event) (s.call X d (.handleOffer event)) := by
  show Outcome X d s _ (answerWith .sas (handleOffer X d s event))
  unfold handleOffer
  cases hc : offerChecks X d s event with
  | error e => exact .fails .unchanged
  | ok _ =>
    obtain ⟨hr,ho⟩ := offerChecks_eq_ok.1 hc
    cases hkey : X.generateSharedKey s.keys event.pubkey with
    | error e => exact .fails (.keyAgreement hr ho hkey)
    | ok ecdh => exact .succeeds (.offer hr ho hkey)

lemma outcome_handleComplete : Outcome X d s (.handleComplete event)
    (s.call X d (.handleComplete event)) := by
  show Outcome X d s _ (answerWith (fun _ => .done) (handleComplete X d s event))
  unfold handleComplete
  cases hr : receive X d s .payloadExchanged .source event with
  | error e => exact .fails .unchanged
  | ok msg =>
    obtain ⟨hrd,hp,hm⟩ := receive_eq_ok.1 hr
    cases msg with
    | complete success =>
      cases success with
      | true => exact .succeeds (.complete hrd hp hm)
      | false => exact .fails (.incomplete hrd hp hm)
    | _ => exact .fails .unchanged

lemma outcome_handleSasConfirm :
    Outcome X d s (.handleSasConfirm event) (s.call X d (.handleSasConfirm event)) := by
  show Outcome X d s _ (answerWith .sas (handleSasConfirm X d s event))
  unfold handleSasConfirm
  cases hre : receiveTranscript X d s event with
  | error e => exact .fails .unchanged
  | ok out =>
    obtain ⟨hrd,received,htr,hr⟩ := receiveTranscript_eq_ok.1 hre
    simp only [hr]
    split
    next hm =>
      split
      next hcode => exact .fails (.withoutCode hrd hcode)
      next code hcode => exact .succeeds (.sasConfirm hrd htr hm hcode)
    next hmismatch => exact .fails (.transcript hrd htr hmismatch)

lemma outcome_handlePayload : Outcome X d s (.handlePayload event) (s.call X d (.handlePayload event)) := by
  show Outcome X d s _ (answerWith (fun p => .payload p.1 p.2) (handlePayload X d s event))
  unfold handlePayload
  cases hr : receive X d s .transferring .target event with
  | error e => exact .fails .unchanged
  | ok msg =>
    obtain ⟨hrd,hp,hm⟩ := receive_eq_ok.1 hr
    cases msg with
    | payload pt pay => exact .succeeds (.payload hrd hp hm)
    | _ => exact .fails .unchanged

lemma outcome_handleAbort : Outcome X d s (.handleAbort event) (s.call X d (.handleAbort event)) := by
  show Outcome X d s _ (answerWith .reason (handleAbort X s event))
  unfold handleAbort
  cases hr : receiveAbort X s event with
  | error e => exact .fails .unchanged
  | ok msg =>
    simp only [receiveAbort,bind_eq_ok,require_eq_ok,exists_unit,validateEventFromPeer_eq_ok]
      at hr
    obtain ⟨hl,-,hp,hm⟩ := hr
    cases msg with
    | abort why => exact .succeeds (.aborted hl hp hm)
    | _ => exact .fails .unchanged

lemma outcome_abort {why : AbortReason} : Outcome X d s (.abort why) (s.call X d (.abort why)) := by
  show Outcome X d s _ (answerWith _ (abort X d s why))
  unfold abort
  split
  · exact .fails .unchanged
  next hl =>
    split
    next hp => exact .succeeds (.abortAlone (by simpa using hl) (by simpa using hp))
    · cases hb : buildEvent X d s (.abort why) with
      | error e => exact .fails .unchanged
      | ok event =>
        obtain ⟨peer,hc⟩ := carries_of_buildEvent hb
        exact .succeeds (.abort (by simpa using hl) hc)

lemma outcome_sendThen {c : Call} {built : Except PairingError Event} {next : SessionState}
    (h : ∀ event, built = .ok event → Succeeds X d s c { s with state := next } (.event event)) :
    Outcome X d s c (answerWith .event (sendThen s built next)) := by
  cases built with
  | error e => exact .fails .unchanged
  | ok event => exact .succeeds (h event rfl)

lemma outcome_confirmSas : Outcome X d s .confirmSas (s.call X d .confirmSas) := by
  refine outcome_sendThen fun event h => ?_
  simp only [sasConfirmEvent,checkExpired,expectState,expectRole,bind_eq_ok,require_eq_ok,exists_unit] at h
  obtain ⟨hl,hst,hr,sasInput,-,peer,-,hb⟩ := h
  obtain ⟨peer,hc⟩ := carries_of_buildEvent hb
  exact .confirmSas ⟨hl,hst,hr⟩ hc

lemma outcome_sendPayload {pt : PayloadType} {pay : String} : Outcome X d s (.sendPayload pt pay)
      (s.call X d (.sendPayload pt pay)) := by
  refine outcome_sendThen fun event h => ?_
  simp only [payloadEvent,checkExpired,expectState,expectRole,bind_eq_ok,require_eq_ok,exists_unit] at h
  obtain ⟨hl,hst,hr,hb⟩ := h
  obtain ⟨peer,hc⟩ := carries_of_buildEvent hb
  exact .sendPayload ⟨hl,hst,hr⟩ hc

lemma outcome_sendComplete : Outcome X d s .sendComplete (s.call X d .sendComplete) := by
  refine outcome_sendThen fun event h => ?_
  simp only [completeEvent,checkExpired,expectState,expectRole,bind_eq_ok,require_eq_ok,exists_unit] at h
  obtain ⟨hl,hst,hr,hb⟩ := h
  obtain ⟨peer,hc⟩ := carries_of_buildEvent hb
  exact .sendComplete ⟨hl,hst,hr⟩ hc

lemma outcome_confirmTargetSas : Outcome X d s .confirmTargetSas (s.call X d .confirmTargetSas) := by
  show Outcome X d s _ (answerWith (fun _ => .done) (confirmTargetSas d s))
  unfold confirmTargetSas
  split
  · exact .fails .unchanged
  next h =>
    simp only [checkExpired,expectState,expectRole,bind_eq_ok,require_eq_ok,exists_unit] at h
    exact .succeeds (.confirmTargetSas ⟨h.1,h.2.1,h.2.2⟩)

lemma outcome_call (c : Call) : Outcome X d s c (s.call X d c) := by
  cases c with
  | handleOffer => exact outcome_handleOffer
  | confirmSas => exact outcome_confirmSas
  | sendPayload => exact outcome_sendPayload
  | handleComplete => exact outcome_handleComplete
  | handleSasConfirm => exact outcome_handleSasConfirm
  | confirmTargetSas => exact outcome_confirmTargetSas
  | handlePayload => exact outcome_handlePayload
  | sendComplete => exact outcome_sendComplete
  | abort => exact outcome_abort
  | handleAbort => exact outcome_handleAbort

lemma succeeds_of_call {c : Call} {a : Answer} (h : (s.call X d c).2 = .ok a) :
    Succeeds X d s c (s.call X d c).1 a := by
  have ho : Outcome X d s c (s.call X d c) := outcome_call c
  generalize s.call X d c = outcome at h ho ⊢
  cases ho with
  | succeeds hs =>
    obtain rfl := ok.inj h
    exact hs
  | fails => simp at h

lemma fails_of_call {c : Call} {e : PairingError} (h : (s.call X d c).2 = .error e) :
    Fails X d s c (s.call X d c).1 e := by
  have ho : Outcome X d s c (s.call X d c) := outcome_call c
  generalize s.call X d c = outcome at h ho ⊢
  cases ho with
  | succeeds => simp at h
  | fails hf =>
    obtain rfl := error.inj h
    exact hf

end

end BuzzSolo.Pairing
