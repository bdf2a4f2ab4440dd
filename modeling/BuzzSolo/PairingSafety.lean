import BuzzSolo.PairingInertness

/-! Two paired sessions on a network that is the adversary's: it delivers what it likes, as often
and in whatever order it likes, and cannot sign for the two sessions. Signatures, encryption and
key agreement are ideal. -/
namespace BuzzSolo.Pairing

open Checks HexText CallLog List Option Except

/-- A source and a target, with the calls each of them has answered. -/
structure Pair where
  source : PairingSession
  target : PairingSession
  sourceLog : List (Call × Answer)
  targetLog : List (Call × Answer)

def published (log : List (Call × Answer)) : List Event := log.filterMap fun entry => entry.2.published

/-- What the network can hand to a session: a pairing event that verifies under the key of one of
the two sessions has the body of an event which that session has published. `offer` is the event
the target was created with. -/
def Deliverable (X : Crates) (offer : Event) (w : Pair) (event : Event) : Prop :=
  X.verify event = .ok () → event.kind = pairingKind → (event.pubkey = X.publicKey w.source.keys →
      ∃ sent ∈ published w.sourceLog, sent.toEventBody = event.toEventBody) ∧
    (event.pubkey = X.publicKey w.target.keys →
      ∃ sent ∈ offer :: published w.targetLog, sent.toEventBody = event.toEventBody)

/-- All interleavings of the calls of two sessions. The target is there from the start: as the
clock readings of the calls are not tied to their order, the runs in which it is created later
are among these. -/
inductive Exchange (X : Crates) (offer : Event) (start : Pair) : Pair → Prop
  | start : Exchange X offer start start
  | source {w : Pair} (h : Exchange X offer start w) (d : Draw) (c : Call)
      (hdeliver : ∀ event, c.received = some event → Deliverable X offer w event) :
      Exchange X offer start { w with
        source := (w.source.call X d c).1
        sourceLog := w.sourceLog ++ answered c (w.source.call X d c).2 }
  | target {w : Pair} (h : Exchange X offer start w) (d : Draw) (c : Call)
      (hdeliver : ∀ event, c.received = some event → Deliverable X offer w event) :
        Exchange X offer start { w with
        target := (w.target.call X d c).1
        targetLog := w.targetLog ++ answered c (w.target.call X d c).2 }

/-- Key agreement, encryption and the message format do what they are for. -/
structure Ideal (X : Crates) (source target : SecretKey) : Prop where
  sharedKey : X.generateSharedKey source (X.publicKey target) =
    X.generateSharedKey target (X.publicKey source)
  decrypts : ∀ nonce plain text, X.encrypt source (X.publicKey target) nonce plain = .ok text →
    X.decrypt target (X.publicKey source) text = .ok plain
  parses : ∀ message text, X.messageText message = .ok text → X.parseMessage text = .ok message

def movesPayload : Call × Answer → Bool
  | (.sendPayload _ _,_) => true
  | (.handlePayload _,_) => true
  | _ => false

/-- An event that verifies and is a pairing message for the owner of the keys. -/
structure Addressed (X : Crates) (keys : SecretKey) (event : Event) (message : PairingMessage) : Prop where
  verified : X.verify event = .ok ()
  kind : event.kind = pairingKind
  addressed : addressedTo event (X.publicKey keys) = true
  message : ∃ plain, X.decrypt keys event.pubkey event.content = .ok plain ∧
    X.parseMessage plain = .ok message

/-- The source has taken an offer with the session id of its secret. -/
def ValidOffer (X : Crates) (keys : SecretKey) (secret : Bytes32) (entry : Call × Answer) : Prop :=
  ∃ event sessionId, entry.1 = .handleOffer event ∧ Addressed X keys event (.offer sessionId 1) ∧
    FixedBytes.fromHex 32 sessionId = some (deriveSessionId X secret)

def ConfirmedSas (entry : Call × Answer) : Prop := entry.1 = .confirmSas

/-- The target has taken the transcript hash of its own keys and the QR code, from the key which
the QR code names. -/
def ValidTranscript (X : Crates) (keys : SecretKey) (qr : QrPayload) (entry : Call × Answer) : Prop :=
  ∃ event received ecdh, entry.1 = .handleSasConfirm event ∧
    Addressed X keys event (.sasConfirm received) ∧ event.pubkey = qr.sourcePubkey ∧
    X.generateSharedKey keys qr.sourcePubkey = .ok ecdh ∧
    FixedBytes.fromHex 32 received = some (deriveTranscriptHash X (deriveSessionId X qr.sessionSecret)
      qr.sourcePubkey (X.publicKey keys) (deriveSas X ecdh qr.sessionSecret).2 qr.sessionSecret)

def ConfirmedTargetSas (entry : Call × Answer) : Prop := entry.1 = .confirmTargetSas

/-- The two sessions agree on their keys, on the code and on the payload. -/
structure Agree (X : Crates) (w : Pair) : Prop where
  sourcePeer : w.source.peerPubkey = some (X.publicKey w.target.keys)
  targetPeer : w.target.peerPubkey = some (X.publicKey w.source.keys)
  sas : ∃ code, w.source.sasCode = some code ∧ w.target.sasCode = some code
  payload : ∃ payloadType payload sent received,
    (.sendPayload payloadType payload,.event sent) ∈ w.sourceLog ∧
    (.handlePayload received,.payload payloadType payload) ∈ w.targetLog

section

variable {X : Crates} {d : Draw} {s s' : PairingSession} {c : Call} {a : Answer}
  {out : PairingSession × Except PairingError Answer}

lemma addressed_of_decryptMessage {e : Event} {msg : PairingMessage}
    (ha : Acceptable X s e) (hm : decryptMessage X s e = .ok msg) : Addressed X s.keys e msg :=
  ⟨ha.verified,ha.kind,ha.addressed,decrypt_of_decryptMessage hm⟩

/-- How far a session is; no call takes it back. -/
def SessionState.rank : SessionState → ℕ
  | .waiting => 0
  | .confirming => 1
  | .awaitingConfirmation => 2
  | .transferring => 3
  | .payloadExchanged => 4
  | .completed => 5
  | .aborted => 6

lemma rank_le_aborted (state : SessionState) : state.rank ≤ SessionState.aborted.rank := by
  cases state <;> decide

lemma rank_outcome (h : Outcome X d s c out) : s.state.rank ≤ out.1.state.rank := by
  cases h with
  | succeeds h =>
    cases h with
    | abortAlone | abort | aborted => exact rank_le_aborted _
    | offer hr | confirmSas hr | sendPayload hr | complete hr | sasConfirm hr
    | confirmTargetSas hr | payload hr | sendComplete hr =>
      simp [hr.state,SessionState.rank,recordEvent]
  | fails h =>
    cases h with
    | unchanged | keyAgreement => exact le_refl _
    | transcript | incomplete => exact rank_le_aborted _
    | withoutCode hr => simp [hr.state,SessionState.rank,recordEvent]

lemma movesPayload_succeeds (hm : movesPayload (c,a) = true) (h : Succeeds X d s c s' a) :
    s.state = .transferring ∧ s'.state = .payloadExchanged := by
  cases h with
  | sendPayload hr | payload hr => exact ⟨hr.state,rfl⟩
  | _ => simp [movesPayload] at hm

/-- No session emits or returns a payload twice. -/
lemma countP_movesPayload {start : PairingSession} {log : List (Call × Answer)}
    (hrun : Run (PairingSession.call X) start log s) : log.countP movesPayload ≤ 1 := by
  refine hrun.countP_le_one (fun s => s.state.rank) SessionState.transferring.rank
    (fun d s c => rank_outcome (outcome_call c)) ?_
  intro d s c a ha hm
  obtain ⟨hb,haf⟩ := movesPayload_succeeds hm (succeeds_of_call ha)
  simp [hb,haf,SessionState.rank]

lemma transferring_gained (h : Outcome X d s c out) (hst : out.1.state = .transferring) :
    s.state = .transferring ∨
      ∃ a, out.2 = .ok a ∧ c = (if s.role = .source then .confirmSas else .confirmTargetSas) := by
  cases h with
  | succeeds h =>
    cases h with
    | confirmSas hr | confirmTargetSas hr => exact .inr ⟨_,rfl,by simp [hr.role]⟩
    | _ => simp [recordEvent,locked] at hst
  | fails h =>
    cases h with
    | unchanged | keyAgreement => exact .inl hst
    | _ => simp [recordEvent] at hst

end

section

variable {X : Crates} {d : Draw} {s : PairingSession} {c : Call} {log : List (Call × Answer)}
  {out : PairingSession × Except PairingError Answer} {keys : SecretKey} {secret : Bytes32}

structure SourceOf (X : Crates) (keys : SecretKey) (secret : Bytes32) (s : PairingSession) : Prop where
  role : s.role = .source
  sameKeys : s.keys = keys
  sameSecret : s.sessionSecret = secret
  sessionId : s.sessionId = deriveSessionId X secret

lemma sourceOf_newSource (d : Draw) (relayUrl : String) :
    SourceOf X keys secret (newSource X d keys secret relayUrl).1 := ⟨rfl,rfl,rfl,rfl⟩

lemma sourceOf_outcome (hsource : SourceOf X keys secret s) (h : Outcome X d s c out) :
    SourceOf X keys secret out.1 := by
  obtain ⟨hr,hk,hs,hid⟩ := hsource
  cases h with
  | succeeds h | fails h => cases h <;> exact ⟨hr,hk,hs,hid⟩

lemma sourceOf_call (d : Draw) (s : PairingSession) (c : Call) (h : SourceOf X keys secret s) :
    SourceOf X keys secret (s.call X d c).1 := sourceOf_outcome h (outcome_call c)

lemma confirmedSas_succeeds {s' : PairingSession} {a : Answer} (hc : ConfirmedSas (c,a))
    (h : Succeeds X d s c s' a) : s.state = .confirming := by
  cases h with
  | confirmSas hr => exact hr.state
  | _ => simp [ConfirmedSas] at hc

lemma confirming_gained (hs : SourceOf X keys secret s) (h : Outcome X d s c out)
    (hst : out.1.state = .confirming) :
    s.state = .confirming ∨ ∃ a, out.2 = .ok a ∧ ValidOffer X keys secret (c,a) := by
  cases h with
  | succeeds h =>
    cases h with
    | @offer e _ hready ho =>
      obtain ⟨sid,hm,hid⟩ := ho.message
      refine .inr ⟨_,rfl,e,sid,rfl,?_,hs.sessionId ▸ hid⟩
      exact hs.sameKeys ▸ addressed_of_decryptMessage ho.acceptable hm
    | _ => simp [recordEvent] at hst
  | fails h =>
    cases h with
    | unchanged | keyAgreement => exact .inl hst
    | _ => simp [recordEvent] at hst

section

variable {s0 : PairingSession} (hsource : SourceOf X keys secret s0)
  (hwaiting : s0.state = .waiting) (hrun : Run (PairingSession.call X) s0 log s)
include hsource hwaiting hrun

lemma confirmedSas_precedes_payload : Precedes ConfirmedSas (movesPayload · = true) log := by
  refine hrun.precedes (I := SourceOf X keys secret) (Q := fun s => s.state = .transferring)
    hsource sourceOf_call (by simp [hwaiting]) ?_ ?_
  · intro d s c hs hst
    rcases transferring_gained (outcome_call c) hst with hb | ⟨a,ha,hc⟩
    · exact .inl hb
    · rw [hs.role,if_pos rfl] at hc
      exact .inr ⟨a,ha,hc⟩
  · intro d s c a _ ha hm
    exact (movesPayload_succeeds hm (succeeds_of_call ha)).1

lemma validOffer_precedes_confirmedSas : Precedes (ValidOffer X keys secret) ConfirmedSas log := by
  refine hrun.precedes (I := SourceOf X keys secret) (Q := fun s => s.state = .confirming)
    hsource sourceOf_call (by simp [hwaiting]) ?_ ?_
  · intro d s c hs hst
    exact confirming_gained hs (outcome_call c) hst
  · intro d s c a _ ha hc
    exact confirmedSas_succeeds hc (succeeds_of_call ha)

lemma validOffer_precedes_payload : Precedes (ValidOffer X keys secret) (movesPayload · = true) log :=
  (validOffer_precedes_confirmedSas hsource hwaiting hrun).trans
    (confirmedSas_precedes_payload hsource hwaiting hrun)

end

end

section

variable {X : Crates} {d : Draw} {s : PairingSession} {c : Call} {log : List (Call × Answer)}
  {out : PairingSession × Except PairingError Answer} {keys : SecretKey} {qr : QrPayload}
  {ecdh : Bytes32}

structure TargetOf (X : Crates) (keys : SecretKey) (qr : QrPayload) (ecdh : Bytes32)
    (s : PairingSession) : Prop where
  role : s.role = .target
  sameKeys : s.keys = keys
  secret : s.sessionSecret = qr.sessionSecret
  sessionId : s.sessionId = deriveSessionId X qr.sessionSecret
  peer : s.peerPubkey = some qr.sourcePubkey
  key : X.generateSharedKey keys qr.sourcePubkey = .ok ecdh
  code : s.sasCode = some (deriveSas X ecdh qr.sessionSecret).1
  input : s.sasInput = some (deriveSas X ecdh qr.sessionSecret).2

lemma targetOf_newTarget {offer : Event} (h : newTarget X d keys qr = .ok (s,offer)) :
    s.state = .confirming ∧ ∃ ecdh, TargetOf X keys qr ecdh s := by
  simp only [newTarget,bind_eq_ok,relabelled_ok] at h
  obtain ⟨ecdh,hkey,e,-,rfl,-⟩ := h
  exact ⟨rfl,ecdh,rfl,rfl,rfl,rfl,rfl,hkey,rfl,rfl⟩

lemma targetOf_outcome (ht : TargetOf X keys qr ecdh s) (h : Outcome X d s c out) :
    TargetOf X keys qr ecdh out.1 := by
  obtain ⟨hr,hk,hs,hid,hp,hkey,hcode,hi⟩ := ht
  cases h with
  | succeeds h =>
    cases h with
    | offer hrd => exact absurd hrd.role (by simp [hr])
    | _ => exact ⟨hr,hk,hs,hid,hp,hkey,hcode,hi⟩
  | fails h =>
    cases h with
    | keyAgreement hrd => exact absurd hrd.role (by simp [hr])
    | _ => exact ⟨hr,hk,hs,hid,hp,hkey,hcode,hi⟩

lemma targetOf_call (d : Draw) (s : PairingSession) (c : Call) (h : TargetOf X keys qr ecdh s) :
    TargetOf X keys qr ecdh (s.call X d c).1 := targetOf_outcome h (outcome_call c)

lemma awaiting_gained (ht : TargetOf X keys qr ecdh s) (h : Outcome X d s c out)
    (hst : out.1.state = .awaitingConfirmation) :
    s.state = .awaitingConfirmation ∨ ∃ a, out.2 = .ok a ∧ ValidTranscript X keys qr (c,a) := by
  cases h with
  | succeeds h =>
    cases h with
    | @sasConfirm e received expected code hr htr hm =>
      obtain ⟨peer,sasInput,hp,hi,rfl⟩ := htr.expected
      obtain rfl : peer = qr.sourcePubkey := by simpa [ht.peer] using hp.symm
      obtain rfl : sasInput = (deriveSas X ecdh qr.sessionSecret).2 := by
        simpa [ht.input] using hi.symm
      have ha := addressed_of_decryptMessage htr.fromPeer.toAcceptable
        htr.message
      rw [ht.sameKeys] at ha
      rw [expectedTranscript,ht.sessionId,ht.sameKeys,ht.secret] at hm
      exact .inr ⟨_,rfl,e,received,ecdh,rfl,ha, htr.fromPeer.peer _ ht.peer,ht.key,hm⟩
    | _ => simp [recordEvent,locked] at hst
  | fails h =>
    cases h with
    | unchanged | keyAgreement => exact .inl hst
    | withoutCode hr hcode => simp [ht.code] at hcode
    | _ => simp at hst

variable {s' : PairingSession} {a : Answer}

lemma confirmedTargetSas_succeeds (hc : ConfirmedTargetSas (c,a)) (h : Succeeds X d s c s' a) :
    s.state = .awaitingConfirmation := by
  cases h with
  | confirmTargetSas hr => exact hr.state
  | _ => simp [ConfirmedTargetSas] at hc

/-- A returned payload, with the facts its event was checked for. -/
def Returned (X : Crates) (keys : SecretKey) (qr : QrPayload) (entry : Call × Answer) : Prop :=
  ∃ event payloadType payload, entry = (.handlePayload event,.payload payloadType payload) ∧
    Addressed X keys event (.payload payloadType payload) ∧ event.pubkey = qr.sourcePubkey

lemma returned_of_handlePayload {e : Event}
    (ht : TargetOf X keys qr ecdh s) (h : Succeeds X d s (.handlePayload e) s' a) :
    Returned X keys qr (.handlePayload e,a) := by
  cases h with
  | payload hready hp hm =>
    exact ⟨_,_,_,rfl,ht.sameKeys ▸ addressed_of_decryptMessage hp.toAcceptable hm, hp.peer _ ht.peer⟩

lemma exchanged_gained (ht : TargetOf X keys qr ecdh s) (h : Outcome X d s c out)
    (hst : out.1.state = .payloadExchanged ∨ out.1.state = .completed) :
    (s.state = .payloadExchanged ∨ s.state = .completed) ∨ ∃ a, out.2 = .ok a ∧ Returned X keys qr (c,a) := by
  cases h with
  | succeeds h =>
    cases h with
    | payload hr hp hm =>
      exact .inr ⟨_,rfl,returned_of_handlePayload ht (.payload hr hp hm)⟩
    | sendComplete hr => exact .inl (.inl hr.state)
    | sendPayload hr | complete hr => exact absurd hr.role (by simp [ht.role])
    | _ => simp [recordEvent,locked] at hst
  | fails h =>
    cases h with
    | unchanged | keyAgreement => exact .inl hst
    | _ => simp [recordEvent] at hst

section

variable {s0 : PairingSession} (htarget : TargetOf X keys qr ecdh s0)
  (hconfirming : s0.state = .confirming) (hrun : Run (PairingSession.call X) s0 log s)
include htarget hconfirming hrun

lemma confirmedTargetSas_precedes_payload : Precedes ConfirmedTargetSas (movesPayload · = true) log := by
  refine hrun.precedes (I := TargetOf X keys qr ecdh) (Q := fun s => s.state = .transferring)
    htarget targetOf_call (by simp [hconfirming]) ?_ ?_
  · intro d s c hs hst
    rcases transferring_gained (outcome_call c) hst with hb | ⟨a,ha,hc⟩
    · exact .inl hb
    · rw [hs.role,if_neg (by simp)] at hc
      exact .inr ⟨a,ha,hc⟩
  · intro d s c a _ ha hm
    exact (movesPayload_succeeds hm (succeeds_of_call ha)).1

lemma validTranscript_precedes_confirmedTargetSas :
    Precedes (ValidTranscript X keys qr) ConfirmedTargetSas log := by
  refine hrun.precedes (I := TargetOf X keys qr ecdh) (Q := fun s => s.state = .awaitingConfirmation)
    htarget targetOf_call (by simp [hconfirming]) ?_ ?_
  · intro d s c hs hst
    exact awaiting_gained hs (outcome_call c) hst
  · intro d s c a _ ha hc
    exact confirmedTargetSas_succeeds hc (succeeds_of_call ha)

lemma validTranscript_precedes_payload : Precedes (ValidTranscript X keys qr) (movesPayload · = true) log :=
  (validTranscript_precedes_confirmedTargetSas htarget hconfirming hrun).trans
    (confirmedTargetSas_precedes_payload htarget hconfirming hrun)

lemma returned_of_completed (hc : s.state = .completed) : ∃ en ∈ log, Returned X keys qr en :=
  hrun.logged (I := TargetOf X keys qr ecdh)
    (Q := fun s => s.state = .payloadExchanged ∨ s.state = .completed) htarget targetOf_call
    (by simp [hconfirming]) (fun _ _ c hs hst => exchanged_gained hs (outcome_call c) hst)
    (.inr hc)

end

end

section

variable {X : Crates} {d : Draw} {s s' : PairingSession} {c : Call} {a : Answer}
  {log : List (Call × Answer)} {out : PairingSession × Except PairingError Answer}

/-- An event the session has published: a message to its peer, which is a payload only if the
call sends one. -/
structure SentBy (X : Crates) (s : PairingSession) (c : Call) (sent : Event) : Prop where
  moved : s.state ≠ .waiting
  pubkey : sent.pubkey = X.publicKey s.keys
  message : ∃ peer message plain nonce, s.peerPubkey = some peer ∧
    sent.tags = [⟨"p",[peer.toHex]⟩] ∧ X.messageText message = .ok plain ∧
    X.encrypt s.keys peer nonce plain = .ok sent.content ∧
    ∀ payloadType payload, message = .payload payloadType payload → c = .sendPayload payloadType payload

variable {sent : Event}

lemma sentBy_of_carries {peer : PublicKey} {msg : PairingMessage}
    (hc : Carries X d s peer msg sent) (hm : s'.state ≠ .waiting)
    (hk : s'.keys = s.keys) (hpeer : s'.peerPubkey = s.peerPubkey)
    (hp : ∀ pt pay, msg = .payload pt pay → c = .sendPayload pt pay) : SentBy X s' c sent := by
  obtain ⟨hkn,⟨plain,ht,he⟩,hb,-⟩ := hc
  have hpu : sent.pubkey = X.publicKey s.keys := congrArg EventBody.pubkey hb
  have hta : sent.tags = [⟨"p",[peer.toHex]⟩] := congrArg EventBody.tags hb
  exact ⟨hm,hk ▸ hpu,peer,msg,plain,d.nonce,hpeer ▸ hkn,hta,ht, hk ▸ he,hp⟩

lemma sentBy_succeeds (hs : a.published = some sent) (h : Succeeds X d s c s' a) : SentBy X s' c sent := by
  cases h with
  | confirmSas hr hc | sendPayload hr hc | sendComplete hr hc
  | abort hr hc =>
    obtain rfl := some.inj hs
    exact sentBy_of_carries hc (by simp) rfl rfl (by simp)
  | _ => simp [Answer.published] at hs

/-- Away from waiting the peer is fixed. -/
lemma sentBy_outcome {c' : Call} (hs : SentBy X s c' sent)
    (h : Outcome X d s c out) : SentBy X out.1 c' sent := by
  obtain ⟨hm,hp,hmessage⟩ := hs
  cases h with
  | succeeds h =>
    cases h with
    | offer hr => exact absurd hr.state hm
    | _ => exact ⟨by simp [recordEvent],hp,hmessage⟩
  | fails h =>
    cases h with
    | unchanged => exact ⟨hm,hp,hmessage⟩
    | keyAgreement hr => exact absurd hr.state hm
    | _ => exact ⟨by simp [recordEvent],hp,hmessage⟩

lemma sentBy_run {start : PairingSession} (hrun : Run (PairingSession.call X) start log s) :
    ∀ en ∈ log, ∀ sent, en.2.published = some sent → SentBy X s en.1 sent := by
  refine hrun.entries (I := fun _ => True)
    (P := fun s en => ∀ sent, en.2.published = some sent → SentBy X s en.1 sent)
    trivial (fun _ _ _ _ => trivial) ?_ ?_
  · intro d s c en _ hb sent hs
    exact sentBy_outcome (hb sent hs) (outcome_call c)
  · intro d s c a _ ha sent hs
    exact sentBy_succeeds hs (succeeds_of_call ha)

/-- The code of a source belongs to its peer. -/
def Locked (X : Crates) (s : PairingSession) : Prop :=
  s.state ≠ .waiting → s.state ≠ .aborted → ∃ peer ecdh, s.peerPubkey = some peer ∧
    X.generateSharedKey s.keys peer = .ok ecdh ∧ s.sasCode = some (deriveSas X ecdh s.sessionSecret).1

lemma locked_outcome (hl : Locked X s) (h : Outcome X d s c out) : Locked X out.1 := by
  cases h with
  | succeeds h =>
    cases h with
    | offer hr hoffered hkey => exact fun _ _ => ⟨_,_,rfl,hkey,rfl⟩
    | abortAlone | abort | aborted => exact fun _ ha => absurd rfl ha
    | confirmSas hr | sendPayload hr | complete hr | sasConfirm hr
    | confirmTargetSas hr | payload hr | sendComplete hr =>
      exact fun _ _ => hl (by simp [hr.state]) (by simp [hr.state])
  | fails h =>
    cases h with
    | unchanged => exact hl
    | keyAgreement hr => exact fun hm => absurd hr.state hm
    | transcript | incomplete => exact fun _ ha => absurd rfl ha
    | withoutCode hr => exact fun _ _ => hl (by simp [hr.state]) (by simp [hr.state])

end

section

variable {X : Crates} {offer : Event} {w : Pair} {sourceKeys targetKeys : SecretKey}
  {src target : PairingSession} {secret ecdh : Bytes32} {qr : QrPayload}

lemma mem_published {log : List (Call × Answer)} {sent : Event} :
    sent ∈ published log ↔ ∃ en ∈ log, en.2.published = some sent := mem_filterMap

lemma run_source (h : Exchange X offer ⟨src,target,[],[]⟩ w) :
    Run (PairingSession.call X) src w.sourceLog w.source := by
  induction h with
  | start => exact .start
  | source _ d c _ ih => exact ih.step d c
  | target _ _ _ _ ih => exact ih

lemma run_target (h : Exchange X offer ⟨src,target,[],[]⟩ w) :
    Run (PairingSession.call X) target w.targetLog w.target := by
  induction h with
  | start => exact .start
  | source _ _ _ _ ih => exact ih
  | target _ d c _ ih => exact ih.step d c

variable {s0 : Pair} {d : Draw} {c : Call} {s : PairingSession} {a : Answer}

lemma Exchange.source_ok (h : Exchange X offer s0 w) (hc : w.source.call X d c = (s,.ok a))
    (hd : ∀ e, c.received = some e → Deliverable X offer w e) :
    Exchange X offer s0 { w with source := s, sourceLog := w.sourceLog ++ [(c,a)] } := by
  simpa [hc] using h.source d c hd

lemma Exchange.target_ok (h : Exchange X offer s0 w) (hc : w.target.call X d c = (s,.ok a))
    (hd : ∀ e, c.received = some e → Deliverable X offer w e) :
    Exchange X offer s0 { w with target := s, targetLog := w.targetLog ++ [(c,a)] } := by
  simpa [hc] using h.target d c hd

variable {event : Event}

lemma deliverable_of_source (hs : event ∈ published w.sourceLog)
    (ho : event.pubkey ≠ X.publicKey w.target.keys) : Deliverable X offer w event :=
  fun _ _ => ⟨fun _ => ⟨event,hs,rfl⟩,fun h => absurd h ho⟩

lemma deliverable_of_target (hs : event ∈ offer :: published w.targetLog)
    (ho : event.pubkey ≠ X.publicKey w.source.keys) : Deliverable X offer w event :=
  fun _ _ => ⟨fun h => absurd h ho,fun _ => ⟨event,hs,rfl⟩⟩

section

variable (hsource : SourceOf X sourceKeys secret src) (htarget : TargetOf X targetKeys qr ecdh target)
  (hqr : qr.sourcePubkey = X.publicKey sourceKeys)
include hsource htarget hqr

/-- A payload the target returns is in an event that the source has published. -/
lemma published_of_returned (h : Exchange X offer ⟨src,target,[],[]⟩ w) :
    ∀ event a, (.handlePayload event,a) ∈ w.targetLog →
      ∃ sent ∈ published w.sourceLog, sent.toEventBody = event.toEventBody := by
  induction h with
  | start => simp
  | source _ d c _ ih =>
    intro event a hen
    obtain ⟨sent,hs,hb⟩ := ih event a hen
    rw [published,filterMap_append]
    exact ⟨sent,mem_append_left _ hs,hb⟩
  | @target w he d c hdeliver ih =>
    intro event a hen
    rcases mem_append.1 hen with hold | hnew
    · exact ih event a hold
    · obtain ⟨ans,ha,heq⟩ := mem_answered.1 hnew
      obtain ⟨rfl,rfl⟩ := Prod.mk.inj heq
      have hk := (run_target he).invariant htarget targetOf_call
      have hke := ((run_source he).invariant hsource sourceOf_call).sameKeys
      obtain ⟨_,_,_,hr,had,hp⟩ := returned_of_handlePayload hk (succeeds_of_call ha)
      obtain ⟨rfl,-⟩ := (Prod.mk.inj hr).imp_left Call.handlePayload.inj
      exact (hdeliver event rfl had.verified had.kind).1 (by rw [hp,hqr,hke])

variable (ideal : Ideal X sourceKeys targetKeys)
include ideal

lemma sent_of_returned (h : Exchange X offer ⟨src,target,[],[]⟩ w) {en : Call × Answer}
    (he : en ∈ w.targetLog) (hr : Returned X targetKeys qr en) :
    w.source.peerPubkey = some (X.publicKey targetKeys) ∧ ∃ pt pay sent received,
        (.sendPayload pt pay,.event sent) ∈ w.sourceLog ∧
        (.handlePayload received,.payload pt pay) ∈ w.targetLog := by
  obtain ⟨event,pt,pay,rfl,ha,hpu⟩ := hr
  obtain ⟨sent,hse,hb⟩ := published_of_returned hsource htarget hqr h event _ he
  obtain ⟨⟨c,a⟩,hl,hp⟩ := mem_published.1 hse
  have hs := sentBy_run (run_source h) _ hl sent hp
  have hk := ((run_source h).invariant hsource sourceOf_call).sameKeys
  obtain ⟨peer,msg,plain,nonce,hpeer,ht,hte,hen,hpa⟩ := hs.message
  -- the tag of the event names the peer of the source, and the target has found itself there
  obtain rfl : peer = X.publicKey targetKeys := by
    have htarget := ha.addressed
    rw [addressedTo,EventBody.tagsNamed,← congrArg EventBody.tags hb,ht] at htarget
    simpa [Tag.content] using htarget
  obtain ⟨plain',hd,hpr⟩ := ha.message
  have hpl : X.decrypt targetKeys (X.publicKey sourceKeys) sent.content = .ok plain :=
    ideal.decrypts nonce plain _ (hk ▸ hen)
  rw [hpu,hqr,← congrArg EventBody.content hb,hpl] at hd
  obtain rfl := ok.inj hd
  obtain rfl := ok.inj (ideal.parses msg plain hte ▸ hpr)
  obtain rfl := hpa pt pay rfl
  refine ⟨hpeer,pt,pay,sent,event,?_,he⟩
  cases a with
  | event e => exact some.inj hp ▸ hl
  | _ => simp [Answer.published] at hp

lemma agree_of_completed (hw : src.state = .waiting) (hcf : target.state = .confirming)
    (hse : qr.sessionSecret = secret) (h : Exchange X offer ⟨src,target,[],[]⟩ w)
    (hs : w.source.state = .completed) (ht : w.target.state = .completed) : Agree X w := by
  have hk := (run_source h).invariant hsource sourceOf_call
  have hke := (run_target h).invariant htarget targetOf_call
  obtain ⟨en,he,hr⟩ := returned_of_completed htarget hcf (run_target h) ht
  obtain ⟨hpeer,hp⟩ := sent_of_returned hsource htarget hqr ideal h he hr
  have hl : Locked X w.source := (run_source h).invariant (fun hm => absurd hw hm)
    fun d s c hl => locked_outcome hl (outcome_call c)
  obtain ⟨peer,key,hpeer',hkey,hcode⟩ := hl (by simp [hs]) (by simp [hs])
  obtain rfl : peer = X.publicKey targetKeys := some.inj (hpeer'.symm.trans hpeer)
  -- both sides have computed the same shared key
  have hsh : X.generateSharedKey sourceKeys (X.publicKey targetKeys) = .ok ecdh := by
    rw [ideal.sharedKey,← hqr]
    exact htarget.key
  obtain rfl : key = ecdh := ok.inj ((hk.sameKeys ▸ hkey).symm.trans hsh)
  refine ⟨?_,?_,⟨_,hcode,?_⟩,hp⟩
  · rw [hpeer,hke.sameKeys]
  · rw [hke.peer,hqr,hk.sameKeys]
  · rw [hke.code,hk.sameSecret,hse]

end

/-- Over all interleavings of a source with the target made from its QR code: the source emits a
payload only after a valid offer and its user's confirmation, the target returns one only after a
valid transcript hash from the source of the QR code and its user's confirmation, neither does so
twice, and if both complete they agree. -/
theorem pairing_safety (ideal : Ideal X sourceKeys targetKeys) {d d' : Draw} {relayUrl : String}
    (htarget : newTarget X d' targetKeys (newSource X d sourceKeys secret relayUrl).2 = .ok (target,offer))
    (h : Exchange X offer ⟨(newSource X d sourceKeys secret relayUrl).1,target,[],[]⟩ w) :
    Precedes (ValidOffer X sourceKeys secret) (movesPayload · = true) w.sourceLog ∧
    Precedes ConfirmedSas (movesPayload · = true) w.sourceLog ∧
    Precedes (ValidTranscript X targetKeys (newSource X d sourceKeys secret relayUrl).2)
      (movesPayload · = true) w.targetLog ∧ Precedes ConfirmedTargetSas (movesPayload · = true) w.targetLog ∧
    w.sourceLog.countP movesPayload ≤ 1 ∧ w.targetLog.countP movesPayload ≤ 1 ∧
    (w.source.state = .completed → w.target.state = .completed → Agree X w) := by
  have hsource : SourceOf X sourceKeys secret (newSource X d sourceKeys secret relayUrl).1 :=
    sourceOf_newSource d relayUrl
  obtain ⟨hconfirming,ecdh,ht⟩ := targetOf_newTarget htarget
  have hr := run_source h
  have hru := run_target h
  refine ⟨validOffer_precedes_payload hsource rfl hr, confirmedSas_precedes_payload hsource rfl hr,
    validTranscript_precedes_payload ht hconfirming hru,
      confirmedTargetSas_precedes_payload ht hconfirming hru,
    countP_movesPayload hr,countP_movesPayload hru,?_⟩
  exact agree_of_completed hsource ht rfl ideal rfl hconfirming rfl h

end

/-- The target of the recorded exchange, as it is created. -/
def sampleTarget : PairingSession where
  role := .target
  state := .confirming
  keys := targetKey
  sessionSecret := sharedSecret
  relayUrls := ["wss://relay.test"]
  peerPubkey := some (samplePublicKey sourceKey)
  sessionId := deriveSessionId sampleCrates sharedSecret
  sasCode := some 494987
  sasInput := some (.ofNat 32 0x72a6344bebfa69278686a7087afbdc20eb28f857bdefb627ecb17b91918d8c32)
  processedIds := ∅
  createdAt := 10^9
  timeout := defaultTimeout

def sourceAt (state : SessionState) (processedIds : Finset EventId) : PairingSession :=
  { sampleSource with
    state := state
    peerPubkey := some (samplePublicKey targetKey)
    sasCode := sampleTarget.sasCode
    sasInput := sampleTarget.sasInput
    processedIds := processedIds }

def targetAt (state : SessionState) (processedIds : Finset EventId) : PairingSession :=
  { sampleTarget with state := state, processedIds := processedIds }

def completedPair : Pair where
  source := sourceAt .completed {completeSent.id,offerEvent.id}
  target := targetAt .completed {payloadSent.id,sasConfirmSent.id}
  sourceLog := [(.handleOffer offerEvent,.sas "494987"),(.confirmSas,.event sasConfirmSent),
    (.sendPayload .nsec "nsec1abc",.event payloadSent),(.handleComplete completeSent,.done)]
  targetLog := [(.handleSasConfirm sasConfirmSent,.sas "494987"),(.confirmTargetSas,.done),
    (.handlePayload payloadSent,.payload .nsec "nsec1abc"),(.sendComplete,.event completeSent)]

lemma sampleTarget_created : newTarget sampleCrates (drawn 1) targetKey
    (newSource sampleCrates (drawn 0) sourceKey sharedSecret "wss://relay.test").2 =
      .ok (sampleTarget,offerEvent) := by
  decide +kernel

lemma sampleCrates_ideal : Ideal sampleCrates sourceKey targetKey where
  sharedKey := by decide +kernel
  decrypts := by
    intro nonce plain t h
    simp only [sampleCrates,okOr_eq_ok,map_eq_some_iff] at h
    obtain ⟨row,hf,rfl⟩ := h
    have hr := find?_some hf
    simp only [decide_eq_true_eq] at hr
    obtain ⟨-,hs,-,rfl⟩ := hr
    have hm := mem_of_find?_eq_some hf
    simp only [recorded,mem_cons,not_mem_nil,or_false] at hm
    rcases hm with rfl | rfl | rfl | rfl
    · exact absurd hs (by decide +kernel)
    · decide +kernel
    · decide +kernel
    · exact absurd hs (by decide +kernel)
  parses := by
    intro msg t h
    simp only [sampleCrates,okOr_eq_ok,map_eq_some_iff] at h
    obtain ⟨row,hf,rfl⟩ := h
    obtain rfl : row.message = msg := by simpa using find?_some hf
    have hm := mem_of_find?_eq_some hf
    simp only [recorded,mem_cons,not_mem_nil,or_false] at hm
    rcases hm with rfl | rfl | rfl | rfl <;> decide +kernel

lemma exchange_completed : Exchange sampleCrates offerEvent ⟨sampleSource,sampleTarget,[],[]⟩
    completedPair := by
  have hs := @Exchange.start sampleCrates offerEvent ⟨sampleSource,sampleTarget,[],[]⟩
  have ho := hs.source_ok (d := drawn 1) (c := .handleOffer offerEvent)
    (s := sourceAt .confirming {offerEvent.id}) (a := .sas "494987") (by decide +kernel)
    fun _ h => some.inj h ▸ deliverable_of_target mem_cons_self (by decide +kernel)
  have hc := ho.source_ok (d := drawn 2) (c := .confirmSas)
    (s := sourceAt .transferring {offerEvent.id}) (a := .event sasConfirmSent) (by decide +kernel)
    (by simp [Call.received])
  have htr := hc.target_ok (d := drawn 2) (c := .handleSasConfirm sasConfirmSent)
    (s := targetAt .awaitingConfirmation {sasConfirmSent.id}) (a := .sas "494987") (by decide +kernel)
    fun _ h => some.inj h ▸ deliverable_of_source (by simp [published,Answer.published]) (by decide +kernel)
  have ha := htr.target_ok (d := drawn 2) (c := .confirmTargetSas)
    (s := targetAt .transferring {sasConfirmSent.id}) (a := .done) (by decide +kernel)
    (by simp [Call.received])
  have hse := ha.source_ok (d := drawn 3) (c := .sendPayload .nsec "nsec1abc")
    (s := sourceAt .payloadExchanged {offerEvent.id}) (a := .event payloadSent) (by decide +kernel)
    (by simp [Call.received])
  have hr := hse.target_ok (d := drawn 3) (c := .handlePayload payloadSent)
    (s := targetAt .payloadExchanged {payloadSent.id,sasConfirmSent.id})
    (a := .payload .nsec "nsec1abc") (by decide +kernel)
    fun _ h => some.inj h ▸ deliverable_of_source (by simp [published,Answer.published]) (by decide +kernel)
  have hco := hr.target_ok (d := drawn 4) (c := .sendComplete)
    (s := targetAt .completed {payloadSent.id,sasConfirmSent.id}) (a := .event completeSent)
    (by decide +kernel) (by simp [Call.received])
  exact hco.source_ok (d := drawn 4) (c := .handleComplete completeSent)
    (s := sourceAt .completed {completeSent.id,offerEvent.id}) (a := .done) (by decide +kernel)
    fun _ h => some.inj h ▸ deliverable_of_target (by simp [published,Answer.published]) (by decide +kernel)

theorem pairing_safety_completed : completedPair.source.state = .completed ∧
    completedPair.target.state = .completed ∧ Agree sampleCrates completedPair := by
  have hs := pairing_safety sampleCrates_ideal sampleTarget_created exchange_completed
  exact ⟨rfl,rfl,hs.2.2.2.2.2.2 rfl rfl⟩

end BuzzSolo.Pairing
