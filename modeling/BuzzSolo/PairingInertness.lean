import BuzzSolo.Pairing

/-! A message that a pairing session rejects leaves it as it was, unless it is a wrong transcript or
a report of failure from the peer: these end the session. -/
namespace BuzzSolo.Pairing

open Checks HexText CallLog List

inductive Begins (X : Crates) : PairingSession → Prop
  | source (d : Draw) (keys : SecretKey) (secret : Bytes32) (relayUrl : String) :
      Begins X (newSource X d keys secret relayUrl).1
  | target {d : Draw} {keys : SecretKey} {qr : QrPayload} {s : PairingSession} {offer : Event}
      (h : newTarget X d keys qr = .ok (s,offer)) : Begins X s

/-- A decryption starts with the shared key of the two parties, so it fails where the shared key
cannot be computed. -/
def DecryptsWithSharedKey (X : Crates) : Prop :=
  ∀ sk pk text plain, X.decrypt sk pk text = .ok plain → ∃ key, X.generateSharedKey sk pk = .ok key

def acceptedIds (log : List (Call × Answer)) : List EventId :=
  log.filterMap fun entry => entry.1.received.map fun event => event.id

/-- The two messages that end a session although they are answered with an error. -/
inductive Ends (X : Crates) (s : PairingSession) : Call → PairingError → Prop
  | transcript {event : Event} {received : String} {expected : Bytes32}
      (htranscribed : Transcribed X s event received expected)
      (hmismatch : FixedBytes.fromHex 32 received ≠ some expected) :
      Ends X s (.handleSasConfirm event) .transcriptMismatch
  | incomplete {event : Event} (hpeer : FromPeer X s event)
      (hmessage : decryptMessage X s event = .ok (.complete false)) : Ends X s (.handleComplete event)
        (.unexpectedMessage "complete(success=true)" "complete(success=false)")

section

variable {X : Crates} {d : Draw} {s s' : PairingSession} {c : Call} {a : Answer} {e : PairingError}
  {out : PairingSession × Except PairingError Answer}

lemma decrypt_of_decryptMessage {e : Event} {msg : PairingMessage} (h : decryptMessage X s e = .ok msg) :
    ∃ plain, X.decrypt s.keys e.pubkey e.content = .ok plain ∧ X.parseMessage plain = .ok msg := by
  simp only [decryptMessage,bind_eq_ok,exists_unit,relabelled_ok] at h
  obtain ⟨-,plain,hd,-,hp⟩ := h
  exact ⟨plain,hd,hp⟩

def Coded (s : PairingSession) : Prop := s.role = .target → s.sasCode ≠ none

lemma coded_begins (h : Begins X s) : Coded s := by
  cases h with
  | source => simp [Coded,newSource]
  | target h =>
    simp only [newTarget,bind_eq_ok] at h
    obtain ⟨ecdh,-,e,-,rfl,-⟩ := h
    simp [Coded]

lemma coded_outcome (hc : Coded s) (h : Outcome X d s c out) : Coded out.1 := by
  cases h with
  | succeeds h =>
    cases h with
    | offer hready => simp [Coded,locked,recordEvent]
    | _ => exact hc
  | fails h => cases h <;> exact hc

/-- What a failed call leaves: with the code in place and the key agreement behind every
decryption, nothing changes unless the session ends. -/
lemma fails_unchanged (hs : DecryptsWithSharedKey X) (hc : Coded s)
    (h : Fails X d s c s' e) : s' = s ∨ s' = { s with state := .aborted } ∧ Ends X s c e := by
  cases h with
  | unchanged => exact .inl rfl
  | keyAgreement hr ho hkey =>
    obtain ⟨sid,hm,-⟩ := ho.message
    obtain ⟨plain,hd,-⟩ := decrypt_of_decryptMessage hm
    obtain ⟨key,hok⟩ := hs _ _ _ _ hd
    simp [hkey] at hok
  | transcript hr htr hmismatch =>
    exact .inr ⟨rfl,.transcript htr hmismatch⟩
  | withoutCode hr hcode => exact absurd hcode (hc hr.role)
  | incomplete hr hp hm => exact .inr ⟨rfl,.incomplete hp hm⟩

lemma processedIds_subset (h : Outcome X d s c out) : s.processedIds ⊆ out.1.processedIds := by
  cases h with
  | succeeds h => cases h <;> simp [locked,recordEvent]
  | fails h => cases h <;> simp [recordEvent]

lemma accepted_recorded {e : Event} (he : c.received = some e)
    (h : Succeeds X d s c s' a) : e.id ∉ s.processedIds ∧ e.id ∈ s'.processedIds := by
  cases h <;> simp only [Call.received,Option.some.injEq,reduceCtorEq] at he
  case offer ho hkey => exact he ▸ ⟨ho.acceptable.fresh,by simp [locked,recordEvent]⟩
  case sasConfirm htr hmatch hcode =>
    exact he ▸ ⟨htr.fromPeer.fresh,by simp [recordEvent]⟩
  all_goals
    rename_i hp hm
    exact he ▸ ⟨hp.fresh,by simp [recordEvent]⟩

lemma succeeds_live (h : Succeeds X d s c s' a) : isTerminal s = false := by
  cases h with
  | abortAlone hl | abort hl | aborted hl => exact hl
  | offer hr | confirmSas hr | sendPayload hr | complete hr | sasConfirm hr
  | confirmTargetSas hr | payload hr | sendComplete hr =>
    simp [isTerminal,hr.state]

lemma fails_ended (he : isTerminal s = true) (h : Fails X d s c s' e) : s' = s := by
  cases h with
  | unchanged => rfl
  | keyAgreement hr | transcript hr | withoutCode hr | incomplete hr =>
    simp [isTerminal,hr.state] at he

lemma call_ended (he : isTerminal s = true) : (s.call X d c).1 = s ∧ ∃ e, (s.call X d c).2 = .error e := by
  cases h : (s.call X d c).2 with
  | ok a => simp [succeeds_live (succeeds_of_call h)] at he
  | error e => exact ⟨fails_ended he (fails_of_call h),e,rfl⟩

end

section

variable {X : Crates} {start s : PairingSession} {log : List (Call × Answer)}

lemma acceptedIds_append {log' : List (Call × Answer)} :
    acceptedIds (log ++ log') = acceptedIds log ++ acceptedIds log' := filterMap_append

lemma mem_processedIds (hrun : Run (PairingSession.call X) start log s) :
    ∀ id ∈ acceptedIds log, id ∈ s.processedIds := by
  induction hrun with
  | start => simp [acceptedIds]
  | @step log s hrun d c ih =>
    intro id hid
    rw [acceptedIds_append,mem_append] at hid
    rcases hid with hold | hnew
    · exact processedIds_subset (outcome_call c) (ih id hold)
    · simp only [acceptedIds,mem_filterMap,mem_answered,Option.map_eq_some_iff] at hnew
      obtain ⟨en,⟨a,ha,rfl⟩,e,he,rfl⟩ := hnew
      exact (accepted_recorded he (succeeds_of_call ha)).2

lemma nodup_acceptedIds (hrun : Run (PairingSession.call X) start log s) : (acceptedIds log).Nodup := by
  induction hrun with
  | start => simp [acceptedIds]
  | @step log s hrun d c ih =>
    rw [acceptedIds_append]
    cases ha : (s.call X d c).2 with
    | error e => simpa [acceptedIds] using ih
    | ok a =>
      cases he : c.received with
      | none => simpa [acceptedIds,he] using ih
      | some ev =>
        have hf := (accepted_recorded he (succeeds_of_call ha)).1
        have hnew : acceptedIds (answered c (.ok a : Except PairingError Answer)) = [ev.id] := by
          simp [acceptedIds,he]
        rw [hnew]
        refine nodup_append.2 ⟨ih,by simp,?_⟩
        intro id hid id' hid' heq
        rw [mem_singleton] at hid'
        exact hf (hid' ▸ heq ▸ mem_processedIds hrun id hid)

/-- In every reachable session: a handler that answers an event with an error leaves the session
exactly as it was, unless the event ends it; no event id is accepted twice; and an ended session
stays ended, with an error for every call. -/
theorem rejected_message_inert (hshared : DecryptsWithSharedKey X) (hbegins : Begins X start)
    (hrun : Run (PairingSession.call X) start log s) :
    (∀ d c event e, c.received = some event → (s.call X d c).2 = .error e →
      (s.call X d c).1 = s ∨ (s.call X d c).1 = { s with state := .aborted } ∧ Ends X s c e) ∧
    (acceptedIds log).Nodup ∧
    (isTerminal s = true → ∀ d c, (s.call X d c).1 = s ∧ ∃ e, (s.call X d c).2 = .error e) := by
  refine ⟨?_,nodup_acceptedIds hrun,fun he d c => call_ended he⟩
  intro d c event e _ her
  have hc : Coded s := hrun.invariant (coded_begins hbegins) fun d s c h => coded_outcome h (outcome_call c)
  exact fails_unchanged hshared hc (fails_of_call her)

end

/-- A message of a recorded exchange: its parties, its text and the event it travelled in. -/
structure Recorded where
  sender : SecretKey
  receiver : SecretKey
  nonce : Bytes32
  message : PairingMessage
  text : String
  event : Event

def sourceKey : SecretKey := .ofNat 32 5
def targetKey : SecretKey := .ofNat 32 7
def sharedSecret : Bytes32 := .ofNat 32 0x1111111111111111111111111111111111111111111111111111111111111111

def offerEvent : Event where
  pubkey := .ofNat 32 0x5cbdf0646e5db4eaa398f365f2ea7a0e3d419b7e0330e39ce92bddedcac4f9bc
  createdAt := 1699999999
  kind := 24134
  tags := [⟨"p",["2f8bde4d1a07209355b4a7250a5c5128e88b84bddc619ab7cba8d569b240efe4"]⟩]
  content := "AgEBAQEBAQEBAQEBAQEBAQEBAQEBAQEBAQEBAQEBAQEBt0VPmBuHvZ9H2UvTfRP2bz+Br88xJoW0WB/ge4lzzYw6hP8ivJ4eOi3yYX/3M478iqxvzv4HfnmOgDAouZ5G1cew7R5ZUg4LgTRfYgS7K8uVmR63mASNGS04HczF4Bf+7dNNMbYoxmDG6GNN9pnauo05FBeoSnnopq57kSZhxy8bjWu6P/3jz0H1sGe11qSJThxj6xOv0PyXBwqWIC8NhUr9"
  id := .ofNat 32 0x1ecfc741ad3a47ae72bd00fa485f2d4485cc4c49df8762dfeffbe7faf49b69cd
  sig := .ofNat 64 0xa549e0bff260f997b9f0e9a21176ed549cddb0ee80b8b1a0d56e5d13ec576d7304633547306656a452acfe974c1c5e69b4ebd33ab506594dfa3444382fdba591

def sasConfirmSent : Event where
  pubkey := .ofNat 32 0x2f8bde4d1a07209355b4a7250a5c5128e88b84bddc619ab7cba8d569b240efe4
  createdAt := 1699999998
  kind := 24134
  tags := [⟨"p",["5cbdf0646e5db4eaa398f365f2ea7a0e3d419b7e0330e39ce92bddedcac4f9bc"]⟩]
  content := "AgICAgICAgICAgICAgICAgICAgICAgICAgICAgICAgICbbsNb9+yZe8F3xwnYR1hUEqWbkpFjGtFILCX0FRoPRlIwQWCZfU+9D6af3zIaiPSqyP8KDjV8/hLpzxL0zCaCWdgs2iVprKeoUnbFIQ/i04xHnAs9oDpbikyPlg8A/ggSeRg2cvflBxv6tDhZF6vaiGw/Ffe2Iw0BgmWX9G7nIH8FUYgda7HytDftcGH84D7rquX3fwGTbcxiuz5ZcDnj4jr"
  id := .ofNat 32 0x8f1e446e15eb93eb2ef92e8ccd728fa89fd7b58681e2f2a8223195e22541d75c
  sig := .ofNat 64 0xafcad053ba25d595bb5d3a06cc566047213c109a8f0f7058207db1481804b3b5f415aa514547777c901882fda6273fa9eff2fc192fe385a8c6b64e41551299c9

def payloadSent : Event :=
  { sasConfirmSent with
    createdAt := 1699999997
    content := "AgMDAwMDAwMDAwMDAwMDAwMDAwMDAwMDAwMDAwMDAwMDjEoV2VfASjTleVJVNv9ydibDO3oDdckBYjmgTOKhSdTWkOeTYc2jRdSrB5bNxaVw59jIoYiTtirn9i/wd8aQ8WtM49AltnEoESjwyn5hE+fxvKP+URNwKNQ0cHaA5Hqmt0I="
    id := .ofNat 32 0x21c43ab4eee657a4f95473cb46775fb40d111bd6cd36cd4bf9894bc3bf4ad19c
    sig := .ofNat 64 0xa0a468aee67187bd0a8076df6b5b5aa44e47f634a67d380e0179ecc6d2ec3c04fc0e1cb986aa5dba46c8d618f506bb016d52644d05ec52b6f357915eed37f88e }

def completeSent : Event :=
  { offerEvent with
    createdAt := 1699999996
    content := "AgQEBAQEBAQEBAQEBAQEBAQEBAQEBAQEBAQEBAQEBAQEHEgDLxnlSvllXVl2+VoBJsnJMmyiBGsdtcAgx7KDJvOKq22ilFEficGp+GptJ4DqqOX5iLzQEU3axfqJZ3uQ3tDD3mg9kTo+w3oMAUT7xH4GZlfTt7QMh8S3s2om4E7I6XU="
    id := .ofNat 32 0x3ece5b5f4037facc3ff2100075176b2d44d96e0940485f56a0a94288ad9a5aaf
    sig := .ofNat 64 0x02b7dd3fb2e4e5098a5855b183c3e572a450ed9ca196f6e8469c54f73b6c68697d211d5935b3b78fb71dc436eb81933d050b4faf10012944f45d3056f01c4da6 }

def recorded : List Recorded :=
  [⟨targetKey,sourceKey,.ofNat 32 0x0101010101010101010101010101010101010101010101010101010101010101,
      .offer "071339f2ef53ec11235e6144106638ecee0a5224abbba1d223230cb4185e2feb" 1,
      "\x7b\"type\":\"offer\",\"session_id\":\"071339f2ef53ec11235e6144106638ecee0a5224abbba1d223230cb4185e2feb\",\"version\":1\x7d",
      offerEvent⟩,
        ⟨sourceKey,targetKey,.ofNat 32 0x0202020202020202020202020202020202020202020202020202020202020202,
      .sasConfirm "fbc87df75d012923ef75571c124b3fcbd39f0d08541727b130f40128572f5480",
      "\x7b\"type\":\"sas-confirm\",\"transcript_hash\":\"fbc87df75d012923ef75571c124b3fcbd39f0d08541727b130f40128572f5480\"\x7d",
      sasConfirmSent⟩,
    ⟨sourceKey,targetKey,.ofNat 32 0x0303030303030303030303030303030303030303030303030303030303030303,
      .payload .nsec "nsec1abc",
      "\x7b\"type\":\"payload\",\"payload_type\":\"nsec\",\"payload\":\"nsec1abc\"\x7d",
      payloadSent⟩,
        ⟨targetKey,sourceKey,.ofNat 32 0x0404040404040404040404040404040404040404040404040404040404040404,
      .complete true, "\x7b\"type\":\"complete\",\"success\":true\x7d",
      completeSent⟩]

def samplePublicKey (sk : SecretKey) : PublicKey :=
  if sk = sourceKey then .ofNat 32 0x2f8bde4d1a07209355b4a7250a5c5128e88b84bddc619ab7cba8d569b240efe4
  else .ofNat 32 0x5cbdf0646e5db4eaa398f365f2ea7a0e3d419b7e0330e39ce92bddedcac4f9bc

/-- The crates as far as the recorded exchange asks them. -/
def sampleCrates : Crates where
  verify event :=
    require (∃ row ∈ recorded, row.event.id = event.id ∧ row.event.sig = event.sig) "invalid signature"
  eventIdNew body :=
    ((recorded.find? fun row => row.event.createdAt = body.createdAt).map fun row => row.event.id).getD
      (.ofNat 32 0)
  signature _ _ id :=
    okOr ((recorded.find? fun row => row.event.id = id).map fun row => row.event.sig) "invalid key"
  publicKey := samplePublicKey
  generateSharedKey sk pk :=
    if (sk,pk) = (sourceKey,samplePublicKey targetKey) ∨ (sk,pk) = (targetKey,samplePublicKey sourceKey)
    then .ok (.ofNat 32 0x605bdb019981718b986d0f07e834cb0d9deb8360ffb7f61df982345ef27a7479)
    else .error "invalid public key"
  encrypt sk pk nonce text :=
    okOr ((recorded.find? fun row => row.nonce = nonce ∧ row.sender = sk ∧
      samplePublicKey row.receiver = pk ∧ row.text = text).map fun row => row.event.content) "empty"
  decrypt sk pk content :=
    okOr ((recorded.find? fun row => row.receiver = sk ∧ samplePublicKey row.sender = pk ∧
      row.event.content = content).map fun row => row.text) "invalid HMAC"
  hkdf32 _ _ info :=
    if info = "nostr-pair-session-id" then
      .ofNat 32 0x071339f2ef53ec11235e6144106638ecee0a5224abbba1d223230cb4185e2feb
    else if info = "nostr-pair-sas-v1" then
      .ofNat 32 0x72a6344bebfa69278686a7087afbdc20eb28f857bdefb627ecb17b91918d8c32
    else .ofNat 32 0xfbc87df75d012923ef75571c124b3fcbd39f0d08541727b130f40128572f5480
  messageText message :=
    okOr ((recorded.find? fun row => row.message = message).map fun row => row.text) "no text"
  parseMessage text :=
    okOr ((recorded.find? fun row => row.text = text).map fun row => row.message) "expected value"

lemma sampleCrates_shared : DecryptsWithSharedKey sampleCrates := by
  intro sk pk t plain h
  simp only [sampleCrates,okOr_eq_ok,Option.map_eq_some_iff] at h
  obtain ⟨row,hf,-⟩ := h
  have hr := find?_some hf
  simp only [decide_eq_true_eq] at hr
  obtain ⟨rfl,rfl,-⟩ := hr
  have hm := mem_of_find?_eq_some hf
  refine ⟨_,if_pos ?_⟩
  simp only [recorded,mem_cons,not_mem_nil,or_false] at hm
  rcases hm with rfl | rfl | rfl | rfl <;> decide +kernel

/-- The draws of the recorded exchange, by the number of the message. -/
def drawn (i : ℕ) : Draw where
  instant := i*10^9
  unixTime := 1700000000
  jitter := i
  nonce := .ofNat 32 (i*0x0101010101010101010101010101010101010101010101010101010101010101)
  aux := .ofNat 32 0

def sampleSource : PairingSession :=
  (newSource sampleCrates (drawn 0) sourceKey sharedSecret "wss://relay.test").1

def offeredSource : PairingSession := (sampleSource.call sampleCrates (drawn 1) (.handleOffer offerEvent)).1

/-- The offer comes a second time, as an abort. -/
theorem rejected_message_inert_replayed :
    (offeredSource.call sampleCrates (drawn 2) (.handleAbort offerEvent)).2 =
      .error (.unexpectedMessage "new event" "duplicate event id") ∧
    (offeredSource.call sampleCrates (drawn 2) (.handleAbort offerEvent)).1 = offeredSource := by
  have he : (offeredSource.call sampleCrates (drawn 2) (.handleAbort offerEvent)).2 =
      .error (.unexpectedMessage "new event" "duplicate event id") := by decide +kernel
  have hrun := Run.step (@Run.start _ _ _ _ _ (PairingSession.call sampleCrates) sampleSource)
    (drawn 1) (.handleOffer offerEvent)
  have hi := (rejected_message_inert sampleCrates_shared (.source ..) hrun).1 (drawn 2)
    (.handleAbort offerEvent) offerEvent _ rfl he
  refine ⟨he,hi.resolve_right ?_⟩
  rintro ⟨-,hen⟩
  cases hen

end BuzzSolo.Pairing
