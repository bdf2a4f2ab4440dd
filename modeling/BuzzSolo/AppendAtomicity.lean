import BuzzSolo.CloudflareArtifacts
import BuzzSolo.EventJson

/-! When an append on the Cloudflare node that throws has already written its rows: the
pulse after the transaction evaluates the owner's declarations and signs, and either can
throw. -/
namespace BuzzSolo.CloudflareNode

open Checks
open Handoff (Json)

section

variable {J : JsCrates} {E : Env} {t : Instant}

@[simp] lemma publishLive_node (e : JsEvent) (sockets : List Socket) (d : Durable) :
    (publishLive J E e d sockets).1.node = d.node := by
  induction sockets generalizing d with
  | nil => rfl
  | cons socket sockets ih =>
    unfold publishLive
    split
    · exact ih d
    · split
      · rfl
      · exact ih d
      · exact ih _

@[simp] lemma registerPulse_node (d : Durable) (e : JsEvent) (hd : Option String) :
    (registerPulse t d e hd).node = d.node := rfl

@[simp] lemma advanceWitness_node (d : Durable) (hd : Option String) :
    (advanceWitness d hd).node = d.node := by
  unfold advanceWitness
  split <;> rfl

lemma emitPulse_node (d : Durable) : (emitPulse J E t d).1.node = d.node := by
  unfold emitPulse
  cases currentPulse J E t d with
  | error e => rfl
  | ok pulse =>
    cases pulse with
    | none => rfl
    | some pulse =>
      have hn := @publishLive_node J E pulse.1 t.sockets (registerPulse t d pulse.1 pulse.2)
      cases hp : publishLive J E pulse.1 (registerPulse t d pulse.1 pulse.2) t.sockets with
      | mk published out =>
        cases out with
        | error | ok => simpa [hp] using hn

lemma pulseVisibleTo_ok {node : Node} {cfg : DeclarationConfig}
    (h : ownerDeclarations J E node = .ok cfg) (rdr : Option String) :
    ∃ vis, pulseVisibleTo J E node rdr = .ok vis := by
  unfold pulseVisibleTo
  split
  · exact ⟨_,rfl⟩
  · cases rdr with
    | none => exact ⟨_,rfl⟩
    | some rdr =>
      simp only [resolvedPeers,resolvedReaders,h,Except.map,bind,Except.bind]
      split
      · exact ⟨_,rfl⟩
      · split <;> exact ⟨_,rfl⟩

lemma publishLive_ok (e : JsEvent) (sockets : List Socket) (d : Durable)
    (h : (e.kind ≠ kindBeaconPulse ∧ e.kind ≠ kindBeaconResponse) ∨
      ∃ cfg, ownerDeclarations J E d.node = .ok cfg) : (publishLive J E e d sockets).2 = .ok () := by
  induction sockets generalizing d with
  | nil => rfl
  | cons socket sockets ih =>
    unfold publishLive
    cases socket.connectionId with
    | none => exact ih d h
    | some connectionId =>
      have hv : ∃ vis, liveVisible J E d e connectionId = .ok vis := by
        unfold liveVisible
        split
        · exact ⟨_,rfl⟩
        · rcases h with ⟨hp,hr⟩ | ⟨cfg,hc⟩
          · simp [hp,hr]
          · split
            · exact pulseVisibleTo_ok hc _
            · exact ⟨_,rfl⟩
      obtain ⟨vis,hv⟩ := hv
      simp only [hv]
      cases vis with
      | false => exact ih d h
      | true => exact ih _ h

lemma ownerDeclarations_error_iff (node : Node) : (∃ e, ownerDeclarations J E node = .error e) ↔
      E.ownerPubkey.getD "" ≠ "" ∧ E.nodeLabel.getD "" ≠ "" ∧ ∃ hd ∈ effectiveEvents node,
        malformedHead J.parseJson (E.ownerPubkey.getD "") (E.nodeLabel.getD "") hd = true := by
  by_cases ha : E.ownerPubkey.getD "" = "" ∨ E.nodeLabel.getD "" = ""
  · simp only [ownerDeclarations,ha]
    constructor
    · simp
    · rintro ⟨ho,hl,_⟩
      exact absurd ha (not_or.2 ⟨ho,hl⟩)
  · obtain ⟨ho,hl⟩ := not_or.1 ha
    simp only [ownerDeclarations,ha,if_false,evaluateDeclarations_error_iff,
      declarationHeadEvents,List.mem_filter,decide_eq_true_eq]
    constructor
    · rintro ⟨hd,⟨hm,_⟩,hb⟩
      exact ⟨ho,hl,hd,hm,hb⟩
    · rintro ⟨_,_,hd,hm,hb⟩
      exact ⟨hd,⟨hm,kind_of_malformedHead hb⟩,hb⟩

lemma emitPulse_error_iff (d : Durable) : (∃ e, (emitPulse J E t d).2 = .error e) ↔
      ∃ secret, witnessSecretFromEnv E = some secret ∧
        ((∃ e, ownerDeclarations J E d.node = .error e) ∨ J.validSecret secret = false) := by
  cases hs : witnessSecretFromEnv E with
  | none => simp [emitPulse,currentPulse,hs]
  | some secret =>
    cases hc : ownerDeclarations J E d.node with
    | error e => simp [emitPulse,currentPulse,hs,hc]
    | ok cfg =>
      cases hv : J.validSecret secret with
      | false => simp [emitPulse,currentPulse,hs,hc,finalizeEvent,hv,Except.map]
      | true =>
        have hl := publishLive_ok (J.sign secret (pulseTemplate J E t d cfg)) t.sockets
          (registerPulse t d (J.sign secret (pulseTemplate J E t d cfg))
            ((journalHead d.node).map Row.eventId)) (.inr ⟨cfg,hc⟩)
        have he : (emitPulse J E t d).2 = .ok () := by
          simp only [emitPulse,currentPulse,hs,hc,finalizeEvent,hv,if_true,Except.map]
          split
          next published e hp => simp [hp] at hl
          · rfl
        simp [he,hv]

end

structure SameRows (before after : Node) : Prop where
  journal : after.eventJournal = before.eventJournal
  accepted : after.acceptedEventIds = before.acceptedEventIds
  effective : after.eventJournal.filter Row.effective = before.eventJournal.filter Row.effective

lemma sameRows_of_node {bef aft : Node} (h : aft = bef) : SameRows bef aft := by
  rw [h]
  exact ⟨rfl,rfl,rfl⟩

def nextEffective (node : Node) (event : JsEvent) : List JsEvent :=
  (node.eventJournal.filter fun row => row.effective &&
    (replacementKey event = none || row.replacementKey ≠ replacementKey event)).map Row.event ++ [event]

variable {node stored : Node} {event : JsEvent} {source : Option String}

variable (h : storeEvent node event (replacementKey event) source = .ok stored)
include h

lemma effectiveEvents_storeEvent : effectiveEvents stored = nextEffective node event := by
  obtain ⟨seq,hr,_⟩ := storeEvent_ok h
  have hs : Row.event ∘ retireRow (replacementKey event) = Row.event :=
    funext fun row => retireRow_event _ row
  have hk : (Row.effective ∘ retireRow (replacementKey event)) = fun row => row.effective &&
      (replacementKey event = none || row.replacementKey ≠ replacementKey event) := by
    funext row
    rw [Bool.eq_iff_iff]
    simpa using retireRow_effective (replacementKey event) row
  simp only [effectiveEvents,hr,retire,List.filter_append,List.filter_map, List.map_append,List.map_map,hs,hk]
  rfl

lemma storeEvent_adds_row : stored.eventJournal ≠ node.eventJournal := by
  obtain ⟨seq,hr,_⟩ := storeEvent_ok h
  intro hs
  have hl := congrArg List.length (hr.symm.trans hs)
  simp [retire] at hl

omit h

section

variable {J : JsCrates} {E : Env} {t : Instant} {d : Durable} {event : JsEvent}

lemma afterStore_node : (afterStore J E t d event).1.node = d.node := by
  have hn := @publishLive_node J E event t.sockets d
  unfold afterStore
  split
  next published e hp =>
    rw [hp] at hn
    exact hn
  next published hp =>
    rw [hp] at hn
    have hem := @emitPulse_node J E t published
    split
    next emitted e he =>
      rw [he] at hem
      exact hem.trans hn
    next emitted he =>
      rw [he] at hem
      exact hem.trans hn

lemma afterStore_answer {res : WriteResult} (h : (afterStore J E t d event).2 = .ok res) :
    res = ⟨event.id,true,.stored⟩ := by
  unfold afterStore at h
  split at h
  · simp at h
  · split at h
    · simp at h
    · cases h
      rfl

/-- After the transaction the call throws exactly when the pulse does. -/
lemma afterStore_error_iff (hk : isEphemeralKind event.kind = false) :
    (∃ e, (afterStore J E t d event).2 = .error e) ↔ ∃ secret, witnessSecretFromEnv E = some secret ∧
        ((∃ e, ownerDeclarations J E d.node = .error e) ∨ J.validSecret secret = false) := by
  have hpl : event.kind ≠ kindBeaconPulse ∧ event.kind ≠ kindBeaconResponse := by
    constructor
    all_goals
      intro h
      rw [h] at hk
      exact absurd hk (by decide)
  have hl := @publishLive_ok J E event t.sockets d (.inl hpl)
  have hn := @publishLive_node J E event t.sockets d
  generalize hp : publishLive J E event d t.sockets = outcome at hl hn
  obtain ⟨published,res⟩ := outcome
  subst hl
  have hem := @emitPulse_error_iff J E t published
  rw [hn] at hem
  rw [← hem]
  simp only [afterStore,hp]
  cases he : emitPulse J E t published with
  | mk emitted ans => cases ans <;> simp

lemma publishThen_node (res : WriteResult) : (publishThen J E t d event res).1.node = d.node := by
  have hn := @publishLive_node J E event t.sockets d
  unfold publishThen
  split
  next hp => rwa [hp] at hn
  next hp => rwa [hp] at hn

lemma recordBeaconResponse_node {recorded : Durable}
    (h : recordBeaconResponse J E t d event = some recorded) : recorded.node = d.node := by
  simp only [recordBeaconResponse,bind,Option.bind_eq_some_iff] at h
  obtain ⟨_,_,_,_,_,_,_,_,h⟩ := h
  cases h
  rfl

lemma applyResponse_node (prin : Option String) : (applyResponse J E t d event prin).1.node = d.node := by
  unfold applyResponse
  split
  · rfl
  · rfl
  · split
    · rfl
    next recorded hr =>
      rw [publishThen_node]
      exact recordBeaconResponse_node hr

/-- An append that reaches the transaction and commits. -/
structure Commits (node : Node) (event : JsEvent) (source : Option String) (stored : Node) : Prop where
  fresh : ∀ row ∈ node.acceptedEventIds, row.1 ≠ event.id
  durable : isEphemeralKind event.kind = false
  wins : loses node event = false
  stores : storeEvent node event (replacementKey event) source = .ok stored

lemma not_known_iff {node : Node} : (node.acceptedEventIds.any fun row => row.1 = event.id) = false ↔
      ∀ row ∈ node.acceptedEventIds, row.1 ≠ event.id := by
  simp

variable {src : Option String}

lemma Commits.applyEvent {stored : Node} (prin : Option String)
    (hv : J.verifySafely event = true) (h : Commits d.node event src stored) :
    d.applyEvent J E t event src prin = afterStore J E t { d with node := stored } event := by
  have hr : event.kind ≠ kindBeaconResponse := by
    intro hk
    have hd := h.durable
    rw [hk] at hd
    exact absurd hd (by decide)
  simp [Durable.applyEvent,hv,not_known_iff.2 h.fresh,hr,h.durable,h.wins,h.stores]

lemma applyEvent_node_of_error {prin : Option String} {thrown : Thrown}
    (h : (d.applyEvent J E t event src prin).2 = .error thrown)
    (hn : ¬ ∃ stored, Commits d.node event src stored) :
    (d.applyEvent J E t event src prin).1.node = d.node := by
  unfold Durable.applyEvent at h ⊢
  split_ifs at h ⊢ with hv hk hr he hl
  · exact applyResponse_node prin
  · exact publishThen_node _
  · split at h
    · rfl
    · simp at h
  · cases hs : storeEvent d.node event (replacementKey event) src with
    | error e => rfl
    | ok stored =>
      exact absurd ⟨stored,not_known_iff.1 (Bool.eq_false_iff.2 hk),by simpa using he, by simpa using hl,hs⟩
        hn

end

/-- The environment of the ingest tables inside the object: the pulse step is everything that
follows the transaction. -/
def ingestEnv (J : JsCrates) (E : Env) (t : Instant) (d : Durable) (event : JsEvent) : NodeEnv where
  verifySafely := J.verifySafely
  recordBeaconResponse := fun node principal event =>
    (applyResponse J E t { d with node := node } event principal).2.toOption.any WriteResult.accepted
  emitPulse := fun stored =>
    match (afterStore J E t { d with node := stored } event).2 with
    | .error _ => .error "thrown after the commit"
    | .ok _ => .ok ()

/-- On the tables and in its answer the object does what ingest alone does in that
environment. -/
lemma applyEvent_refines_ingest (J : JsCrates) (E : Env) (t : Instant) (d : Durable)
    (ev : JsEvent) (src prin : Option String) (hk : isEphemeralKind ev.kind = false) :
    (d.applyEvent J E t ev src prin).1.node =
      (applyEvent (ingestEnv J E t d ev) d.node ev src prin).1 ∧
    (d.applyEvent J E t ev src prin).2.toOption =
      (applyEvent (ingestEnv J E t d ev) d.node ev src prin).2.toOption := by
  have hre : ev.kind ≠ kindBeaconResponse := by
    intro h
    rw [h] at hk
    exact absurd hk (by decide)
  unfold Durable.applyEvent applyEvent
  simp only [hk,ingestEnv]
  split_ifs with hv hkn hf hl
  · exact ⟨rfl,rfl⟩
  · exact ⟨rfl,rfl⟩
  · exact hf.elim
  · cases insertAccepted ev.id .superseded d.node.acceptedEventIds <;> exact ⟨rfl,rfl⟩
  · cases storeEvent d.node ev (replacementKey ev) src with
    | error e => exact ⟨rfl,rfl⟩
    | ok stored =>
      have hn := @afterStore_node J E t { d with node := stored } ev
      have ha := @afterStore_answer J E t { d with node := stored } ev
      cases hr : (afterStore J E t { d with node := stored } ev).2 with
      | error e => exact ⟨by simpa [hr] using hn,by simp [hr,Except.toOption]⟩
      | ok res =>
        have hs := ha hr
        subst hs
        exact ⟨by simpa [hr] using hn,by simp [hr,Except.toOption]⟩

/-- The tables hold over every run of the object, calls that throw included. -/
theorem tables_of_calls (J : JsCrates) (E : Env) (d : Durable)
    (calls : List (Instant × JsEvent × Option String × Option String)) :
    Tables (calls.foldl (fun d c => (Durable.applyEvent J E c.1 d c.2.1 c.2.2.1 c.2.2.2).1)
      { d with node := .empty }).node := by
  induction calls using List.reverseRecOn with
  | nil => exact tables_empty
  | append_singleton calls c ih =>
    obtain ⟨t,event,src,prin⟩ := c
    rw [List.foldl_append]
    generalize calls.foldl _ _ = d at ih
    cases hk : isEphemeralKind event.kind with
    | false =>
      have hr := (applyEvent_refines_ingest J E t d event src prin hk).1
      exact hr ▸ ih.applyEvent _ event src prin
    | true =>
      -- what is not stored is at most handed on
      change Tables (d.applyEvent J E t event src prin).1.node
      unfold Durable.applyEvent
      split_ifs
      · exact ih
      · exact ih
      · rwa [applyResponse_node]
      · rwa [publishThen_node]

/-- A witness secret is set, and it is no valid scalar or a declaration among the heads that
governs the node is malformed. -/
def PulseThrows (J : JsCrates) (E : Env) (heads : List JsEvent) : Prop :=
  ∃ secret, witnessSecretFromEnv E = some secret ∧
    ((E.ownerPubkey.getD "" ≠ "" ∧ E.nodeLabel.getD "" ≠ "" ∧ ∃ head ∈ heads,
      malformedHead J.parseJson (E.ownerPubkey.getD "") (E.nodeLabel.getD "") head = true) ∨
    J.validSecret secret = false)

/-- An append is all or nothing, unless it commits and its pulse throws afterwards. -/
theorem append_all_or_nothing (J : JsCrates) (E : Env) (t : Instant) (d : Durable) (event : JsEvent)
    (source principal : Option String) (hv : J.verifySafely event = true) :
    (∀ thrown, (d.applyEvent J E t event source principal).2 = .error thrown →
      SameRows d.node (d.applyEvent J E t event source principal).1.node) ↔
    ¬ ((∃ stored, Commits d.node event source stored) ∧ PulseThrows J E (nextEffective d.node event)) := by
  by_cases hc : ∃ stored, Commits d.node event source stored
  · obtain ⟨stored,hs⟩ := hc
    have he := @afterStore_error_iff J E t { d with node := stored } event hs.durable
    simp only [ownerDeclarations_error_iff,effectiveEvents_storeEvent hs.stores] at he
    have hn := @afterStore_node J E t { d with node := stored } event
    rw [hs.applyEvent principal hv]
    constructor
    · rintro hsa ⟨_,hth⟩
      obtain ⟨thrown,ht⟩ := he.2 hth
      have hjournal := (hsa thrown ht).journal
      rw [hn] at hjournal
      exact storeEvent_adds_row hs.stores hjournal
    · intro hno thrown ht
      exact absurd ⟨⟨stored,hs⟩,he.1 ⟨thrown,ht⟩⟩ hno
  · constructor
    · rintro _ ⟨hco,_⟩
      exact hc hco
    · intro _ thrown ht
      exact sameRows_of_node (applyEvent_node_of_error ht hc)

/-- The libraries on the given signed events, where no content is JSON and no pulse is
signed. -/
def textCrates (signed : List Event) : JsCrates where
  parseJson := fun _ => none
  stringify := fun _ => ""
  safeInteger := fun _ => none
  verifySafely := fun event => event ∈ signed.map wire
  validSecret := fun _ => true
  publicKey := fun _ => thirdKey.toHex
  sign := fun _ template => ⟨"","",template.createdAt,template.kind,template.tags,template.content,""⟩
  matchFilters := fun _ _ => false

/-- A node with an owner, a label and a witness secret that requires authentication. -/
def cloudEnv : Env where
  nodeSecret := some "0000000000000000000000000000000000000000000000000000000000000003"
  ownerPubkey := some firstKey.toHex
  nodeLabel := some "cloud"
  requireAuth := some "1"
  replicationPeers := none
  replicationReaders := none
  replicationStreams := none

def emptyDurable (node : Node) : Durable := ⟨node,none,none,none,[],[],[],[],[]⟩

def brokenGrant : Event where
  pubkey := firstKey
  createdAt := 1700000000
  kind := 30700
  tags := [⟨"d",["admit/phone"]⟩, ⟨"n",["cloud"]⟩]
  content := "oops"
  id := .ofNat 32 0xd55eab25c0d5a5f752fd0a3ee8a6dc7c89b0cf3720f43973a6d39e3658558b92
  sig := .ofNat 64 0x75340a0b2aa9605fdbde87b8246df6acccd0903ac65e767b24a22f3113a5452611f8eeda8cec4a83e9d73a1d747e7d64649bb9dc458671127d76787a1d272d78

def strangerResponse : Event where
  pubkey := secondKey
  createdAt := 1700000100
  kind := 20701
  tags := [⟨"e",["0000000000000000000000000000000000000000000000000000000000000000"]⟩]
  content := "none"
  id := .ofNat 32 0x92a4f209487dce1b53b677bbb594a4202a6e32e07fb04d80eb116fcef4d55e02
  sig := .ofNat 64 0x9c66177c2b99ca1c6b043c09bf8227adc7525a689f5aecc34061d40824ac4adeba6feaaa7a1168a108db0c66081e76327aa9dc7488a3d2c2f9a5b759a87bbd94

/-- An object whose journal holds a grant that cannot be read. -/
def brokenDurable : Durable := emptyDurable ⟨[(brokenGrant.id.toHex,.stored)],
  [⟨1,brokenGrant.id.toHex,wire brokenGrant,replacementKey (wire brokenGrant),true,none⟩],[]⟩

/-- When an answer to a pulse arrives there, the call throws as it asks who may answer, and no
row has been written. -/
theorem append_all_or_nothing_response :
    (brokenDurable.applyEvent (textCrates [brokenGrant,strangerResponse]) cloudEnv ⟨1700000100,[]⟩
        (wire strangerResponse) none (some strangerResponse.pubkey.toHex)).2 =
      .error (.malformedDeclaration ⟨"admit/phone",brokenGrant.id.toHex,"content is not JSON"⟩) ∧
    SameRows brokenDurable.node
      (brokenDurable.applyEvent (textCrates [brokenGrant,strangerResponse]) cloudEnv ⟨1700000100,[]⟩
        (wire strangerResponse) none (some strangerResponse.pubkey.toHex)).1.node := by
  have ht : (brokenDurable.applyEvent (textCrates [brokenGrant,strangerResponse]) cloudEnv
      ⟨1700000100,[]⟩ (wire strangerResponse) none (some strangerResponse.pubkey.toHex)).2 =
      .error (.malformedDeclaration ⟨"admit/phone",brokenGrant.id.toHex,"content is not JSON"⟩) := by
    decide +kernel
  have hv : (textCrates [brokenGrant,strangerResponse]).verifySafely (wire strangerResponse) =
      true := by decide +kernel
  have hr := append_all_or_nothing (textCrates [brokenGrant,strangerResponse]) cloudEnv
    ⟨1700000100,[]⟩ brokenDurable (wire strangerResponse) none (some strangerResponse.pubkey.toHex)
    hv
  refine ⟨ht,hr.2 ?_ _ ht⟩
  rintro ⟨⟨stored,hc⟩,_⟩
  have he : isEphemeralKind (wire strangerResponse).kind = true := by decide
  exact absurd (he.symm.trans hc.durable) (by decide)

/-- The grant that cannot be read is itself committed before the pulse throws on it. -/
theorem malformed_grant_is_kept : let J := textCrates [brokenGrant]
    let d := emptyDurable Node.empty
    let call := d.applyEvent J cloudEnv ⟨1700000000,[]⟩ (wire brokenGrant) none none
    J.verifySafely (wire brokenGrant) = true ∧
    call.2 = .error (.malformedDeclaration ⟨"admit/phone",brokenGrant.id.toHex,"content is not JSON"⟩) ∧
    journal d.node = [] ∧ journal call.1.node = [wire brokenGrant] := by
  decide +kernel

end BuzzSolo.CloudflareNode
