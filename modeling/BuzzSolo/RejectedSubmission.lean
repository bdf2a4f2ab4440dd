import BuzzSolo.EventJson
import BuzzSolo.LocalRelay

/-! What a rejected submission leaves behind. The checks before the store and the store's
own verification leave the relay as it was; a response that the store takes in and no round
wants is remembered by its id. -/
namespace BuzzSolo.LocalRelay

open Ingest EventStore
open Query (Principal)

structure Submission where
  moment : Moment
  event : Event
  principal : Option Principal

def answers (X : Crates) (R : Relay) (s : State) : List Submission → List Answer
  | [] => []
  | q :: later =>
    (submitFrom X R q.moment s q.event q.principal).2 ::
      answers X R (submitFrom X R q.moment s q.event q.principal).1 later

/-- A submission after which the relay is as if it had not been made. -/
structure NoTrace (X : Crates) (R : Relay) (s : State) (q : Submission) (after : State) : Prop where
  journal : after.store.journal = s.store.journal
  effective : after.store.events = s.store.events
  later : ∀ submissions, answers X R after submissions = answers X R s submissions
  again : ∃ result, (submitFrom X R q.moment after q.event q.principal).2.result = .ok result ∧
    result.accepted = false

/-- A new, verified response from a party with standing that answers no round. -/
structure Swallowed (X : Crates) (R : Relay) (s : State) (q : Submission) : Prop where
  kind : q.event.kind = kindBeaconResponse
  standing : hasStanding X R q.moment s q.principal = true
  verified : Verified X.toNostr q.event
  unseen : q.event.id ∉ s.store.seenIds
  absent : ∀ stored ∈ s.store.events, stored.event.id ≠ q.event.id
  unanswered : recordBeaconResponse X R q.moment.now s.beaconRounds q.event = none

section

variable {X : Crates} {R : Relay} {m : Moment} {s : State} {e : Event} {res : WriteResult}
variable {proj : List Event}

lemma publish_result {ans : WriteResult}
    (h : (publish X R m s e res proj).2.result = .ok ans) : ans = res := by
  unfold publish at h
  split at h
  · split at h
    · simp at h
    · split at h
      · simpa [eq_comm] using h
      · simpa [eq_comm] using h
  · simpa [eq_comm] using h

lemma publish_quiet (h : res.publishLive = false) : publish X R m s e res proj = (s,⟨.ok res,[]⟩) := by
  simp [publish,h]

lemma ephemeral_beaconResponse (h : e.kind = kindBeaconResponse) : isEphemeralKind e.kind = true := by
  rw [h]
  decide

lemma decideEvent_response (h : e.kind = kindBeaconResponse) (es : List StoredEvent) (seen : Bool) :
    decideEvent es seen e = .ephemeral ↔ seen = false ∧ ∀ st ∈ es, st.event.id ≠ e.id := by
  by_cases hkn : seen = true ∨ ∃ st ∈ es, st.event.id = e.id
  · have hd : decideEvent es seen e = .duplicate := by simp [decideEvent,hkn]
    rw [hd]
    constructor
    · simp
    · rintro ⟨hse,ha⟩
      rcases hkn with hk | ⟨st,hm,hid⟩
      · simp [hse] at hk
      · exact absurd hid (ha st hm)
  · obtain ⟨hse,ha⟩ := not_or.1 hkn
    have hse : seen = false := by simpa using hse
    subst hse
    rw [decideEvent_ephemeral_iff es e ha]
    simpa [ephemeral_beaconResponse h] using ha

variable {store : Store}

/-- The store's answer stands unless it took in a response that no round wants. -/
lemma conclude_result {given : WriteResult}
    (h : (conclude X R m s e proj (store,.ok given)).2.result = .ok res) :
    res = given ∨ (e.kind = kindBeaconResponse ∧ given.message = "ephemeral" ∧
      recordBeaconResponse X R m.now s.beaconRounds e = none) := by
  by_cases hr : e.kind = kindBeaconResponse ∧ given.accepted = true ∧ given.message = "ephemeral"
  · cases hre : recordBeaconResponse X R m.now s.beaconRounds e with
    | none => exact .inr ⟨hr.1,hr.2.2,rfl⟩
    | some rounds =>
      simp only [conclude,hr,hre] at h
      exact .inl (publish_result h)
  · simp only [conclude,hr] at h
    exact .inl (publish_result h)

lemma accepted_of_conclude {given : WriteResult}
    (h : (conclude X R m s e proj (store,.ok given)).2.result = .ok res)
    (hg : given.accepted = true) (hm : given.message ≠ "ephemeral") : res.accepted = true := by
  rcases conclude_result h with rfl | ⟨_,he,_⟩
  · exact hg
  · exact absurd he hm

lemma conclude_unanswered (hk : e.kind = kindBeaconResponse)
    (hr : recordBeaconResponse X R m.now s.beaconRounds e = none) :
    conclude X R m s e proj (store,.ok (.ofAccepted e "ephemeral" true)) =
      ({ s with store := store },rejected e answersNoPulse) := by
  simp [conclude,hk,hr,WriteResult.ofAccepted]

lemma conclude_quiet (hl : res.publishLive = false)
    (hr : ¬ (res.accepted = true ∧ res.message = "ephemeral")) :
    conclude X R m s e proj (store,.ok res) = ({ s with store := store },⟨.ok res,[]⟩) := by
  simp only [conclude,hr,and_false,if_false,publish_quiet hl]

variable {q : Submission}

/-- Everything a rejection can leave behind. -/
lemma submitFrom_rejected (h : (submitFrom X R q.moment s q.event q.principal).2.result = .ok res)
    (hr : res.accepted = false) : (submitFrom X R q.moment s q.event q.principal).1 = s ∨
      Swallowed X R s q := by
  by_cases hs : q.event.kind = kindBeaconResponse ∧ hasStanding X R q.moment s q.principal = false
  · left
    simp [submitFrom,hs]
  · cases hp : projectedEvents X R q.moment q.event with
    | error e =>
      left
      cases e <;> simp [submitFrom,hs,hp]
    | ok proj =>
      have ho := accept_outcome X.toCrates (q.moment.append q.event) s.store q.event
      simp only [submitFrom,hs,hp,if_false] at h ⊢
      generalize accept X.toCrates (q.moment.append q.event) s.store q.event = outcome at ho h ⊢
      obtain ⟨store,ans⟩ := outcome
      cases ho with
      | rejected why hv =>
        left
        rw [conclude_quiet rfl (by simp [WriteResult.ofRejected])]
      | failed wr error => simp [conclude] at h
      | duplicate | superseded | stored =>
        simp [accepted_of_conclude h rfl (by simp [WriteResult.ofAccepted])] at hr
      | ephemeral hv hd =>
        right
        rcases conclude_result h with rfl | ⟨hk,_,hre⟩
        · simp [WriteResult.ofAccepted] at hr
        · obtain ⟨hu,ha⟩ := (decideEvent_response hk _ _).1 hd
          exact ⟨hk,by simpa [hk] using hs,hv,by simpa using hu,ha,hre⟩

lemma projectedEvents_response (h : e.kind = kindBeaconResponse) : projectedEvents X R m e = .ok [] := by
  have hk : e.kind ≠ kindNip29CreateGroup := by
    rw [h]
    decide
  simp [projectedEvents,hk]

lemma Swallowed.submitted (h : Swallowed X R s q) : submitFrom X R q.moment s q.event q.principal =
      (⟨{ s.store with seenIds := insert q.event.id s.store.seenIds },s.beaconRounds⟩,
        rejected q.event answersNoPulse) := by
  have hp := @projectedEvents_response X R q.moment q.event h.kind
  have hd : decideEvent s.store.events (q.event.id ∈ s.store.seenIds) q.event = .ephemeral :=
    (decideEvent_response h.kind _ _).2 ⟨by simpa using h.unseen,h.absent⟩
  have ha : accept X.toCrates (q.moment.append q.event) s.store q.event =
      ({ s.store with seenIds := insert q.event.id s.store.seenIds },
        .ok (.ofAccepted q.event "ephemeral" true)) := by
    have hv : verifyEvent X.toNostr q.event = .ok () := h.verified
    simp only [accept,hv,hd]
  simp only [submitFrom,h.standing,hp,ha,Bool.true_eq_false,and_false,if_false,
    conclude_unanswered h.kind h.unanswered]

lemma Swallowed.resubmitted (h : Swallowed X R s q) :
    (submitFrom X R q.moment (submitFrom X R q.moment s q.event q.principal).1 q.event q.principal).2 =
      ⟨.ok (.ofAccepted q.event "duplicate" false),[]⟩ := by
  have hp := @projectedEvents_response X R q.moment q.event h.kind
  have hs : hasStanding X R q.moment
      ⟨{ s.store with seenIds := insert q.event.id s.store.seenIds },s.beaconRounds⟩ q.principal = true :=
    h.standing
  have hv : verifyEvent X.toNostr q.event = .ok () := h.verified
  rw [h.submitted]
  simp only [submitFrom,hs,hp,Bool.true_eq_false,and_false,if_false]
  simp only [accept,hv,decideEvent,Finset.mem_insert,true_or,decide_true,Bool.true_or,if_true]
  rw [conclude_quiet rfl (by simp [WriteResult.ofAccepted])]

end

/-- A rejected submission leaves no trace, unless it is a response that the store took in
before the rounds refused it. -/
theorem rejection_leaves_no_trace (X : Crates) (R : Relay) (s : State) (q : Submission) (result : WriteResult)
    (h : (submitFrom X R q.moment s q.event q.principal).2.result = .ok result)
    (hr : result.accepted = false) :
    NoTrace X R s q (submitFrom X R q.moment s q.event q.principal).1 ↔ ¬ Swallowed X R s q := by
  constructor
  · intro ht hs
    obtain ⟨again,ha,hac⟩ := ht.again
    rw [hs.resubmitted] at ha
    cases ha
    simp [WriteResult.ofAccepted] at hac
  · intro hs
    have hsa := (submitFrom_rejected h hr).resolve_right hs
    rw [hsa]
    exact ⟨rfl,rfl,fun _ => rfl,result,h,hr⟩

/-- The crates on signed events for which no JSON, UUID or error text is asked. -/
def plainCrates (signed : List Event) : Crates where
  toCrates := signedOnly signed fun _ => none
  parseJson := fun _ => none
  jsonText := fun _ => ""
  uuidError := id
  debugText := id

def quietMoment : Moment where
  now := 1700000000
  sign := fun _ => .error "no key"
  append := fun _ => .synced
  sessions := (0,[])
  sign_kind := by simp

def relayKey : PublicKey := thirdKey

def openRelay : Relay := ⟨none,none,some relayKey⟩

def emptyState : State := ⟨⟨[],[],∅,none⟩,[]⟩

def namelessGroup : Event where
  pubkey := firstKey
  createdAt := 1700000000
  kind := 9007
  tags := [⟨"name",["general"]⟩]
  content := ""
  id := .ofNat 32 0x991dd21076a45bf3c14f04e5795dd18f910792cf074ac7b6e7445bbcc184d2b8
  sig := .ofNat 64 0x1ce5bb2075c4134050aa2dccf714cfe84c8d178df8e66314f9061b8e01828f79b5b722d854b1e0a1c4dc3fd6de82ae702033196f4c1028d7f92fd01b3b1d6bf4

/-- A group creation without its id is rejected, and leaves no trace. -/
theorem rejection_leaves_no_trace_group :
    NoTrace (plainCrates [namelessGroup]) openRelay emptyState ⟨quietMoment,namelessGroup,none⟩
      (submitFrom (plainCrates [namelessGroup]) openRelay quietMoment emptyState namelessGroup none).1 := by
  have h : (submitFrom (plainCrates [namelessGroup]) openRelay quietMoment emptyState namelessGroup
      none).2.result = .ok (.ofRejected namelessGroup "missing required h tag") := by decide +kernel
  apply (rejection_leaves_no_trace _ _ _ ⟨quietMoment,namelessGroup,none⟩ _ h rfl).2
  intro hs
  exact absurd hs.kind (by decide)

def lateResponse : Event where
  pubkey := secondKey
  createdAt := 1700000000
  kind := 20701
  tags := [⟨"e",["0000000000000000000000000000000000000000000000000000000000000000"]⟩, ⟨"p",[thirdKey.toHex]⟩]
  content := "\x7b\x7d"
  id := .ofNat 32 0x084088283858e6e50fd21f9edd1faf97bb9e91084aa3011088edce5d51a95023
  sig := .ofNat 64 0xab7f4222fc1aeabb518a11e0ae4ce6749434b1fbce2c16c2e7782cf13fdacd6e8c4400f8c3617e8a46e5ded60a5739fed95cdf293269061e2e4b3509be23ca5a

/-- A response to a pulse nobody knows is rejected, and accepted as a duplicate when it is
sent again. -/
theorem rejected_response_becomes_duplicate : let X := plainCrates [lateResponse]
    let after := (submitFrom X openRelay quietMoment emptyState lateResponse none).1
    (submitFrom X openRelay quietMoment emptyState lateResponse none).2 =
      rejected lateResponse answersNoPulse ∧
    (submitFrom X openRelay quietMoment after lateResponse none).2 =
      ⟨.ok (.ofAccepted lateResponse "duplicate" false),[]⟩ := by
  decide +kernel

end BuzzSolo.LocalRelay
