import BuzzSolo.SingleUse

/-! The body of an HTTP request and the proof that comes with it. The adapter looks for a `payload`
tag, the verifier compares its value with the hash of the body; a tag without a value satisfies
both. -/
namespace BuzzSolo.Authentication

open Checks HexText

variable {event : Event}

variable {X : Crates} {json method : String} {now : ℕ}

lemma payloadMatches_of_verifyNip98EventAt {url : String} {body : Option (List Byte)} {pubkey : PublicKey}
    (hj : X.fromStr json = .ok event)
    (h : verifyNip98EventAt X json url method body now = .ok pubkey) :
    payloadMatches X (tagContent event "payload") body = true := by
  simp only [verifyNip98EventAt,hj,Except.mapError,bind_eq_ok,require_eq_ok,exists_unit,
    Except.ok.injEq,exists_eq_left'] at h
  obtain ⟨-,-,-,_,-,-,_,-,-,hp,-⟩ := h
  exact hp

variable {a : Adapter} {audience : String} {body : List Byte}

/-- What the two checks of the `payload` tag leave of an accepted request: its first `payload`
tag has the hash of the body, or no value at all. -/
lemma payload_of_accepted {prin : AuthenticatedPrincipal} (hj : X.fromStr json = .ok event)
    (h : (authenticateAt X a (.nip98 json method body) audience now).2 = .ok prin) :
    ∃ tag, findTag event "payload" = some tag ∧
    (tag.content = some (X.sha256 body).toHex ∨ tag.content = none) := by
  cases ht : findTag event "payload" with
  | none => simp [authenticateAt,hj,ht] at h
  | some tag =>
    refine ⟨tag,rfl,?_⟩
    cases hv : verifyNip98EventAt X json audience method (some body) now with
    | error e => simp [authenticateAt,hj,ht,hv] at h
    | ok pubkey =>
      have hm := payloadMatches_of_verifyNip98EventAt hj hv
      rw [tagContent,ht,Option.bind_some] at hm
      cases hc : tag.content with
      | none => exact .inr rfl
      | some v =>
        rw [hc,payloadMatches,decide_eq_true_eq] at hm
        exact .inl (congrArg some hm.symm)

/-- The body of an accepted request is bound exactly when the first `payload` tag of its proof has
a value or a later one has the hash. -/
theorem accepted_body_bound (X : Crates) (a : Adapter) (json method audience : String)
    (body : List Byte) (now : ℕ) (principal : AuthenticatedPrincipal) (event : Event)
    (hjson : X.fromStr json = .ok event)
    (h : (authenticateAt X a (.nip98 json method body) audience now).2 = .ok principal) :
    (∃ tag ∈ event.tags, tag.name = "payload" ∧ tag.content = some (X.sha256 body).toHex) ↔
      ∃ first rest, event.tagsNamed "payload" = first :: rest ∧
        (first.content ≠ none ∨ ∃ tag ∈ rest, tag.content = some (X.sha256 body).toHex) := by
  obtain ⟨first,ht,hc⟩ := payload_of_accepted hjson h
  obtain ⟨rest,hr⟩ := List.head?_eq_some_iff.1 ht
  have hm (tag : Tag) : tag ∈ event.tags ∧ tag.name = "payload" ↔ tag = first ∨ tag ∈ rest := by
    rw [← List.mem_cons,← hr]
    simp [EventBody.tagsNamed]
  constructor
  · rintro ⟨tag,ht,hn,hh⟩
    rcases (hm tag).1 ⟨ht,hn⟩ with rfl | hl
    · exact ⟨_,_,hr,.inl (by simp [hh])⟩
    · exact ⟨_,_,hr,.inr ⟨tag,hl,hh⟩⟩
  · rintro ⟨_,_,he,hf⟩
    cases hr.symm.trans he
    rcases hf with hv | ⟨tag,hl,hh⟩
    · obtain ⟨ht,hn⟩ := (hm first).2 (.inl rfl)
      exact ⟨first,ht,hn,hc.resolve_right hv⟩
    · obtain ⟨ht,hn⟩ := (hm tag).2 (.inr hl)
      exact ⟨tag,ht,hn,hh⟩

def queryBody : List Byte := [0x7b,0x22,0x6b,0x69,0x6e,0x64,0x73,0x22,0x3a,0x5b,0x31,0x5d,0x7d]

/-- The crates on signed requests to one relay, with the SHA-256 of the query. -/
def requestCrates (signed : List Event) : Crates :=
  { loginCrates signed with
    sha256 := fun bytes =>
      if bytes = queryBody then
        .ofNat 32 0x99255e489ba610a3b06f746c9b4c89efcd2af533aaead656c816dbc1adc3cd86
      else .ofNat 32 0 }

def boundRequest : Event where
  pubkey := secondKey
  createdAt := 1700000000
  kind := 27235
  tags := [⟨"u",["https://relay.example.com/"]⟩,⟨"method",["POST"]⟩,
    ⟨"payload",["99255e489ba610a3b06f746c9b4c89efcd2af533aaead656c816dbc1adc3cd86"]⟩]
  content := ""
  id := .ofNat 32 0x1ee7ca884908d202ed2cd35f92852d6b37992cc19bcb33653e779836b8204cde
  sig := .ofNat 64 0xea6054624d61d6e6edbb7a84b03524b3fd49dd6a67d6c5b5b6ec25848013fd8fa91ca5fca7d2aa0ff9c35a52193f7ef9b5b4dcfc4b2e971630e7c618c53f2b2a

/-- The same request with a `payload` tag that has no value. -/
def unboundRequest : Event :=
  { boundRequest with
    tags := [⟨"u",["https://relay.example.com/"]⟩,⟨"method",["POST"]⟩,⟨"payload",[]⟩]
    id := .ofNat 32 0x96aa1b3136c43d2dd828d05b848558550f170fb39c2301662ba53e99cf4f2849
    sig := .ofNat 64 0x7901822dfb7afa110bca93f5a4d7cac1cc725739cfa8b3921c991f53277075fcb2283334421bd7686f4f6a9b2b16a6d812fb7f939545ce40380476a210c77f33 }

def requester (event : Event) : AuthenticatedPrincipal :=
  authenticatedNostrPrincipal event.pubkey .nip98 "https://relay.example.com/" 1700000010 event.id

lemma text_of_signed {signed : List Event} (h : event ∈ signed) :
    (requestCrates signed).fromStr (EventStore.eventText event) = .ok event := by
  obtain ⟨t,ht,hr⟩ := @EventStore.roundTrips_signedOnly signed (fun _ => none) event h
  cases ht
  exact hr.1

theorem accepted_body_bound_query : ∃ tag ∈ boundRequest.tags, tag.name = "payload" ∧
      tag.content = some ((requestCrates [boundRequest]).sha256 queryBody).toHex :=
  (accepted_body_bound (requestCrates [boundRequest]) (newAdapter none)
    (EventStore.eventText boundRequest) "POST" "https://relay.example.com/" queryBody 1700000010
    (requester boundRequest) boundRequest (text_of_signed (by simp)) (by decide +kernel)).2
    ⟨⟨"payload",["99255e489ba610a3b06f746c9b4c89efcd2af533aaead656c816dbc1adc3cd86"]⟩,[],by decide,
      .inl (by simp [Tag.content])⟩

/-- One signed request is accepted with the query and with an empty body alike, and no `payload`
tag of it has a value. -/
theorem unbound_body_accepted : (authenticateAt (requestCrates [unboundRequest]) (newAdapter none)
        (.nip98 (EventStore.eventText unboundRequest) "POST" queryBody) "https://relay.example.com/"
        1700000010).2 = .ok (requester unboundRequest) ∧
      (authenticateAt (requestCrates [unboundRequest]) (newAdapter none)
        (.nip98 (EventStore.eventText unboundRequest) "POST" []) "https://relay.example.com/"
        1700000010).2 = .ok (requester unboundRequest) ∧
      ∀ tag ∈ unboundRequest.tags, tag.name = "payload" → tag.content = none := by
  decide +kernel

end BuzzSolo.Authentication
