import BuzzSolo.EventJson
import BuzzSolo.Handoff

/-! Agent memories, encrypted replaceable events whose `d` tag is derived from a slug. The reader
selects the head on its own; the relay replaces events as they arrive. The two agree. -/
namespace BuzzSolo.Engram

open Checks Ingest LatestRegister EventStore List
open Handoff (Json field isLowerHex)

def kindAgentEngram : ℕ := 30174
def coreSlug : String := "core"
def memPrefix : String := "mem/"
def slugMaxLen : ℕ := 255
def segmentMaxLen : ℕ := 64
def u64Max : ℕ := 2^64 - 1

inductive EngramError
  | invalidSlug (why : String)
  | invalidBody (why : String)
  | invalidEnvelope (why : String)
  | decrypt
  deriving DecidableEq

/-- `debug` is the quoted form of a text in messages; `parseStrictJson` reads a JSON document in
which no object repeats a member. -/
structure Crates where
  debug : String → String
  parseStrictJson : String → Except EngramError Json

/-- What the secret key of one side and the public key of the other give: the keyed hash of a
slug and the decryption of a content. -/
structure Conversation where
  mac : String → HexText.FixedBytes 32
  decrypt : String → Option String

def Conversation.dTag (C : Conversation) (slug : String) : String := (C.mac slug).toHex

def isLowerAlnum (c : Char) : Bool := ('a' ≤ c && c ≤ 'z') || ('0' ≤ c && c ≤ '9')

def validateSegment (s : String) : Except String Unit := do
  require (s ≠ "") "empty"
  require (s.utf8ByteSize ≤ segmentMaxLen) "longer than 64 bytes"
  require (s.toList.head?.all isLowerAlnum = true) "first byte must be [a-z0-9]"
  require (s.toList.tail.all (fun c => isLowerAlnum c || c = '_' || c = '-') = true)
    "only [a-z0-9_-] allowed after the first byte"

def validateSegments (K : Crates) : ℕ → List String → Except EngramError Unit
  | _,[] => .ok ()
  | i,segment :: rest => do
    (validateSegment segment).mapError fun why =>
      .invalidSlug ("segment " ++ toString i ++ " (" ++ K.debug segment ++ "): " ++ why)
    validateSegments K (i + 1) rest

def stripMem (slug : String) : Option String :=
  if memPrefix.toList.isPrefixOf slug.toList then
    some (String.ofList (slug.toList.drop memPrefix.toList.length))
  else none

def validateSlug (K : Crates) (slug : String) : Except EngramError Unit :=
  if slug = coreSlug then .ok ()
  else do
    require (slug.utf8ByteSize ≤ slugMaxLen)
      (.invalidSlug ("length " ++ toString slug.utf8ByteSize ++ " exceeds " ++ toString slugMaxLen))
    let rest ← okOr (stripMem slug) (.invalidSlug ("expected `core` or `mem/…`, got " ++ K.debug slug))
    require (rest ≠ "") (.invalidSlug "empty after `mem/`")
    validateSegments K 1 ((rest.toList.splitOn '/').map String.ofList)

inductive Body
  | core (profile : String)
  /-- A memory without a value is a tombstone. -/
  | memory (slug : String) (value : Option String)
  deriving DecidableEq

def Body.slug : Body → String
  | .core _ => coreSlug
  | .memory slug _ => slug

def textMember (members : List (String × Json)) (name absent : String) : Except EngramError String :=
  match field members name with
  | some (.string value) => .ok value
  | some _ => .error (.invalidBody ("`" ++ name ++ "` is not a string"))
  | none => .error (.invalidBody absent)

def Body.fromJsonBytes (K : Crates) (text : String) : Except EngramError Body := do
  let raw ← K.parseStrictJson text
  let members ← okOr raw.asObject (.invalidBody "top-level not an object")
  let slug ← textMember members "slug" "missing `slug`"
  validateSlug K slug
  if slug = coreSlug then
    let profile ← textMember members "profile" "core missing `profile`"
    .ok (.core profile)
  else match field members "value" with
    | some (.string value) => .ok (.memory slug (some value))
    | some .null => .ok (.memory slug none)
    | some _ => .error (.invalidBody "`value` is not a string")
    | none => .error (.invalidBody "memory missing `value`")

def soleTag (event : EventBody) (name : String) : Except EngramError String := do
  let tag ← okOr (event.tagsNamed name).head? (.invalidEnvelope ("missing " ++ name ++ " tag"))
  let value ← okOr tag.content (.invalidEnvelope ("missing " ++ name ++ " tag"))
  require ((event.tagsNamed name).tail = []) (.invalidEnvelope ("multiple " ++ name ++ " tags"))
  .ok value

def eqIgnoreAsciiCase (a b : String) : Bool := a.toList.map Char.toLower = b.toList.map Char.toLower

/-- The body of an event that passes every rule of head selection but its signature. -/
def validateAndDecrypt (K : Crates) (C : Conversation) (event : Event)
    (expectedAgent expectedOwner : PublicKey) : Except EngramError Body := do
  require (event.kind = kindAgentEngram) (.invalidEnvelope ("wrong kind: " ++ toString event.kind))
  require (event.pubkey = expectedAgent) (.invalidEnvelope "pubkey != expected_agent")
  let dValue ← soleTag event.toEventBody "d"
  require (isLowerHex dValue 64 = true) (.invalidEnvelope "d tag must be 64 lowercase hex chars")
  let pValue ← soleTag event.toEventBody "p"
  require (eqIgnoreAsciiCase pValue expectedOwner.toHex = true) (.invalidEnvelope "p tag != expected_owner")
  let plaintext ← okOr (C.decrypt event.content) .decrypt
  let body ← Body.fromJsonBytes K plaintext
  require (C.dTag body.slug = dValue) (.invalidEnvelope "body slug does not re-derive to d tag")
  .ok body

/-- The later of two heads; at equal times the one with the smaller id. -/
def laterHead (a b : Event) : Event :=
  if a.createdAt < b.createdAt then b
  else if b.createdAt < a.createdAt then a
  else if b.id.toHex < a.id.toHex then b else a

def selectHead : List Event → Option Event
  | [] => none
  | event :: events => some (events.foldl laterHead event)

/-- The time of a new write; the addition saturates. -/
def monotonicCreatedAt (now : ℕ) (priorHead : Option ℕ) : ℕ :=
  match priorHead with
  | some t => max now (min (t + 1) u64Max)
  | none => now

def Valid (N : Nostr) (K : Crates) (C : Conversation) (agent owner : PublicKey) (event : Event) : Prop :=
  Verified N event ∧ ∃ body, validateAndDecrypt K C event agent owner = .ok body

def memoryKey (agent : PublicKey) (d : String) : ReplacementKey := .parameterized agent kindAgentEngram d

section

variable {N : Nostr} {K : Crates} {C : Conversation} {ag ow : PublicKey} {e : Event}

lemma Valid.replacementKey (h : Valid N K C ag ow e) :
    Ingest.replacementKey e = some (memoryKey ag (identifier e)) := by
  obtain ⟨-,body,hb⟩ := h
  simp only [validateAndDecrypt,bind_eq_ok,require_eq_ok,exists_unit] at hb
  obtain ⟨hk,ha,-⟩ := hb
  simp [Ingest.replacementKey,memoryKey,hk,ha,kindAgentEngram]

lemma Valid.durable (h : Valid N K C ag ow e) : isEphemeralKind e.kind = false := by
  obtain ⟨-,body,hb⟩ := h
  simp only [validateAndDecrypt,bind_eq_ok,require_eq_ok,exists_unit] at hb
  rw [hb.1]
  rfl

end

section

lemma laterHead_eq (a b : Event) : laterHead a b = if rank a < rank b then b else a := by
  have hw := replacementCandidateWins_iff b a
  simp only [replacementCandidateWins] at hw
  unfold laterHead
  simp only [← hw]
  rcases lt_trichotomy a.createdAt b.createdAt with hlt | heq | hgt
  · simp [hlt]
  · simp [heq]
  · have hn : ¬a.createdAt < b.createdAt := by omega
    have hne : ¬b.createdAt = a.createdAt := by omega
    simp [hgt,hne]

/-- The reader's choice is the first event of the highest rank. -/
lemma selectHead_eq_argmax (es : List Event) : selectHead es = es.argmax rank := by
  cases es with
  | nil => rfl
  | cons e es =>
    show some (es.foldl laterHead e) = _
    induction es using reverseRecOn with
    | nil => rfl
    | append_singleton es last ih =>
      rw [← cons_append,argmax_concat,← ih,foldl_append]
      simp only [foldl_cons,laterHead_eq]
      split <;> rfl

lemma selectHead_spec {es : List Event} (hne : es ≠ []) :
    ∃ hd ∈ es, selectHead es = some hd ∧ ∀ e ∈ es, rank e ≤ rank hd := by
  rw [selectHead_eq_argmax]
  cases hm : es.argmax rank with
  | none => exact absurd (argmax_eq_none.1 hm) hne
  | some hd =>
    exact ⟨hd,argmax_mem hm,rfl,fun e he => le_of_mem_argmax he hm⟩

lemma lt_monotonicCreatedAt {t : ℕ} (now : ℕ) (ht : t < u64Max) : t < monotonicCreatedAt now (some t) := by
  simp only [monotonicCreatedAt]
  omega

end

/-- The effective event of the memory is the head, up to its signature, and the only event of the
memory; without a second signature of one event it is the head itself. -/
structure Agrees (agent : PublicKey) (d : String) (events : List Event) (head : Event)
    (effective : List StoredEvent) (current : StoredEvent) : Prop where
  current_mem : current ∈ effective
  same_unsigned : unsigned current.event = unsigned head
  sole : ∀ s ∈ effective, replacementKey s.event = some (memoryKey agent d) → s = current
  same : (∀ a ∈ events, ∀ b ∈ events, a.id = b.id → a = b) → current.event = head

section

variable {N : Nostr} {K : Crates} {C : Conversation} {agent owner : PublicKey} {d : String}
variable {scope : Event → Option Uuid} {start : List StoredEvent} {events order : List Event}

def inScope (scope : Event → Option Uuid) (events : List Event) : List StoredEvent :=
  events.map fun event => ⟨event,scope event⟩

lemma mem_inScope {s : StoredEvent} (h : s ∈ inScope scope events) : s.event ∈ events := by
  obtain ⟨e,he,rfl⟩ := mem_map.1 h
  exact he

lemma consistent_received (scope : Event → Option Uuid) (hv : ∀ e ∈ events, Valid N K C agent owner e)
    (hsa : ∀ e, e ∈ order ↔ e ∈ events) (hst : ∀ s ∈ start, Verified N s.event)
    (hc : NoCollision N (start.map StoredEvent.event ++ events)) :
    Consistent stream (· ∈ start ++ inScope scope order) := by
  refine consistent_of_verified (N := N) ?_ (hc.subset ?_)
  · intro s hs
    rcases mem_append.1 hs with hs | hs
    · exact hst s hs
    · exact (hv _ ((hsa _).1 (mem_inScope hs))).1
  · intro e he
    rw [map_append,mem_append] at he
    rcases he with he | he
    · exact mem_append_left _ he
    · obtain ⟨s,hs,rfl⟩ := mem_map.1 he
      exact mem_append_right _ ((hsa _).1 (mem_inScope hs))

lemma winners_received (scope : Event → Option Uuid) (hv : ∀ e ∈ events, Valid N K C agent owner e)
    (hsa : ∀ e, e ∈ order ↔ e ∈ events) (hst : ∀ s ∈ start, Verified N s.event)
    (hse : Separated stream start) (hc : NoCollision N (start.map StoredEvent.event ++ events)) :
    Winners stream (start ++ inScope scope order) (applyAll start (inScope scope order)) := by
  refine winners_applyAll _ hse ?_ (consistent_received scope hv hsa hst hc)
  intro s hs
  exact (hv _ ((hsa _).1 (mem_inScope hs))).durable

lemma exists_agrees (scope : Event → Option Uuid) (hv : ∀ e ∈ events, Valid N K C agent owner e)
    (hd : ∀ e ∈ events, identifier e = d) (hne : events ≠ [])
    (hsa : ∀ e, e ∈ order ↔ e ∈ events) (hst : ∀ s ∈ start, Verified N s.event)
    (hsp : Separated stream start)
    (hnew : ∀ s ∈ start, replacementKey s.event ≠ some (memoryKey agent d))
    (hco : NoCollision N (start.map StoredEvent.event ++ events)) :
    ∃ head ∈ events, ∃ cur, selectHead events = some head ∧
      Agrees agent d events head (applyAll start (inScope scope order)) cur := by
  have hkey : ∀ e ∈ events, replacementKey e = some (memoryKey agent d) :=
    fun e he => hd e he ▸ (hv e he).replacementKey
  have hw := winners_received scope hv hsa hst hsp hco
  have hS := consistent_received scope hv hsa hst hco
  obtain ⟨head,hh,hse,hma⟩ := selectHead_spec hne
  have hi : (⟨head,scope head⟩ : StoredEvent) ∈ start ++ inScope scope order :=
    mem_append_right _ (mem_map.2 ⟨head,(hsa head).2 hh,rfl⟩)
  obtain ⟨cur,hc,hr,hle⟩ := hw.exists_kept hS hi (by simp [hkey head hh])
  have hck : replacementKey cur.event = some (memoryKey agent d) := hr.2.trans (hkey head hh)
  -- the effective event of the memory is one of the given events, and none of them outranks it
  have hm : cur.event ∈ events := by
    rcases mem_append.1 (hw.mem cur hc) with hold | hg
    · exact absurd hck (hnew cur hold)
    · exact (hsa _).1 (mem_inScope hg)
  have hid : cur.event.id = head.id := rank_inj _ _ (le_antisymm (hma _ hm) hle)
  refine ⟨head,hh,cur,hse,hc,?_,?_,fun hcp => hcp _ hm _ hh hid⟩
  · exact unsigned_eq_of_id_eq hco (mem_append_right _ hm) (mem_append_right _ hh) (hv _ hm).1 (hv _ hh).1 hid
  · intro s hs hsk
    exact hw.separated.eq_of_rivals hs hc ⟨by simp [hck],by simp [hsk,hck]⟩

/-- A new event of the memory that is later than its head takes the place of the head. -/
lemma Agrees.replaced {eff : List StoredEvent} {cur next : StoredEvent} {head : Event}
    (h : Agrees agent d events head eff cur) (hse : Separated stream eff)
    (hd : isEphemeralKind next.event.kind = false)
    (hS : Consistent stream (· ∈ eff ++ [next])) (hh : replacementKey head = some (memoryKey agent d))
    (hkey : replacementKey next.event = some (memoryKey agent d))
    (hl : head.createdAt < next.event.createdAt) :
    (applyEffectiveEvent eff next).2 = .stored ∧ next ∈ (applyEffectiveEvent eff next).1 ∧
      ∀ s ∈ (applyEffectiveEvent eff next).1, replacementKey s.event = some (memoryKey agent d) →
        s = next := by
  have hb : cur.event.toEventBody = head.toEventBody := congrArg Prod.snd h.same_unsigned
  have hr : Rivals stream cur next := by
    refine ⟨by simp [hkey],?_⟩
    rw [stream_key,stream_key,hkey,replacementKey_congr hb,hh]
  have hlt : rank cur.event < rank next.event := by
    rw [rank,rank,Prod.Lex.toLex_lt_toLex]
    exact .inl (by rw [hb]; exact hl)
  have hst := decideEvent_of_outranks hse hd hS h.current_mem hr hlt
  obtain ⟨hm,hso⟩ := sole_of_stored hse hd hst
  refine ⟨applyEffectiveEvent_snd eff next ▸ hst,hm,?_⟩
  intro s hs hsk
  exact hso s hs ⟨by simp [hkey],by simp [hsk,hkey]⟩

lemma isEphemeralKind_of_memoryKey {e : Event}
    (h : replacementKey e = some (memoryKey agent d)) : isEphemeralKind e.kind = false := by
  have hk : e.kind = kindAgentEngram := by
    unfold replacementKey at h
    split_ifs at h
    · simp [memoryKey] at h
    · simp only [memoryKey,Option.some.injEq,ReplacementKey.parameterized.injEq] at h
      exact h.2.1
  rw [hk]
  rfl

/-- The reader and the relay agree on the head of a memory, whatever order the events reach each
of them in; and a write whose time is taken from that head replaces it. -/
theorem heads_agree (N : Nostr) (K : Crates) (C : Conversation) (agent owner : PublicKey) (d : String)
    (scope : Event → Option Uuid) (start : List StoredEvent) (events order : List Event)
    (hvalid : ∀ e ∈ events, Valid N K C agent owner e) (hd : ∀ e ∈ events, identifier e = d)
    (hne : events ≠ []) (hsame : ∀ e, e ∈ order ↔ e ∈ events)
    (hstart : ∀ s ∈ start, Verified N s.event) (hsep : Separated stream start)
    (hnew : ∀ s ∈ start, replacementKey s.event ≠ some (memoryKey agent d))
    (hcol : NoCollision N (start.map StoredEvent.event ++ events)) :
    ∃ head current, selectHead events = some head ∧
      Agrees agent d events head (applyAll start (inScope scope order)) current ∧
      ∀ now next, Verified N next.event → replacementKey next.event = some (memoryKey agent d) →
        next.event.createdAt = monotonicCreatedAt now (some head.createdAt) → head.createdAt < u64Max →
        NoCollision N (next.event :: (start.map StoredEvent.event ++ events)) →
        let after := applyEffectiveEvent (applyAll start (inScope scope order)) next
        after.2 = .stored ∧ next ∈ after.1 ∧
          ∀ s ∈ after.1, replacementKey s.event = some (memoryKey agent d) → s = next := by
  obtain ⟨head,hh,current,hse,ha⟩ := exists_agrees scope hvalid hd hne hsame hstart hsep hnew hcol
  refine ⟨head,current,hse,ha,?_⟩
  intro now next hv hkey ht hb hc
  have hw := winners_received scope hvalid hsame hstart hsep hcol
  have hm : ∀ s ∈ applyAll start (inScope scope order), s.event ∈ start.map StoredEvent.event ++ events := by
    intro s hs
    rcases mem_append.1 (hw.mem s hs) with hold | hg
    · exact mem_append_left _ (mem_map_of_mem hold)
    · exact mem_append_right _ ((hsame _).1 (mem_inScope hg))
  have hS : Consistent stream (· ∈ applyAll start (inScope scope order) ++ [next]) := by
    refine consistent_of_verified (N := N) ?_ (hc.subset ?_)
    · intro s hs
      rcases mem_append.1 hs with hs | hs
      · rcases mem_append.1 (hw.mem s hs) with hold | hg
        · exact hstart s hold
        · exact (hvalid _ ((hsame _).1 (mem_inScope hg))).1
      · rwa [mem_singleton.1 hs]
    · intro e he
      obtain ⟨s,hs,rfl⟩ := mem_map.1 he
      rcases mem_append.1 hs with hs | hs
      · exact mem_cons_of_mem _ (hm s hs)
      · rw [mem_singleton.1 hs]
        exact mem_cons_self
  have hl : head.createdAt < next.event.createdAt := by
    rw [ht]
    exact lt_monotonicCreatedAt now hb
  exact ha.replaced hw.separated (isEphemeralKind_of_memoryKey hkey) hS
    (hd head hh ▸ (hvalid head hh).replacementKey) hkey hl

end

/-- A memory as its agent wrote it first, and its tombstone. -/
def written : Event where
  pubkey := firstKey
  createdAt := 1700000000
  kind := 30174
  tags := [⟨"d",["72d4f9629106451505d7d341ea85bb3ebad4f654fcfd2aad100d5a35f8a85cba"]⟩,
    ⟨"p",[secondKey.toHex]⟩]
  content := "AgAAAAAAAAAAAAAAAAAAAAAAAAAAAAAAAAAAAAAAAAABedgcxyfmpph68LBjCWZsTI5lb0Cbg8dIPVYVe/WVj/l4Yd8HGgzC8awyBi9bn9ClRdtd2IPsmont0jN/cajVSQhahTOwuNNwoJtZIg35aSsUzeCq4tQfd8E+fLoKomdPxjs="
  id := .ofNat 32 0xf4a594177b7aeea4fe99a09efbf74ae85f0126244f322135682c405888a38689
  sig := .ofNat 64 0x0a4582f0bc5995b9a010afda5984f568055988ebbe4552b4e0ec6d11aeb2b303af940f3d84726a7edd1763badb284eb3aa8457664ceba85a90d6252ed4b494cb

def tombstone : Event :=
  { written with
    createdAt := 1700000002
    content := "AgAAAAAAAAAAAAAAAAAAAAAAAAAAAAAAAAAAAAAAAAADuau8i0Wu4+ULnp2qTfd+O23jJAapMRrKGGwabNVOlT9hSF8FViBHIS6f86/7xK4qGOin4IH8Wr/3cvHDcQGQd3IXQJr8LHgJkaYpQPdBO1bgqiFu8K3L/CLb1PgG1X7RQ8E="
    id := .ofNat 32 0xc8604bef05295856a67a88ec895e07b5b47a2febc23c82934734096a7b123b63
    sig := .ofNat 64 0xc8d53859cf08b3a9a20a5b01c61d12fa2f082f462adb635420f05dc6f9bb662a174e729023854bf53e5e35fae8f6f4c9d604e8979a070e298cd77cfb7e6b6468 }

/-- The tombstone under another valid signature of its author. -/
def tombstoneResigned : Event :=
  { tombstone with
    sig := .ofNat 64 0x0a827ddcfdda53e890c708fd34897d110c319b1ac7b702e870d333ee45c01c7fc8f5c9f85e4f6f2d16ba8eac2b95a0767c0fece462d69959d9ca56efa463cb22 }

def memoryOwner : PublicKey := secondKey

def memoryD : String := "72d4f9629106451505d7d341ea85bb3ebad4f654fcfd2aad100d5a35f8a85cba"

def writtenText : String := "\x7b\"slug\":\"mem/example\",\"value\":\"hello, agent memory\"\x7d"
def tombstoneText : String := "\x7b\"slug\":\"mem/example\",\"value\":null\x7d"

/-- What the key that the agent and its owner share gives on the two events. -/
def memoryConversation : Conversation where
  mac slug := if slug = "mem/example" then
      .ofNat 32 0x72d4f9629106451505d7d341ea85bb3ebad4f654fcfd2aad100d5a35f8a85cba
    else .ofNat 32 0
  decrypt content :=
    if content = written.content then some writtenText
    else if content = tombstone.content then some tombstoneText else none

def memoryCrates : Crates where
  debug text := "\"" ++ text ++ "\""
  parseStrictJson text :=
    if text = writtenText then
      .ok (.object [("slug",.string "mem/example"),("value",.string "hello, agent memory")])
    else if text = tombstoneText then .ok (.object [("slug",.string "mem/example"),("value",.null)])
    else .error (.invalidBody "invalid JSON body: expected value at line 1 column 1")

lemma read_memories : ∀ e ∈ [written,tombstone], ∃ v ∈ [some "hello, agent memory",none],
      validateAndDecrypt memoryCrates memoryConversation e written.pubkey memoryOwner =
        .ok (.memory "mem/example" v) ∧ identifier e = memoryD := by
  decide +kernel

theorem heads_agree_tombstone : let N := (signedOnly [written,tombstone] fun _ => none).toNostr
    ∃ head current, selectHead [written,tombstone] = some head ∧
      Agrees written.pubkey memoryD [written,tombstone] head
        (applyAll [] (inScope (fun _ => none) [tombstone,written])) current ∧
          ∀ now next, Verified N next.event →
        replacementKey next.event = some (memoryKey written.pubkey memoryD) →
        next.event.createdAt = monotonicCreatedAt now (some head.createdAt) →
        head.createdAt < u64Max → NoCollision N (next.event :: ([] ++ [written,tombstone])) →
        let after := applyEffectiveEvent (applyAll [] (inScope (fun _ => none) [tombstone,written])) next
        after.2 = .stored ∧ next ∈ after.1 ∧
          ∀ s ∈ after.1, replacementKey s.event = some (memoryKey written.pubkey memoryD) → s = next := by
  intro N
  have hi : IdsMatch [written,tombstone] := by decide +kernel
  have hv : ∀ e ∈ [written,tombstone], Valid N memoryCrates memoryConversation written.pubkey
      memoryOwner e := by
    intro e he
    obtain ⟨value,-,hr,-⟩ := read_memories e he
    exact ⟨verified_signedOnly hi he,_,hr⟩
  have hd : ∀ e ∈ [written,tombstone], identifier e = memoryD := by
    intro e he
    obtain ⟨_,-,-,hid⟩ := read_memories e he
    exact hid
  exact heads_agree N memoryCrates memoryConversation written.pubkey memoryOwner memoryD (fun _ => none) []
    [written,tombstone] [tombstone,written] hv hd (by decide)
    (fun e => by simp [or_comm]) (by simp) List.Pairwise.nil (by simp) (noCollision_signedOnly hi)

/-- Of two copies that differ in their signature, the reader takes the first of its list, and the
relay keeps the one that arrived first. -/
theorem heads_differ_in_signature : let N := (signedOnly [tombstone,tombstoneResigned] fun _ => none).toNostr
    (∀ e ∈ [tombstone,tombstoneResigned],
      Valid N memoryCrates memoryConversation tombstone.pubkey memoryOwner e ∧ identifier e = memoryD) ∧
    [tombstoneResigned,tombstone].Perm [tombstone,tombstoneResigned] ∧
    selectHead [tombstone,tombstoneResigned] = some tombstone ∧
    (applyAll [] (inScope (fun _ => none) [tombstoneResigned,tombstone])).map StoredEvent.event =
      [tombstoneResigned] ∧ tombstone ≠ tombstoneResigned := by
  have hi : IdsMatch [tombstone,tombstoneResigned] := by decide +kernel
  have hr : ∀ e ∈ [tombstone,tombstoneResigned],
      validateAndDecrypt memoryCrates memoryConversation e tombstone.pubkey memoryOwner =
        .ok (.memory "mem/example" none) ∧ identifier e = memoryD := by decide +kernel
  refine ⟨?_,List.Perm.swap _ _ _,by decide +kernel,by decide +kernel,by decide +kernel⟩
  intro e he
  exact ⟨⟨verified_signedOnly hi he,_,(hr e he).1⟩,(hr e he).2⟩

end BuzzSolo.Engram
