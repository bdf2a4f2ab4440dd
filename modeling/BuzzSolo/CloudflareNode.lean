import BuzzSolo.Event
import BuzzSolo.JsonText
import Mathlib.Data.String.Basic

/-! Event ingest on the Cloudflare node, which keeps the accepted ids and the journal in SQLite
tables. A row holds the event it is the JSON of. Live delivery is not read here; whether the pulse
after a stored event throws is part of the environment. -/
namespace BuzzSolo.CloudflareNode

open JsonText

structure JsEvent where
  id : String
  pubkey : String
  createdAt : ℕ
  kind : ℕ
  tags : List (List String)
  content : String
  sig : String
  deriving DecidableEq

/-- The JSON value both adapters receive for one signed event. -/
def wire (e : Event) : JsEvent :=
  ⟨e.id.toHex,e.pubkey.toHex,e.createdAt,e.kind,e.tags.map Tag.asSlice,e.content,e.sig.toHex⟩

inductive Decision
  | stored | superseded

structure Row where
  sequence : ℕ
  eventId : String
  event : JsEvent
  replacementKey : Option String
  effective : Bool
  ingestSource : Option String

structure Node where
  acceptedEventIds : List (String × Decision)
  eventJournal : List Row
  artifactRefs : List (String × String)

def Node.empty : Node := ⟨[],[],[]⟩

inductive Message
  | stored | duplicate | superseded | ephemeral | invalid
  deriving DecidableEq

def Message.text : Message → String
  | .stored => "stored"
  | .duplicate => "duplicate"
  | .superseded => "superseded"
  | .ephemeral => "ephemeral"
  | .invalid => "invalid"

structure WriteResult where
  eventId : String
  accepted : Bool
  message : Message
  deriving DecidableEq

/-- What ingest calls outside the two tables: the signature check of nostr-tools, the
check and tally of a beacon response, and the pulse after a stored event. -/
structure NodeEnv where
  verifySafely : JsEvent → Bool
  recordBeaconResponse : Node → Option String → JsEvent → Bool
  emitPulse : Node → Except String Unit

def kindBeaconResponse : ℕ := 20701

def isEphemeralKind (kind : ℕ) : Bool := 20000 ≤ kind && kind < 30000

/-- The second entry of the first `d` tag, or the empty string. -/
def identifier (event : JsEvent) : String :=
  ((event.tags.find? fun tag => tag.head? = some "d").bind fun tag => tag[1]?).getD ""

def replacementKey (event : JsEvent) : Option String :=
  if event.kind = 0 ∨ event.kind = 3 ∨ (10000 ≤ event.kind ∧ event.kind < 20000) then
    some (array [quote "replaceable",quote event.pubkey,event.kind.repr])
  else if 30000 ≤ event.kind ∧ event.kind < 40000 then
    some (array [quote "parameterized",quote event.pubkey,event.kind.repr,quote (identifier event)])
  else none

def replacementCandidateWins (candidate current : JsEvent) : Bool :=
  decide (current.createdAt < candidate.createdAt) ||
    (decide (candidate.createdAt = current.createdAt) && decide (candidate.id < current.id))

def effectiveReplacement (node : Node) (key : String) : Option JsEvent :=
  (node.eventJournal.find? fun row => row.replacementKey = some key && row.effective).map Row.event

/-- The primary key of `accepted_event_ids`. -/
def insertAccepted (eventId : String) (decision : Decision) (rows : List (String × Decision)) :
    Except String (List (String × Decision)) :=
  if rows.any fun row => row.1 = eventId then
    .error "UNIQUE constraint failed: accepted_event_ids.event_id"
  else .ok (rows ++ [(eventId,decision)])

/-- The unique event id of `event_journal` and its index of one effective row a key. -/
def insertRow (row : Row) (rows : List Row) : Except String (List Row) :=
  if rows.any fun r => r.eventId = row.eventId then
    .error "UNIQUE constraint failed: event_journal.event_id"
  else if row.effective && row.replacementKey.isSome &&
      rows.any fun r => r.effective && r.replacementKey = row.replacementKey then
    .error "UNIQUE constraint failed: event_journal.replacement_key"
  else .ok (rows ++ [row])

/-- Rows are never deleted, so the next number of the autoincrement column follows the last. -/
def nextSequence (rows : List Row) : ℕ := (rows.getLast?.map Row.sequence).getD 0 + 1

/-- The update that ends the effect of the row of a key, where the candidate has one. -/
def retireRow (candidateKey : Option String) (row : Row) : Row :=
  match candidateKey with
  | none => row
  | some key =>
    if row.replacementKey = some key && row.effective then { row with effective := false } else row

def retire (candidateKey : Option String) (rows : List Row) : List Row := rows.map (retireRow candidateKey)

def isShaText (sha : String) : Bool := sha.toList.length = 64 && sha.toList.all HexText.isLowerHexChar

def indexArtifactRefs (eventId : String) (tags : List (List String))
    (refs : List (String × String)) : List (String × String) :=
  tags.foldl (fun refs tag =>
    match tag with
    | "x" :: value :: _ =>
      if isShaText value.toLower && !(refs.any fun r => r = (value.toLower,eventId)) then
        refs ++ [(value.toLower,eventId)]
      else refs
    | _ => refs) refs

def storeEvent (node : Node) (event : JsEvent) (candidateKey : Option String)
    (ingestSource : Option String) : Except String Node :=
  match insertAccepted event.id .stored node.acceptedEventIds with
  | .error e => .error e
  | .ok accepted =>
    let retired := retire candidateKey node.eventJournal
    match insertRow ⟨nextSequence retired,event.id,event,candidateKey,true,ingestSource⟩ retired with
    | .error e => .error e
    | .ok rows => .ok ⟨accepted,rows,indexArtifactRefs event.id event.tags node.artifactRefs⟩

def loses (node : Node) (event : JsEvent) : Bool :=
  match replacementKey event with
  | none => false
  | some key =>
    match effectiveReplacement node key with
    | none => false
    | some current => !replacementCandidateWins event current

/-- One call of `#applyEvent`; an exception leaves whatever was committed before it. -/
def applyEvent (N : NodeEnv) (node : Node) (event : JsEvent) (ingestSource principal : Option String) :
    Node × Except String WriteResult :=
  if !N.verifySafely event then (node,.ok ⟨event.id,false,.invalid⟩)
  else if node.acceptedEventIds.any fun row => row.1 = event.id then
    (node,.ok ⟨event.id,true,.duplicate⟩)
  else if event.kind = kindBeaconResponse then
    if N.recordBeaconResponse node principal event then (node,.ok ⟨event.id,true,.ephemeral⟩)
    else (node,.ok ⟨event.id,false,.invalid⟩)
  else if isEphemeralKind event.kind then (node,.ok ⟨event.id,true,.ephemeral⟩)
  else if loses node event then
    match insertAccepted event.id .superseded node.acceptedEventIds with
    | .error e => (node,.error e)
    | .ok accepted => ({ node with acceptedEventIds := accepted },.ok ⟨event.id,true,.superseded⟩)
  else
    match storeEvent node event (replacementKey event) ingestSource with
    | .error e => (node,.error e)
    | .ok stored =>
      match N.emitPulse stored with
      | .error e => (stored,.error e)
      | .ok () => (stored,.ok ⟨event.id,true,.stored⟩)

def effectiveEvents (node : Node) : List JsEvent := (node.eventJournal.filter Row.effective).map Row.event

def journal (node : Node) : List JsEvent := node.eventJournal.map Row.event

lemma wire_injective : Function.Injective wire := by
  intro a b h
  obtain ⟨⟨pkb,cb,kb,tb,xb⟩,ib,sb⟩ := b
  simp only [wire,JsEvent.mk.injEq,HexText.FixedBytes.toHex_inj] at h
  obtain ⟨hid,hpk,hc,hk,ht,hx,hs⟩ := h
  have hta := List.map_injective_iff.2 Tag.asSlice_injective ht
  subst hid hpk hc hk hta hx hs
  rfl

section

variable (candidateKey : Option String) (row : Row)

@[simp] lemma retireRow_event : (retireRow candidateKey row).event = row.event := by
  unfold retireRow
  split
  · rfl
  · split <;> rfl

@[simp] lemma retireRow_eventId : (retireRow candidateKey row).eventId = row.eventId := by
  unfold retireRow
  split
  · rfl
  · split <;> rfl

@[simp] lemma retireRow_replacementKey : (retireRow candidateKey row).replacementKey =
    row.replacementKey := by
  unfold retireRow
  split
  · rfl
  · split <;> rfl

lemma retireRow_effective : (retireRow candidateKey row).effective = true ↔
    row.effective = true ∧ (candidateKey = none ∨ row.replacementKey ≠ candidateKey) := by
  cases candidateKey with
  | none => simp [retireRow]
  | some key =>
    by_cases hk : row.replacementKey = some key <;> cases he : row.effective <;>
      simp [retireRow,hk,he]

end

lemma storeEvent_ok {node st : Node} {e : JsEvent} {key src : Option String}
    (h : storeEvent node e key src = .ok st) : ∃ seq, st.eventJournal =
        retire key node.eventJournal ++ [⟨seq,e.id,e,key,true,src⟩] ∧
      st.artifactRefs = indexArtifactRefs e.id e.tags node.artifactRefs ∧
      ∀ row ∈ node.eventJournal, row.eventId ≠ e.id := by
  unfold storeEvent insertAccepted insertRow at h
  split at h
  · simp at h
  · simp only at h
    split at h
    next rows hr =>
      simp at h
    next rows hr =>
      cases h
      split at hr
      · simp at hr
      next hf =>
        split at hr
        · simp at hr
        · cases hr
          refine ⟨_,rfl,rfl,fun row hro hid => hf ?_⟩
          rw [List.any_eq_true]
          exact ⟨retireRow key row,List.mem_map_of_mem hro,by simpa using hid⟩

end BuzzSolo.CloudflareNode
