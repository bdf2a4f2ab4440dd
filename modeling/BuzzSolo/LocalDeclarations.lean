import BuzzSolo.Authentication
import BuzzSolo.LocalRelay
import BuzzSolo.QueryVisibility

/-! Configuration from the journal on the laptop: the peers the owner admits, and the artifact rule
for the readers of a stream. Both read the owner's declaration heads through the store's bounded
query. -/
namespace BuzzSolo.LocalDeclarations

open Checks LineText Ingest EventStore Query
open Handoff (Json field)
open LocalRelay (eventTagValue kindSyncDeclaration)
open Authentication (RelayPeerTrust)

/-- The crates behind a declaration: serde_json at the value type and at the filter type, and
hexadecimal keys. -/
structure Crates where
  parseJson : String → Except String Json
  filtersFromValue : List Json → Except String (List Filter)
  publicKeyFromHex : String → Option PublicKey
  /-- The `Debug` text of a string. -/
  debugText : String → String

inductive DeclarationError
  | query (error : QueryError)
  | malformed (dTag eventId reason : String)
  deriving DecidableEq

def dTag (event : Event) : Option String := eventTagValue event "d"
def nTag (event : Event) : Option String := eventTagValue event "n"
def pTags (event : Event) : List String := (event.tagsNamed "p").filterMap Tag.content

def malformed (event : Event) (reason : String) : DeclarationError :=
  .malformed ((dTag event).getD "<missing>") event.id.toHex reason

/-- `value[name]`, which is null for anything but an object. -/
def index (value : Json) (name : String) : Option Json := value.asObject.bind fun f => field f name

def declarationFilter (owner : PublicKey) : Filter :=
  { Filter.new with authors := some [owner], kinds := some [kindSyncDeclaration] }

/-- `store.query` for the owner's declarations. -/
def declarationHeads (events : List StoredEvent) (owner : PublicKey) : Except QueryError (List Event) :=
  queryWithCursors events [⟨declarationFilter owner,none⟩]

section

variable (X : Crates) (nodeLabel : String)

def admitSource (event : Event) : Option String :=
  if nTag event = some nodeLabel then (dTag event).bind (stripStart "admit/") else none

def admitKeys (event : Event) (principal : String) : Except DeclarationError (List (PublicKey × String)) :=
  collect (fun hex =>
    match X.publicKeyFromHex hex with
    | none => .error (malformed event ("invalid p-tag pubkey " ++ X.debugText hex))
    | some pubkey => .ok (pubkey,principal ++ "#nostr-key")) (pTags event)

/-- `RelayPeerTrust::new`; the last entry of a key counts. -/
def trustNew (source principal : String) (keys : List (PublicKey × String)) : RelayPeerTrust where
  source := source
  relayNodePrincipal := principal
  verificationMethods := fun key => (keys.reverse.find? fun entry => entry.1 = key).map Prod.snd

def admitEntry (event : Event) (source : String) :
    Except DeclarationError (Option (String × RelayPeerTrust)) := do
  let content ← (X.parseJson event.content).mapError (malformed event)
  if ((index content "status").bind Json.asStr).getD "active" ≠ "active" then .ok none else
  let principal ← okOr ((index content "principal").bind Json.asStr)
    (malformed event "active admit head requires a string principal")
  let keys ← admitKeys X event principal
  require (keys ≠ []) (malformed event "active admit head requires at least one p-tag verification key")
  .ok (some (source,trustNew source principal keys))

structure Admits where
  claimed : Bool
  entries : List (String × RelayPeerTrust)

def Admits.answer (acc : Admits) : Option (List (String × RelayPeerTrust)) :=
  if acc.claimed then some acc.entries else none

def admitHead (acc : Admits) (event : Event) : Except DeclarationError Admits :=
  match admitSource nodeLabel event with
  | none => .ok acc
  | some source =>
    match admitEntry X event source with
    | .error e => .error e
    | .ok entry => .ok ⟨true,acc.entries ++ entry.toList⟩

def admitFrom (acc : Admits) : List Event → Except DeclarationError Admits
  | [] => .ok acc
  | event :: events => do
    let acc ← admitHead X nodeLabel acc event
    admitFrom acc events

def admitDomain (heads : List Event) : Except DeclarationError (Option (List (String × RelayPeerTrust))) :=
  (admitFrom X nodeLabel ⟨false,[]⟩ heads).map Admits.answer

def admitDomainFromJournal (events : List StoredEvent) (owner : PublicKey) :
    Except DeclarationError (Option (List (String × RelayPeerTrust))) :=
  match declarationHeads events owner with
  | .error e => .error (.query e)
  | .ok heads => admitDomain X nodeLabel heads

end

section

variable (X : Crates) (nodeLabel : String)

def journalEventsReferencing (journal : List Event) (sha256 : String) : List Event :=
  journal.filter fun event => (event.tagsNamed "x").any fun tag => tag.content = some sha256

/-- A head is active unless its content says otherwise. -/
def active (event : Event) : Bool :=
  match X.parseJson event.content with
  | .error _ => true
  | .ok content =>
    match (index content "status").bind Json.asStr with
    | none => true
    | some status => status = "active"

def grantedStreams (principal : PublicKey) (heads : List Event) : List String :=
  ((heads.filter fun event => nTag event = some nodeLabel && active X event).filter
    fun event => (pTags event).contains principal.toHex).filterMap
      fun event => (dTag event).bind (stripStart "read/")

/-- Whether the exported stream selects one of the referencing events. -/
def streamSelects (heads referencing : List Event) (stream : String) : Except DeclarationError Bool :=
  match heads.find? fun event => nTag event = some nodeLabel && active X event &&
      dTag event = some ("export/" ++ stream) with
  | none => .ok false
  | some exported =>
    match X.parseJson exported.content with
    | .error e => .error (malformed exported e)
    | .ok content =>
      match (index content "selection").bind fun s => index s "mirror" with
      | some (.bool true) => .ok true
      | _ =>
        match (index content "selection").bind fun s => index s "filter" with
        | some (.array filtersJson) =>
          match X.filtersFromValue filtersJson with
          | .error e => .error (malformed exported e)
          | .ok filters =>
            .ok (referencing.any fun event => Filter.filtersMatch filters ⟨event,none⟩)
        | _ => .ok false

/-- The loop over the granted streams, which ends at the first that selects. -/
def someStreamSelects (heads referencing : List Event) : List String → Except DeclarationError Bool
  | [] => .ok false
  | stream :: streams =>
    match streamSelects X nodeLabel heads referencing stream with
    | .error e => .error e
    | .ok true => .ok true
    | .ok false => someStreamSelects heads referencing streams

def artifactFetchAllowed (store : Store) (owner principal : PublicKey) (sha256 : String) :
    Except DeclarationError Bool :=
  let referencing := journalEventsReferencing store.journal sha256
  if referencing.isEmpty then .ok false
  else match declarationHeads store.events owner with
    | .error e => .error (.query e)
    | .ok heads =>
      let granted := grantedStreams X nodeLabel principal heads
      if granted.isEmpty then .ok false
      else someStreamSelects X nodeLabel heads referencing granted

end

section

variable {events : List StoredEvent}

def allHeads (events : List StoredEvent) (owner : PublicKey) : List Event :=
  ((orderedEvents events).filter fun stored =>
    stored.event.kind = kindSyncDeclaration && stored.event.pubkey = owner).map StoredEvent.event

lemma admits_declarationFilter (ow : PublicKey) : admits ⟨declarationFilter ow,none⟩ = fun st =>
      st.event.kind = kindSyncDeclaration && st.event.pubkey = ow := by
  funext st
  simp [admits,cursorAdmits,Filter.filtersMatch,Filter.filterMatchOne,declarationFilter,Filter.new]

lemma taken_declarationFilter (ow : PublicKey) :
    (taken ⟨declarationFilter ow,none⟩ (orderedEvents events)).map StoredEvent.event =
      (allHeads events ow).take defaultQueryLimit := by
  rw [taken,admits_declarationFilter,List.map_take]
  rfl

lemma declarationHeads_eq (h : EffectiveSet events) (ow : PublicKey) :
    declarationHeads events ow = .ok ((allHeads events ow).take defaultQueryLimit) := by
  rw [declarationHeads,queryWithCursors_singleton h rfl,taken_declarationFilter]

end

end BuzzSolo.LocalDeclarations
