import BuzzSolo.Ingest
import BuzzSolo.LineText

/-! The laptop event store: an effective list, journal and id set behind an append-only log with one
JSON record to a line. Serialization and UUID parsing belong to crates outside the repository. -/
namespace BuzzSolo.EventStore

open Ingest LineText

structure Crates extends Nostr where
  /-- `serde_json::to_vec` of an event, as the text it is the UTF-8 encoding of. -/
  toVec : Event → Except String String
  /-- `serde_json::from_str` at the event type. -/
  fromStr : String → Except String Event
  parseUuid : String → Option Uuid

variable (X : Crates)

/-- serde_json reads back the single-line object it writes for an event. -/
def RoundTrips (event : Event) : Prop :=
  ∃ text, X.toVec event = .ok text ∧ X.fromStr text = .ok event ∧ '\n' ∉ text.toList ∧
    text.toList.getLast? = some '}'

inductive StoreError
  | io
  | malformedRecord (line : ℕ) (source : String)
  | invalidRecord (line : ℕ) (reason : String)
  | serialization (source : String)
  deriving DecidableEq

structure WriteResult where
  eventId : String
  accepted : Bool
  message : String
  publishLive : Bool
  deriving DecidableEq

namespace WriteResult

def ofAccepted (event : Event) (message : String) (publishLive : Bool) : WriteResult :=
  ⟨event.id.toHex,true,message,publishLive⟩

def ofRejected (event : Event) (message : String) : WriteResult :=
  ⟨event.id.toHex,false,message,false⟩

end WriteResult

/-- What became of one append: every byte reached the file and was synced, or the call
failed after a prefix of the record had reached it. -/
inductive AppendOutcome
  | synced
  | failed (landed : ℕ)

/-- The store behind its lock; `writer` is the content of the log file, absent for an
in-memory store. -/
structure Store where
  events : List StoredEvent
  journal : List Event
  seenIds : Finset EventId
  writer : Option ByteArray

inductive StorageMode
  | durable (file : Option ByteArray)
  | ephemeral

def storedEvent (event : Event) : StoredEvent :=
  ⟨event,((event.tagsNamed "h").filterMap Tag.content).findSome? X.parseUuid⟩

@[simp] lemma storedEvent_event (e : Event) : (storedEvent X e).event = e := rfl

/-- The state update behind the durability barrier. -/
def commit (s : Store) (event : Event) : Store :=
  { s with
    events := (applyEffectiveEvent s.events (storedEvent X event)).1
    journal := s.journal ++ [event]
    seenIds := insert event.id s.seenIds }

def accept (io : AppendOutcome) (s : Store) (event : Event) : Store × Except StoreError WriteResult :=
  match verifyEvent X.toNostr event with
  | .error reason => (s,.ok (.ofRejected event ("invalid: " ++ reason.text)))
  | .ok () =>
    match decideEvent s.events (event.id ∈ s.seenIds) event with
    | .duplicate => (s,.ok (.ofAccepted event "duplicate" false))
    | .ephemeral =>
      ({ s with seenIds := insert event.id s.seenIds },.ok (.ofAccepted event "ephemeral" true))
    | .superseded =>
      ({ s with seenIds := insert event.id s.seenIds },.ok (.ofAccepted event "superseded" false))
    | .stored =>
      match s.writer with
      | none => (commit X s event,.ok (.ofAccepted event "stored" true))
      | some file =>
        match X.toVec event with
        | .error source => (s,.error (.serialization source))
        | .ok text =>
          let record := (text ++ "\n").toByteArray
          match io with
          | .failed landed =>
            ({ s with writer := some (file ++ record.extract 0 landed) },.error .io)
          | .synced =>
            (commit X { s with writer := some (file ++ record) } event, .ok (.ofAccepted event "stored" true))

structure ReplayedLog where
  events : List StoredEvent
  journal : List Event
  seenIds : Finset EventId

def ReplayedLog.default : ReplayedLog := ⟨[],[],∅⟩

/-- One pass over the lines of the log; `lineNumber` is one-based. -/
def replayLines (X : Crates) (replayed : ReplayedLog) (lineNumber : ℕ) :
    List String → Except StoreError ReplayedLog
  | [] => .ok replayed
  | line :: rest =>
    if isBlank line then replayLines X replayed (lineNumber+1) rest
    else match X.fromStr line with
      | .error source => .error (.malformedRecord lineNumber source)
      | .ok event =>
        match verifyEvent X.toNostr event with
        | .error reason => .error (.invalidRecord lineNumber reason.text)
        | .ok () =>
          replayLines X
            { events := (applyEffectiveEvent replayed.events (storedEvent X event)).1
              journal := replayed.journal ++ [event]
              seenIds := insert event.id replayed.seenIds } (lineNumber+1) rest

/-- Replay of the log file; a missing file reads as an empty one. -/
def replayLog (file : Option ByteArray) : Except StoreError ReplayedLog :=
  match file with
  | none => replayLines X .default 1 []
  | some bytes =>
    match String.fromUTF8? bytes with
    | none => .error .io
    | some contents => replayLines X .default 1 (lines contents)

def openStore : StorageMode → Except StoreError Store
  | .ephemeral => .ok ⟨[],[],∅,none⟩
  | .durable file =>
    match replayLog X file with
    | .error e => .error e
    | .ok replayed =>
      .ok ⟨replayed.events,replayed.journal,replayed.seenIds,some (file.getD ByteArray.empty)⟩

/-- Everything an append can do to the store and answer, whatever becomes of the write. -/
inductive AcceptOutcome (X : Crates) (s : Store) (event : Event) :
    Store → Except StoreError WriteResult → Prop
  | rejected (reason : VerificationError) (hv : ¬ Verified X.toNostr event) :
    AcceptOutcome X s event s (.ok (.ofRejected event ("invalid: " ++ reason.text)))
  | duplicate (hv : Verified X.toNostr event)
    (hd : decideEvent s.events (event.id ∈ s.seenIds) event = .duplicate) :
    AcceptOutcome X s event s (.ok (.ofAccepted event "duplicate" false))
  | ephemeral (hv : Verified X.toNostr event)
    (hd : decideEvent s.events (event.id ∈ s.seenIds) event = .ephemeral) :
    AcceptOutcome X s event { s with seenIds := insert event.id s.seenIds }
      (.ok (.ofAccepted event "ephemeral" true))
  | superseded (hv : Verified X.toNostr event)
    (hd : decideEvent s.events (event.id ∈ s.seenIds) event = .superseded) :
    AcceptOutcome X s event { s with seenIds := insert event.id s.seenIds }
      (.ok (.ofAccepted event "superseded" false))
  | stored (writer : Option ByteArray) (hv : Verified X.toNostr event)
    (hd : decideEvent s.events (event.id ∈ s.seenIds) event = .stored) :
    AcceptOutcome X s event (commit X { s with writer := writer } event)
      (.ok (.ofAccepted event "stored" true))
  | failed (writer : Option ByteArray) (error : StoreError) :
    AcceptOutcome X s event { s with writer := writer } (.error error)

lemma accept_outcome (io : AppendOutcome) (s : Store) (e : Event) :
    AcceptOutcome X s e (accept X io s e).1 (accept X io s e).2 := by
  cases hv : verifyEvent X.toNostr e with
  | error why =>
    simp only [accept,hv]
    exact .rejected why (by simp [Verified,hv])
  | ok u =>
    cases hd : decideEvent s.events (e.id ∈ s.seenIds) e with
    | duplicate =>
      simp only [accept,hv,hd]
      exact .duplicate hv hd
    | ephemeral =>
      simp only [accept,hv,hd]
      exact .ephemeral hv hd
    | superseded =>
      simp only [accept,hv,hd]
      exact .superseded hv hd
    | stored =>
      cases hw : s.writer with
      | none =>
        simp only [accept,hv,hd]
        have hs : s = { s with writer := none } := by rw [← hw]
        rw [hs]
        exact .stored none hv (by rw [← hs]; exact hd)
      | some file =>
        cases hto : X.toVec e with
        | error src =>
          simp only [accept,hv,hd,hw,hto]
          exact .failed s.writer _
        | ok t =>
          simp only [accept,hv,hd,hw,hto]
          cases io with
          | synced => exact .stored _ hv hd
          | failed ld => exact .failed _ _

end BuzzSolo.EventStore
