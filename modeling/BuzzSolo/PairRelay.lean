import BuzzSolo.ByteText
import BuzzSolo.HashTable
import BuzzSolo.JsonText
import BuzzSolo.LocalRelay

/-! The relay of the device pairing: an event is checked, reserved and handed to the one subscriber
of its `p` tag. The locked sections of a delivery are steps of their own. Times are in nanoseconds. -/
namespace BuzzSolo.PairRelay

open Checks HashTable HexText
open Handoff (Json field)
open LocalRelay (asU64 asI64)

def nanosPerSec : ℕ := 10^9
def maxConns : ℕ := 128
def kindPair : ℕ := 24134
def rateWindow : ℕ := 10*nanosPerSec
def rateMsgMax : ℕ := 20
def rateEventMax : ℕ := 10
def subIdMax : ℕ := 64
def maxEventsPerConn : ℕ := 6
def maxDeliveredPerP : ℕ := 12
def dedupCap : ℕ := 1024
def deliveredMapCap : ℕ := 4096
def entryTtl : ℕ := 300*nanosPerSec
def freshnessSecs : ℕ := 120

/-- The crates and the wall clock: `epoch` is what it shows at time zero. -/
structure Host where
  epoch : ℕ
  sha256 : String → EventId
  isXOnlyKey : PublicKey → Bool
  verifySchnorr : Signature → EventId → PublicKey → Bool
  /-- The compact text of a value. -/
  toText : Json → String

def Host.wallSecs (R : Host) (now : ℕ) : ℕ := (R.epoch + now)/nanosPerSec

def isLowerHex (s : String) (len : ℕ) : Bool := s.toList.length = len && s.toList.all isLowerHexChar

def decodeHex32 (s : String) : Option (FixedBytes 32) :=
  if isLowerHex s 64 then FixedBytes.fromHex 32 s else none

def decodeHex64 (s : String) : Option (FixedBytes 64) :=
  if isLowerHex s 128 then FixedBytes.fromHex 64 s else none

def validateFilter (filter : Json) : Except String PublicKey := do
  let obj ← okOr filter.asObject "filter must be an object"
  require (∀ f ∈ obj, f.1 = "kinds" ∨ f.1 = "#p") "unsupported filter field"
  match field obj "kinds" with
  | none => .ok ()
  | some kinds => do
    let kinds ← okOr kinds.asArray "kinds must be an array"
    require (kinds.map asU64 = [some kindPair]) "kinds must be [24134]"
  let values ← okOr ((field obj "#p").bind Json.asArray) "#p filter required"
  require (values.length = 1) "#p must have exactly one value"
  let value ← okOr (values.head?.bind Json.asStr) "#p value must be a string"
  okOr (decodeHex32 value) "#p value must be 64 lowercase hex chars"

/-- The number of padding characters of base64 text, which stand in the last two places only. -/
def scanBase64 (len : ℕ) : List Char → ℕ → ℕ → Option ℕ
  | [], _, padding => some padding
  | c :: cs, i, padding =>
    if (ByteText.value c).isSome then if 0 < padding then none else scanBase64 len cs (i+1) padding
    else if c = '=' then
      if i < len - 2 then none
      else if 2 < padding + 1 then none
      else scanBase64 len cs (i+1) (padding+1)
    else none

def validateNip44Content (content : String) : Except String Unit := do
  let len := content.utf8ByteSize
  require (len ≠ 0) "content must not be empty"
  require (len % 4 = 0) "content is not valid base64"
  let padding ← okOr (scanBase64 len content.toList 0 0) "content is not valid base64"
  require (99 ≤ len/4*3 - padding) "content too short for NIP-44 v2"
  let v0 ← okOr (content.toList[0]?.bind ByteText.value) "content is not valid base64"
  let v1 ← okOr (content.toList[1]?.bind ByteText.value) "content is not valid base64"
  require (v0*4 + v1/16 = 2) "content is not NIP-44 v2 (expected 0x02 prefix)"

def allowedKeys : List String := ["id","pubkey","created_at","kind","tags","content","sig"]

/-- The id of an event, as text and as bytes, and the value of its `p` tag. -/
def validateEvent (wallSecs : ℕ) (ev : Json) : Except String (String × EventId × PublicKey) := do
  let obj ← okOr ev.asObject "event must be an object"
  require (∀ f ∈ obj, f.1 ∈ allowedKeys) "unknown top-level field"
  let id ← okOr ((field obj "id").bind Json.asStr) "missing id"
  let idBytes ← okOr (decodeHex32 id) "id must be 64 lowercase hex chars"
  let pubkey ← okOr ((field obj "pubkey").bind Json.asStr) "missing pubkey"
  require (isLowerHex pubkey 64) "pubkey must be 64 lowercase hex chars"
  require ((field obj "kind").bind asU64 = some kindPair) "kind must be 24134"
  let createdAt ← okOr ((field obj "created_at").bind asI64) "missing created_at"
  require ((createdAt - wallSecs).natAbs ≤ freshnessSecs) "created_at outside freshness window"
  let content ← okOr ((field obj "content").bind Json.asStr) "missing content"
  validateNip44Content content
  let sig ← okOr ((field obj "sig").bind Json.asStr) "missing sig"
  require (isLowerHex sig 128) "sig must be 128 lowercase hex chars"
  let tags ← okOr ((field obj "tags").bind Json.asArray) "missing tags"
  require (tags.length = 1) "event must have exactly one p tag"
  let tag ← okOr (tags.head?.bind Json.asArray) "tag must be an array"
  require (tag.length = 2) "p tag must have exactly 2 elements"
  require (tag.head?.bind Json.asStr = some "p") "event must have exactly one p tag"
  let p ← okOr (tag[1]?.bind Json.asStr) "p tag value must be a string"
  let pBytes ← okOr (decodeHex32 p) "p tag value must be 64 lowercase hex chars"
  .ok (id,idBytes,pBytes)

def safeEventId (ev : Json) : String := (((ev.get "id").bind Json.asStr).filter (isLowerHex · 64)).getD ""

def intText : ℤ → String
  | .ofNat n => n.repr
  | .negSucc n => "-" ++ (n+1).repr

/-- The text that an event id is the hash of. -/
def commitment (R : Host) (obj : List (String × Json)) : Except String String := do
  let pubkey ← okOr ((field obj "pubkey").bind Json.asStr) "missing pubkey"
  let createdAt ← okOr ((field obj "created_at").bind asI64) "missing created_at"
  let kind ← okOr ((field obj "kind").bind asU64) "missing kind"
  let tags ← okOr (field obj "tags") "missing tags"
  let content ← okOr ((field obj "content").bind Json.asStr) "missing content"
  .ok (JsonText.array ["0",JsonText.quote pubkey,intText createdAt,kind.repr,R.toText tags,
    JsonText.quote content])

def verifyEventSig (R : Host) (ev : Json) : Except String Unit := do
  let obj ← okOr ev.asObject "event must be an object"
  let text ← commitment R obj
  let id ← okOr ((field obj "id").bind Json.asStr) "missing id"
  let sig ← okOr ((field obj "sig").bind Json.asStr) "missing sig"
  let hash := R.sha256 text
  let idBytes ← okOr (decodeHex32 id) "id must be 64 lowercase hex chars"
  require (hash = idBytes) "invalid: event id mismatch"
  let pubkey ← okOr (((field obj "pubkey").bind Json.asStr).bind decodeHex32)
    "pubkey must be 64 lowercase hex chars"
  require (R.isXOnlyKey pubkey) "invalid: bad pubkey"
  let sigBytes ← okOr (decodeHex64 sig) "sig must be 128 lowercase hex chars"
  require (R.verifySchnorr sigBytes hash pubkey) "invalid: signature verification failed"

structure RateWindow where
  count : ℕ
  windowStart : ℕ

def RateWindow.tick (r : RateWindow) (now : ℕ) : RateWindow :=
  if rateWindow ≤ now - r.windowStart then ⟨1,now⟩ else ⟨r.count+1,r.windowStart⟩

/-- An event that passed its checks, with the time of the check. -/
structure Attempt where
  event : Json
  eventId : String
  id : EventId
  p : PublicKey
  since : ℕ

inductive Refusal
  | noLiveSubscriber
  | ambiguousRecipient
  | budgetExhausted
  | atCapacity
  | deliveryFailed

def Refusal.text : Refusal → String
  | .noLiveSubscriber => "no live subscriber"
  | .ambiguousRecipient => "ambiguous recipient"
  | .budgetExhausted => "recipient session budget exhausted"
  | .atCapacity => "relay at capacity"
  | .deliveryFailed => "delivery failed"

inductive Phase
  | idle
  | checked (a : Attempt)
  | reserved (a : Attempt) (time : ℕ)
  | failing (a : Attempt) (time : ℕ) (reason : Refusal)

namespace Phase

def attempt : Phase → Option Attempt
  | .idle => none
  | .checked a | .reserved a _ | .failing a _ _ => some a

/-- The entry that the attempt has in the memory of seen ids. -/
def reservation : Phase → Option (EventId × ℕ)
  | .idle | .checked _ => none
  | .reserved a time | .failing a time _ => some (a.id,time)

end Phase

structure Conn where
  subId : Option String
  msgRate : RateWindow
  eventRate : RateWindow
  eventsAttempted : ℕ
  phase : Phase

def Conn.new (now : ℕ) : Conn := ⟨none,⟨0,now⟩,⟨0,now⟩,0,.idle⟩

structure Sub where
  connId : ℕ
  subId : String
  p : PublicKey

inductive Reply
  | ok (id : String) (accepted : Bool) (message : String)
  | closed (subId message : String)
  | eose (subId : String)
  | notice (message : String)

structure Handover where
  publisher : ℕ
  attempt : Attempt
  /-- When its id was reserved. -/
  time : ℕ
  sub : Sub

structure World where
  now : ℕ
  conns : Table ℕ Conn
  connCount : ℕ
  nextConnId : ℕ
  subs : List Sub
  seenIds : List (EventId × ℕ)
  delivered : Table PublicKey (ℕ × ℕ)
  /-- The answers given, newest first; `attempted` and `handed` are kept in the same way. -/
  replies : List (ℕ × Reply)
  attempted : List Json
  handed : List Handover

namespace World

def start : World := ⟨0,∅,0,0,[],[],∅,[],[],[]⟩

variable (w : World) (c : ℕ)

def setConn (conn : Conn) : World := { w with conns := w.conns.insert c conn }

def reply (r : Reply) : World := { w with replies := (c,r) :: w.replies }

def removeSub : World := { w with subs := w.subs.filter fun s => s.connId ≠ c }

def closeConn : World := { w.removeSub c with conns := w.conns.erase c, connCount := w.connCount - 1 }

def liveIds : List (EventId × ℕ) := w.seenIds.filter fun q => w.now < q.2 + entryTtl

/-- `Ok(true)` for a duplicate, `Ok(false)` for a new id, which is then reserved. -/
def reserveId (id : EventId) : List (EventId × ℕ) × Except Unit Bool :=
  if id ∈ w.liveIds.map Prod.fst then (w.liveIds,.ok true)
  else if dedupCap ≤ w.liveIds.length then (w.liveIds,.error ())
  else (w.liveIds ++ [(id,w.now)],.ok false)

def unreserveId (id : EventId) : List (EventId × ℕ) := w.seenIds.eraseP fun q => q.1 = id

def liveDelivered : Table PublicKey (ℕ × ℕ) :=
  (w.delivered.entries.filter fun entry => w.now < entry.2.2 + entryTtl).toAList

/-- The delivery counters, and the subscription that was handed the event; `sent` says whether
its queue took the message. -/
def deliverSingle (p : PublicKey) (sent : Bool) : Table PublicKey (ℕ × ℕ) × Except Refusal Sub :=
  match w.subs.filter fun s => s.p = p with
  | [] => (w.delivered,.error .noLiveSubscriber)
  | [sub] =>
    let count := ((w.liveDelivered.lookup p).map Prod.fst).getD 0
    if maxDeliveredPerP ≤ count then (w.liveDelivered,.error .budgetExhausted)
    else if deliveredMapCap ≤ w.liveDelivered.entries.length ∧ (w.liveDelivered.lookup p).isNone then
      (w.liveDelivered,.error .atCapacity)
    else if sent then (w.liveDelivered.insert p (count+1,w.now),.ok sub)
    else (w.liveDelivered,.error .deliveryFailed)
  | _ => (w.delivered,.error .ambiguousRecipient)

end World

/-- A frame from the peer; the text is a value or does not parse. -/
inductive Frame
  | text (value : Option Json)
  | ping
  | pong
  | binary
  | close

section

variable (R : Host) (w : World) (c : ℕ) (conn : Conn)

def handleReq (queued : Bool) : List Json → World
  | .string subId :: filter :: rest =>
    if subIdMax < subId.utf8ByteSize then w.reply c (.closed "" "error: sub_id too long")
    else if !rest.isEmpty then w.reply c (.closed subId "error: multiple filters not supported")
    else if filter.asObject.isNone then w.reply c (.closed subId "error: invalid filter")
    else if conn.subId.isSome then
      w.reply c (.closed subId "error: already subscribed, send CLOSE first")
    else
      match validateFilter filter with
      | .error reason => w.reply c (.closed subId ("error: " ++ reason))
      | .ok p =>
        if w.subs.any fun s => s.p = p then
          w.reply c (.closed subId "error: #p already has a live subscriber")
        else if queued then
          { w.setConn c { conn with subId := some subId } with
            subs := w.subs ++ [⟨c,subId,p⟩]
            replies := (c,.eose subId) :: w.replies }
        else w.closeConn c
  | _ => w.reply c (.notice "error: invalid REQ")

/-- An EVENT message up to the checks that take no lock. -/
def handleEvent : List Json → World
  | [ev] =>
    let conn := { conn with eventRate := conn.eventRate.tick w.now }
    let w := w.setConn c conn
    if rateEventMax < conn.eventRate.count then w.reply c (.ok (safeEventId ev) false "rate-limited")
    else if maxEventsPerConn ≤ conn.eventsAttempted then
      w.reply c (.ok (safeEventId ev) false "error: session event limit reached")
    else if ev.asObject.isNone then w.reply c (.ok "" false "invalid: malformed event")
    else
      match validateEvent (R.wallSecs w.now) ev with
      | .error reason => w.reply c (.ok (safeEventId ev) false ("invalid: " ++ reason))
      | .ok (eventId,id,p) =>
        match verifyEventSig R ev with
        | .error reason => w.reply c (.ok eventId false reason)
        | .ok () =>
          { w.setConn c { conn with
              eventsAttempted := conn.eventsAttempted + 1
              phase := .checked ⟨ev,eventId,id,p,w.now⟩ } with
            attempted := ev :: w.attempted }
  | _ => w.reply c (.notice "error: invalid EVENT")

def handleClose : List Json → World
  | [.string subId] =>
    if conn.subId = some subId then (w.removeSub c).setConn c { conn with subId := none } else w
  | _ => w.reply c (.notice "error: invalid CLOSE")

def handleText (queued : Bool) (value : Option Json) : World :=
  match value.bind Json.asArray with
  | some (.string "REQ" :: rest) => handleReq w c conn queued rest
  | some (.string "EVENT" :: rest) => handleEvent R w c conn rest
  | some (.string "CLOSE" :: rest) => handleClose w c conn rest
  | some (.string _ :: _) => w.reply c (.notice "error: unsupported message")
  | _ => w.reply c (.notice "error: invalid message")

def handleFrame (queued : Bool) (frame : Frame) : World :=
  let conn := { conn with msgRate := conn.msgRate.tick w.now }
  let w := w.setConn c conn
  if rateMsgMax < conn.msgRate.count then w.closeConn c
  else
    match frame with
    | .binary | .close => w.closeConn c
    | .pong => w
    | .ping => if queued then w else w.closeConn c
    | .text value => handleText R w c conn queued value

def handleReserve (a : Attempt) : World :=
  let reserved := w.reserveId a.id
  let w := { w with seenIds := reserved.1 }
  match reserved.2 with
  | .ok true => (w.setConn c { conn with phase := .idle }).reply c
    (.ok a.eventId false "duplicate: already seen")
  | .error () => (w.setConn c { conn with phase := .idle }).reply c (.ok a.eventId false "relay at capacity")
  | .ok false => w.setConn c { conn with phase := .reserved a w.now }

def handleDeliver (sent : Bool) (a : Attempt) (time : ℕ) : World :=
  let delivery := w.deliverSingle a.p sent
  let w := { w with delivered := delivery.1 }
  match delivery.2 with
  | .ok sub =>
    { (w.setConn c { conn with phase := .idle }).reply c (.ok a.eventId true "") with
      handed := ⟨c,a,time,sub⟩ :: w.handed }
  | .error reason => w.setConn c { conn with phase := .failing a time reason }

def handleUnreserve (a : Attempt) (reason : Refusal) : World :=
  let w := { w with seenIds := w.unreserveId a.id }
  (w.setConn c { conn with phase := .idle }).reply c (.ok a.eventId false reason.text)

end

inductive Action
  | tick (nanos : ℕ)
  | connect
  | disconnect (c : ℕ)
  | frame (c : ℕ) (queued : Bool) (frame : Frame)
  | reserve (c : ℕ)
  | deliver (c : ℕ) (sent : Bool)
  | unreserve (c : ℕ)

def step (R : Host) (w : World) : Action → Option World
  | .tick nanos => some { w with now := w.now + nanos }
  | .connect =>
    if w.connCount < maxConns then
      some { w.setConn w.nextConnId (.new w.now) with
        connCount := w.connCount + 1
        nextConnId := w.nextConnId + 1 }
    else none
  | .disconnect c =>
    (w.conns.lookup c).bind fun conn =>
      match conn.phase with
      | .idle => some (w.closeConn c)
      | _ => none
  | .frame c queued frame =>
    (w.conns.lookup c).bind fun conn =>
      match conn.phase with
      | .idle => some (handleFrame R w c conn queued frame)
      | _ => none
  | .reserve c =>
    (w.conns.lookup c).bind fun conn =>
      match conn.phase with
      | .checked a => some (handleReserve w c conn a)
      | _ => none
  | .deliver c sent =>
    (w.conns.lookup c).bind fun conn =>
      match conn.phase with
      | .reserved a time => some (handleDeliver w c conn sent a time)
      | _ => none
  | .unreserve c =>
    (w.conns.lookup c).bind fun conn =>
      match conn.phase with
      | .failing a _ reason => some (handleUnreserve w c conn a reason)
      | _ => none

end BuzzSolo.PairRelay
