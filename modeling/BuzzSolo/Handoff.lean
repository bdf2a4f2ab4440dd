import BuzzSolo.KeyedGroups
import BuzzSolo.OwnerAttestation
import Mathlib.Data.String.Basic

/-! The handoff reducer. For every open in a list of signed events it works out which claim, return
and close are authorized and what state the handoff is in; what fails its validation is reported
with the reason. -/
namespace BuzzSolo.Handoff

open Checks HexText OwnerAttestation

inductive Json
  | null
  | bool (value : Bool)
  | number (text : String)
  | string (value : String)
  | array (items : List Json)
  | object (fields : List (String × Json))

namespace Json

def asStr : Json → Option String
  | .string value => some value
  | _ => none

def asArray : Json → Option (List Json)
  | .array items => some items
  | _ => none

def asObject : Json → Option (List (String × Json))
  | .object fields => some fields
  | _ => none

end Json

def field (fields : List (String × Json)) (name : String) : Option Json :=
  (fields.find? fun f => f.1 = name).map Prod.snd

def Json.get (value : Json) (name : String) : Option Json :=
  value.asObject.bind fun fields => field fields name

/-- The crates the reducer calls: `parseJson` is `serde_json::from_str` at the value type. -/
structure Crates extends Nostr, Schnorr where
  parseJson : String → Option Json

def kindTextNote : ℕ := 1
def handoffOpen : String := "handoff:open"
def handoffClaim : String := "handoff:claim"
def handoffReturn : String := "handoff:return"
def handoffClose : String := "handoff:close"
def handoffAckInvalid : String := "handoff:ack-invalid"
def maxInvalidAckTargets : ℕ := 256

inductive LifecycleState
  | opened | claimed | conflict | returned | closed | invalid | acknowledgedInvalid
  deriving DecidableEq

structure IgnoredEvent where
  id : String
  reason : String
  deriving DecidableEq

structure HandoffState where
  openId : String
  title : String
  context : String
  openerPubkey : String
  openerOwnerPubkey : String
  allowedClaimants : List String
  createdAt : ℕ
  updatedAt : ℕ
  state : LifecycleState
  claimId : Option String
  claimantPubkey : Option String
  claimCreatedAt : Option ℕ
  returnId : Option String
  returnCreatedAt : Option ℕ
  closeId : Option String
  closeCreatedAt : Option ℕ
  acknowledgmentId : Option String
  acknowledgmentCreatedAt : Option ℕ
  conflictingClaims : List String
  ignored : List IgnoredEvent

structure OpenAuthority where
  id : String
  title : String
  context : String
  openerPubkey : PublicKey
  openerOwnerPubkey : PublicKey
  allowedClaimants : List PublicKey
  createdAt : ℕ
  deriving DecidableEq

structure InvalidOpenAuthority where
  id : String
  context : String
  openerOwnerPubkey : PublicKey
  createdAt : ℕ

structure InvalidAcknowledgments where
  acceptedByOpen : List (String × List Event)
  ignoredByOpen : List (String × List IgnoredEvent)

def sortedSet {α : Type} [LinearOrder α] (items : List α) : List α := items.dedup.insertionSort (· ≤ ·)

def isLowerHex (value : String) (length : ℕ) : Bool :=
  value.toList.length = length && value.toList.all isLowerHexChar

def isLifecycleValue (value : String) : Bool := "handoff:".toList.isPrefixOf value.toList

def tagValues (event : EventBody) (name : String) : List String :=
  event.tags.filterMap fun tag => if tag.name = name then tag.content else none

def lifecycle (event : EventBody) : Option String :=
  event.tags.findSome? fun tag => tag.content.bind fun value =>
    if tag.name = "t" ∧ isLifecycleValue value = true then some value else none

def exactlyOneTag (event : EventBody) (name : String) : Except String String :=
  match tagValues event name with
  | [value] =>
    if value.isEmpty then .error ("event must carry exactly one non-empty " ++ name ++ " tag")
    else .ok value
  | _ => .error ("event must carry exactly one non-empty " ++ name ++ " tag")

def references (event : EventBody) (eventId : String) : Bool :=
  event.tags.any fun tag => tag.name = "e" && tag.content = some eventId

def markedLink (marker : String) (tag : Tag) : Option String :=
  if tag.name = "e" ∧ tag.rest[2]? = some marker then tag.content else none

def linkedEvent (event : EventBody) (marker : String) : Option String :=
  event.tags.findSome? (markedLink marker)

def invalidAckReferences (event : EventBody) : List String :=
  sortedSet ((event.tags.filterMap (markedLink "invalid")).filter fun id => isLowerHex id 64)

variable (C : Crates)

def contentObject (event : EventBody) : Except String (List (String × Json)) := do
  let content ← okOr (C.parseJson event.content) "event content is not JSON"
  okOr content.asObject "event content must be a JSON object"

def nonemptyString (fields : List (String × Json)) (name : String) : Except String String :=
  okOr (((field fields name).bind Json.asStr).filter fun value => !value.isEmpty)
    (name ++ " must be a non-empty string")

def ignoredEvent (event : Event) (reason : String) : IgnoredEvent := ⟨event.id.toHex,reason⟩

def openTitle (event : EventBody) : String :=
  (((C.parseJson event.content).bind fun content =>
    content.asObject.bind fun fields => (field fields "title").bind Json.asStr)).getD
    "(invalid handoff)"

def validateEnvelope (event : Event) (expected : String) : Except String Unit := do
  require (event.kind = kindTextNote) "handoff event must be kind 1"
  require (Verified C.toNostr event) "event signature or id is invalid"
  require ((tagValues event.toEventBody "t").filter isLifecycleValue = [expected])
    ("event must carry exactly one " ++ expected ++ " lifecycle tag")
  let _ ← exactlyOneTag event.toEventBody "h"
  .ok ()

def sameContext (event : Event) (authority : OpenAuthority) : Except String Unit := do
  let context ← exactlyOneTag event.toEventBody "h"
  require (context = authority.context) "lifecycle event does not share the open's h context"

def claimantKey (value : String) : Except String PublicKey := do
  require (isLowerHex value 64 = true) "p tags must contain lowercase 64-character pubkeys"
  okOr (FixedBytes.fromHex 32 value) "p tags must contain lowercase 64-character pubkeys"

def checkTarget (content : List (String × Json)) (allowedClaimants : List PublicKey) : Except String Unit :=
  match ((field content "target").bind Json.asObject).bind fun target =>
    (field target "pubkey").bind Json.asStr with
  | none => .ok ()
  | some targetPubkey => do
    require (isLowerHex targetPubkey 64 = true)
      "target.pubkey is not a lowercase 64-character public key"
    let target ← okOr (FixedBytes.fromHex 32 targetPubkey) "target.pubkey is not a valid public key"
    require (target ∈ allowedClaimants) "target.pubkey must also appear in a p tag"

def validateOpen (event : Event) : Except String OpenAuthority := do
  validateEnvelope C event handoffOpen
  let context ← exactlyOneTag event.toEventBody "h"
  let content ← contentObject C event.toEventBody
  let title ← nonemptyString content "title"
  let baseCommit ← nonemptyString content "base_commit"
  require (isLowerHex baseCommit 40 = true)
    "base_commit must be a canonical lowercase 40-character object id"
  let claimants ← collect claimantKey (tagValues event.toEventBody "p")
  let allowedClaimants := sortedSet claimants
  require (allowedClaimants ≠ []) "open event must p-tag at least one allowed claimant"
  checkTarget content allowedClaimants
  let owner ← eventOwner C.toSchnorr event.toEventBody
  .ok ⟨event.id.toHex,title,context,event.pubkey,owner,allowedClaimants,event.createdAt⟩

def invalidOpenAuthority (event : Event) : Except String InvalidOpenAuthority := do
  validateEnvelope C event handoffOpen
  let context ← exactlyOneTag event.toEventBody "h"
  let owner ← eventOwner C.toSchnorr event.toEventBody
  .ok ⟨event.id.toHex,context,owner,event.createdAt⟩

def validateClaim (authority : OpenAuthority) (event : Event) : Except String Unit := do
  validateEnvelope C event handoffClaim
  sameContext event authority
  require (authority.createdAt < event.createdAt) "claim must post after its open"
  require (linkedEvent event.toEventBody "root" = some authority.id)
    "claim must identify its open with an e/root tag"
  require (event.pubkey ∈ authority.allowedClaimants) "claim signer is not p-tagged by the open"
  let _ ← eventOwner C.toSchnorr event.toEventBody
  .ok ()

def validateReturn (authority : OpenAuthority) (claim event : Event) : Except String Unit := do
  validateEnvelope C event handoffReturn
  sameContext event authority
  require (claim.createdAt < event.createdAt) "return must post after its accepted claim"
  require (event.pubkey = claim.pubkey) "return signer is not the cryptographic claimant"
  require (linkedEvent event.toEventBody "root" = some authority.id)
    "return must identify its open with an e/root tag"
  require (linkedEvent event.toEventBody "claim" = some claim.id.toHex)
    "return must identify its accepted claim with an e/claim tag"
  let content ← contentObject C event.toEventBody
  require ((field content "claim_id").bind Json.asStr = some claim.id.toHex)
    "return content must restate the accepted claim_id"
  require ((field content "status").bind Json.asStr = some "done" ∨
      (field content "status").bind Json.asStr = some "failed")
    "return status must be done or failed"
  let _ ← eventOwner C.toSchnorr event.toEventBody
  .ok ()

def validateClose (authority : OpenAuthority) (returned event : Event) : Except String Unit := do
  validateEnvelope C event handoffClose
  sameContext event authority
  require (returned.createdAt < event.createdAt) "close must post after the return it verifies"
  require (linkedEvent event.toEventBody "root" = some authority.id)
    "close must identify its open with an e/root tag"
  require (linkedEvent event.toEventBody "return" = some returned.id.toHex)
    "close must identify the current return with an e/return tag"
  let content ← contentObject C event.toEventBody
  require ((field content "return_id").bind Json.asStr = some returned.id.toHex)
    "close content must restate the verified return_id"
  let owner ← eventOwner C.toSchnorr event.toEventBody
  require (owner = authority.openerOwnerPubkey)
    "close is not authorized by the opener's owner identity"

/-- The entry of a key in a map collected from entries: a later entry replaces an earlier
one. -/
def lastOf {α : Type} (entries : List (String × α)) (key : String) : Option α :=
  (entries.reverse.find? fun entry => entry.1 = key).map Prod.snd

def ackTarget (value : Json) : Except String String :=
  okOr (value.asStr.filter fun id => isLowerHex id 64)
    "invalid acknowledgment open_ids must be lowercase 64-character event ids"

def checkAckTarget (invalidOpens : List (String × InvalidOpenAuthority)) (event : Event)
    (context : String) (owner : PublicKey) (openId : String) : Except String Unit := do
  let invalidOpen ← okOr (lastOf invalidOpens openId)
    ("invalid acknowledgment target " ++ openId ++ " is not an invalid open")
  require (context = invalidOpen.context)
    "invalid acknowledgment targets opens from different h contexts"
  require (invalidOpen.createdAt < event.createdAt)
    "invalid acknowledgment must post after every targeted open"
  require (owner = invalidOpen.openerOwnerPubkey)
    "invalid acknowledgment is not authorized by every opener's owner identity"

def validateInvalidAck (invalidOpens : List (String × InvalidOpenAuthority))
    (event : Event) : Except String (List String) := do
  validateEnvelope C event handoffAckInvalid
  let context ← exactlyOneTag event.toEventBody "h"
  let owner ← eventOwner C.toSchnorr event.toEventBody
  let taggedIds := event.tags.filterMap (markedLink "invalid")
  require (taggedIds ≠ [] ∧ ∀ id ∈ taggedIds, isLowerHex id 64 = true)
    "invalid acknowledgment must carry lowercase 64-character e/invalid tags"
  require (taggedIds.length ≤ maxInvalidAckTargets)
    "invalid acknowledgment cannot target more than 256 opens"
  require ((sortedSet taggedIds).length = taggedIds.length)
    "invalid acknowledgment contains duplicate e/invalid tags"
  let content ← contentObject C event.toEventBody
  require ((field content "status").bind Json.asStr = some "acknowledged-invalid")
    "invalid acknowledgment status must be acknowledged-invalid"
  let items ← okOr ((field content "open_ids").bind Json.asArray)
    "invalid acknowledgment content must contain open_ids"
  require (items.length ≤ maxInvalidAckTargets)
    "invalid acknowledgment cannot target more than 256 opens"
  let contentIds ← collect ackTarget items
  require ((sortedSet contentIds).length = contentIds.length)
    "invalid acknowledgment contains duplicate open_ids"
  require (sortedSet contentIds = sortedSet taggedIds)
    "invalid acknowledgment open_ids do not match its e/invalid tags"
  let _ ← collect (checkAckTarget invalidOpens event context owner) (sortedSet contentIds)
  .ok (sortedSet contentIds)

/-- Earlier events first, events of one second by id. -/
def EventOrder (left right : Event) : Prop :=
  left.createdAt < right.createdAt ∨ (left.createdAt = right.createdAt ∧ left.id ≤ right.id)

instance : DecidableRel EventOrder := fun _ _ => inferInstanceAs (Decidable (_ ∨ _))

def accepted (validate : Event → Except String Unit) (events : List Event) : List Event :=
  events.filter fun event => (validate event).toBool

def rejected (validate : Event → Except String Unit) (events : List Event) : List IgnoredEvent :=
  events.filterMap fun event =>
    match validate event with
    | .ok () => none
    | .error reason => some (ignoredEvent event reason)

def invalidOpens (events : List Event) : List (String × InvalidOpenAuthority) :=
  events.filterMap fun event =>
    if lifecycle event.toEventBody = some handoffOpen ∧ (validateOpen C event).toBool = false then
      match invalidOpenAuthority C event with
      | .ok authority => some (authority.id,authority)
      | .error _ => none
    else none

def ackEvents (events : List Event) : List Event :=
  events.filter fun event => lifecycle event.toEventBody = some handoffAckInvalid

def acceptedAcks (invalidOpens : List (String × InvalidOpenAuthority))
    (event : Event) : List (String × Event) :=
  match validateInvalidAck C invalidOpens event with
  | .ok openIds => openIds.map fun openId => (openId,event)
  | .error _ => []

/-- A failed acknowledgment under each of the invalid opens it refers to. -/
def rejectedAcks (invalidOpens : List (String × InvalidOpenAuthority))
    (event : Event) : List (String × IgnoredEvent) :=
  match validateInvalidAck C invalidOpens event with
  | .ok _ => []
  | .error reason =>
    ((invalidAckReferences event.toEventBody).filter fun openId =>
      (lastOf invalidOpens openId).isSome).map fun openId => (openId,ignoredEvent event reason)

def sortGroups {κ : Type} (groups : List (κ × List Event)) : List (κ × List Event) :=
  groups.map fun group => (group.1,group.2.insertionSort EventOrder)

def buildInvalidAcknowledgments (events : List Event) : InvalidAcknowledgments :=
  let invalid := invalidOpens C events
  ⟨sortGroups (KeyedGroups.collect ((ackEvents events).flatMap (acceptedAcks C invalid))),
    KeyedGroups.collect ((ackEvents events).flatMap (rejectedAcks C invalid))⟩

def stateFromAuthority (authority : OpenAuthority) (state : LifecycleState)
    (claim returned close : Option Event) (conflictingClaims : List String)
    (ignored : List IgnoredEvent) : HandoffState where
  openId := authority.id
  title := authority.title
  context := authority.context
  openerPubkey := authority.openerPubkey.toHex
  openerOwnerPubkey := authority.openerOwnerPubkey.toHex
  allowedClaimants := authority.allowedClaimants.map FixedBytes.toHex
  createdAt := authority.createdAt
  updatedAt := ((close.or (returned.or claim)).map (·.createdAt)).getD authority.createdAt
  state := state
  claimId := claim.map (·.id.toHex)
  claimantPubkey := claim.map (·.pubkey.toHex)
  claimCreatedAt := claim.map (·.createdAt)
  returnId := returned.map (·.id.toHex)
  returnCreatedAt := returned.map (·.createdAt)
  closeId := close.map (·.id.toHex)
  closeCreatedAt := close.map (·.createdAt)
  acknowledgmentId := none
  acknowledgmentCreatedAt := none
  conflictingClaims := conflictingClaims
  ignored := ignored

def invalidState (event : Event) (reason : String) (acks : InvalidAcknowledgments) : HandoffState :=
  let acknowledgments := KeyedGroups.get acks.acceptedByOpen event.id.toHex
  let acknowledgment := acknowledgments.head?
  { openId := event.id.toHex
    title := openTitle C event.toEventBody
    context := (tagValues event.toEventBody "h").head?.getD ""
    openerPubkey := event.pubkey.toHex
    openerOwnerPubkey :=
      match invalidOpenAuthority C event with
      | .ok authority => authority.openerOwnerPubkey.toHex
      | .error _ => ""
    allowedClaimants := []
    createdAt := event.createdAt
    updatedAt := (acknowledgment.map (·.createdAt)).getD event.createdAt
    state := if acknowledgment.isSome then .acknowledgedInvalid else .invalid
    claimId := none
    claimantPubkey := none
    claimCreatedAt := none
    returnId := none
    returnCreatedAt := none
    closeId := none
    closeCreatedAt := none
    acknowledgmentId := acknowledgment.map (·.id.toHex)
    acknowledgmentCreatedAt := acknowledgment.map (·.createdAt)
    conflictingClaims := []
    ignored := ignoredEvent event reason :: KeyedGroups.get acks.ignoredByOpen event.id.toHex ++
      acknowledgments.tail.map (ignoredEvent · "duplicate acknowledgment for invalid handoff") }

def stepEvents (events : List Event) (step openId : String) : List Event :=
  events.filter fun event =>
    lifecycle event.toEventBody = some step && references event.toEventBody openId

def acceptedClaims (authority : OpenAuthority) (events : List Event) : List Event :=
  accepted (validateClaim C authority) (stepEvents events handoffClaim authority.id)

def claimsByAuthor (authority : OpenAuthority) (events : List Event) : List (PublicKey × List Event) :=
  sortGroups (KeyedGroups.collect ((acceptedClaims C authority events).map fun event =>
    (event.pubkey,event)))

def conflictingClaims (groups : List (PublicKey × List Event)) : List String :=
  (groups.filterMap fun group => group.2.head?.map (·.id.toHex)).insertionSort (· ≤ ·)

/-- The verdict once a claim is accepted: its newest valid return and a close of that
return. -/
def reduceClaimed (authority : OpenAuthority) (events : List Event) (claim : Event)
    (ignored : List IgnoredEvent) : HandoffState :=
  let returnEvents := stepEvents events handoffReturn authority.id
  let ignored := ignored ++ rejected (validateReturn C authority claim) returnEvents
  match ((accepted (validateReturn C authority claim) returnEvents).insertionSort
      EventOrder).getLast? with
  | none => stateFromAuthority authority .claimed (some claim) none none [] ignored
  | some returned =>
    let closeEvents := stepEvents events handoffClose authority.id
    let ignored := ignored ++ rejected (validateClose C authority returned) closeEvents
    let close := ((accepted (validateClose C authority returned) closeEvents).insertionSort
      EventOrder).head?
    stateFromAuthority authority (if close.isSome then .closed else .returned) (some claim)
      (some returned) close [] ignored

/-- A group is never empty, so the last case is that of no claim. -/
def reduceHandoffWithInvalidAcknowledgments (openEvent : Event) (events : List Event)
    (acks : InvalidAcknowledgments) : HandoffState :=
  match validateOpen C openEvent with
  | .error reason => invalidState C openEvent reason acks
  | .ok authority =>
    let groups := claimsByAuthor C authority events
    let ignored := rejected (validateClaim C authority) (stepEvents events handoffClaim authority.id)
    if 1 < groups.length then
      stateFromAuthority authority .conflict none none none (conflictingClaims groups) ignored
    else
      match groups with
      | (_,claim :: duplicates) :: _ =>
        reduceClaimed C authority events claim (ignored ++
          duplicates.map (ignoredEvent · "duplicate claim by the accepted claimant"))
      | _ => stateFromAuthority authority .opened none none none [] ignored

def reduceHandoff (openEvent : Event) (events : List Event) : HandoffState :=
  reduceHandoffWithInvalidAcknowledgments C openEvent events (buildInvalidAcknowledgments C events)

/-- Newer handoffs first, handoffs of one second by the id of their open. -/
def ReportOrder (left right : HandoffState) : Prop :=
  right.createdAt < left.createdAt ∨ (left.createdAt = right.createdAt ∧ left.openId ≤ right.openId)

instance : DecidableRel ReportOrder := fun _ _ => inferInstanceAs (Decidable (_ ∨ _))

def handoffs (selectedOpen : Option String) (events : List Event) : List HandoffState :=
  let opens := events.filter fun event => lifecycle event.toEventBody = some handoffOpen &&
    selectedOpen.all fun selected => selected = event.id.toHex
  (opens.map fun event => reduceHandoff C event events).insertionSort ReportOrder

end BuzzSolo.Handoff
