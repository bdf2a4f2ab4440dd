import BuzzSolo.HexText

/-! The signed event envelope, its tags, and the verification every adapter starts with.
The hash behind an event id and the signature check belong to a crate outside the
repository; they are the two fields of `Nostr`. -/
namespace BuzzSolo

open HexText

abbrev EventId := FixedBytes 32
abbrev PublicKey := FixedBytes 32
abbrev Signature := FixedBytes 64
abbrev Uuid := FixedBytes 16

/-- A tag is a non-empty array of strings; the parser refuses an empty one. -/
structure Tag where
  name : String
  rest : List String
  deriving DecidableEq

namespace Tag

def asSlice (t : Tag) : List String := t.name :: t.rest

/-- The second element of the array, when there is one. -/
def content (t : Tag) : Option String := t.rest.head?

lemma asSlice_injective : Function.Injective asSlice := by
  intro a b h
  cases a
  cases b
  simpa [asSlice] using h

end Tag

/-- The fields an event id is the hash of. -/
structure EventBody where
  pubkey : PublicKey
  createdAt : ℕ
  kind : ℕ
  tags : List Tag
  content : String
  deriving DecidableEq

structure Event extends EventBody where
  id : EventId
  sig : Signature
  deriving DecidableEq

def unsigned (event : Event) : EventId × EventBody := (event.id,event.toEventBody)

/-- `Tags::filter` on a tag kind. -/
def EventBody.tagsNamed (e : EventBody) (name : String) : List Tag := e.tags.filter fun t => t.name = name

/-- What `verify_event` calls in the nostr crate: `EventId::new` and `verify_signature`. -/
structure Nostr where
  eventIdNew : EventBody → EventId
  verifySignature : Event → Bool

inductive VerificationError
  | invalidId (computed got : String)
  | invalidSignature

def VerificationError.text : VerificationError → String
  | .invalidId computed got => "invalid event id: computed " ++ computed ++ ", got " ++ got
  | .invalidSignature => "invalid schnorr signature"

variable (N : Nostr)

def verifyEvent (event : Event) : Except VerificationError Unit :=
  if N.eventIdNew event.toEventBody ≠ event.id then
    .error (.invalidId (N.eventIdNew event.toEventBody).toHex event.id.toHex)
  else if N.verifySignature event = false then .error .invalidSignature
  else .ok ()

def Verified (event : Event) : Prop := verifyEvent N event = .ok ()

instance (N : Nostr) (event : Event) : Decidable (Verified N event) :=
  match h : verifyEvent N event with
  | .ok () => isTrue h
  | .error _ => isFalse (by simp [Verified,h])

lemma verified_iff (e : Event) : Verified N e ↔
      N.eventIdNew e.toEventBody = e.id ∧ N.verifySignature e = true := by
  unfold Verified verifyEvent
  split_ifs with hid hs <;> simp_all

/-- No two of the given events hash different fields to one id. -/
def NoCollision (events : List Event) : Prop :=
  ∀ a ∈ events, ∀ b ∈ events, N.eventIdNew a.toEventBody = N.eventIdNew b.toEventBody →
    a.toEventBody = b.toEventBody

lemma NoCollision.subset {N : Nostr} {es sub : List Event} (h : NoCollision N es)
    (hs : ∀ e ∈ sub, e ∈ es) : NoCollision N sub :=
  fun a ha b hb => h a (hs a ha) b (hs b hb)

lemma body_eq_of_id_eq {N : Nostr} {es : List Event} (h : NoCollision N es) {a b : Event}
    (ha : a ∈ es) (hb : b ∈ es) (hva : Verified N a) (hvb : Verified N b)
    (hid : a.id = b.id) : a.toEventBody = b.toEventBody := by
  have ha' := ((verified_iff N a).1 hva).1
  have hb' := ((verified_iff N b).1 hvb).1
  exact h a ha b hb (ha'.trans (hid.trans hb'.symm))

lemma unsigned_eq_of_id_eq {N : Nostr} {es : List Event} (h : NoCollision N es) {a b : Event}
    (ha : a ∈ es) (hb : b ∈ es) (hva : Verified N a) (hvb : Verified N b)
    (hid : a.id = b.id) : unsigned a = unsigned b :=
  Prod.ext hid (body_eq_of_id_eq h ha hb hva hvb hid)

/-- The keys of the samples, with the secrets one, two and three. -/
def firstKey : PublicKey := .ofNat 32 0x79be667ef9dcbbac55a06295ce870b07029bfcdb2dce28d959f2815b16f81798

def secondKey : PublicKey := .ofNat 32 0xc6047f9441ed7d6d3045406e95c07cd85c778e4b8cef3ca7abac09b95c709ee5

def thirdKey : PublicKey := .ofNat 32 0xf9308a019258c31049344f85f89d5229b531c845836f99b08601f113bce036f9

end BuzzSolo
