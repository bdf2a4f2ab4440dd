import BuzzSolo.Event
import BuzzSolo.LatestRegister
import Mathlib.Data.String.Basic

/-! Event classification and effective-state reduction, and their reading as a keyed
latest-value register: the effective list keeps, for each replacement key, the event
that no other event of the key outranks. -/
namespace BuzzSolo.Ingest

open LatestRegister List

/-- A stored event with the channel scope the relay derives for it. The receive time
and the verification flag are never read and are left out. -/
structure StoredEvent where
  event : Event
  channelId : Option Uuid
  deriving DecidableEq

inductive ReplacementKey
  | replaceable (author : PublicKey) (kind : ℕ)
  | parameterized (author : PublicKey) (kind : ℕ) (identifier : String)
  deriving DecidableEq

inductive EventClass
  | regular
  | replaceable (key : ReplacementKey)
  | ephemeral

inductive EventDecision
  | stored | duplicate | superseded | ephemeral
  deriving DecidableEq

def isEphemeralKind (kind : ℕ) : Bool := 20000 ≤ kind && kind < 30000

/-- The value of the first `d` tag that has one, or the empty string. -/
def identifier (event : Event) : String := ((event.tagsNamed "d").findSome? Tag.content).getD ""

def replacementKey (event : Event) : Option ReplacementKey :=
  if event.kind = 0 ∨ event.kind = 3 ∨ (10000 ≤ event.kind ∧ event.kind < 20000) then
    some (.replaceable event.pubkey event.kind)
  else if 30000 ≤ event.kind ∧ event.kind < 40000 then
    some (.parameterized event.pubkey event.kind (identifier event))
  else none

def classifyEvent (event : Event) : EventClass :=
  if isEphemeralKind event.kind then .ephemeral
  else match replacementKey event with
    | some key => .replaceable key
    | none => .regular

def replacementCandidateWins (candidate current : Event) : Bool :=
  decide (current.createdAt < candidate.createdAt) || (decide (candidate.createdAt = current.createdAt) &&
      decide (candidate.id.toHex < current.id.toHex))

def sameStream (key : ReplacementKey) (stored : StoredEvent) : Bool := replacementKey stored.event = some key

def decideEvent (effectiveEvents : List StoredEvent) (previouslyAccepted : Bool)
    (candidate : Event) : EventDecision :=
  if previouslyAccepted || effectiveEvents.any (fun stored => stored.event.id = candidate.id) then
    .duplicate
  else match classifyEvent candidate with
    | .ephemeral => .ephemeral
    | .regular => .stored
    | .replaceable candidateKey =>
      match effectiveEvents.find? (sameStream candidateKey) with
      | some current =>
        if !replacementCandidateWins candidate current.event then .superseded else .stored
      | none => .stored

def applyEffectiveEvent (effectiveEvents : List StoredEvent) (candidate : StoredEvent) :
    List StoredEvent × EventDecision :=
  let decision := decideEvent effectiveEvents false candidate.event
  if decision ≠ .stored then (effectiveEvents,decision)
  else
    let replacementIndex := (replacementKey candidate.event).bind fun candidateKey =>
      effectiveEvents.findIdx? (sameStream candidateKey)
    match replacementIndex with
    | some index => (effectiveEvents.set index candidate,.stored)
    | none => (effectiveEvents ++ [candidate],.stored)

/-- Newer wins; at equal times the smaller hexadecimal id wins. -/
def rank (event : Event) : ℕ ×ₗ Stringᵒᵈ := toLex (event.createdAt,OrderDual.toDual event.id.toHex)

def stream : Stream StoredEvent EventId ReplacementKey (ℕ ×ₗ Stringᵒᵈ) where
  ident s := s.event.id
  key s := replacementKey s.event
  rank s := rank s.event

variable (s : StoredEvent)

@[simp] lemma stream_ident : stream.ident s = s.event.id := rfl
@[simp] lemma stream_key : stream.key s = replacementKey s.event := rfl
@[simp] lemma stream_rank : stream.rank s = rank s.event := rfl

lemma replacementCandidateWins_iff (cand cur : Event) :
    replacementCandidateWins cand cur = true ↔ rank cur < rank cand := by
  rw [rank,rank,Prod.Lex.toLex_lt_toLex]
  simp only [replacementCandidateWins,OrderDual.toDual_lt_toDual,Bool.or_eq_true, Bool.and_eq_true,
    decide_eq_true_eq]
  rw [eq_comm (a := cand.createdAt)]

lemma rank_inj (a b : Event) (h : rank a = rank b) : a.id = b.id := by
  have h' : a.createdAt = b.createdAt ∧ a.id.toHex = b.id.toHex := by
    simpa [rank] using h
  exact HexText.FixedBytes.toHex_injective h'.2

lemma replacementKey_congr {a b : Event} (h : a.toEventBody = b.toEventBody) :
    replacementKey a = replacementKey b := by
  cases a; cases b
  subst h
  rfl

lemma rank_congr {a b : Event} (h : a.toEventBody = b.toEventBody) (hid : a.id = b.id) : rank a = rank b := by
  simp [rank,h,hid]

variable {effective : List StoredEvent}

/-- What the decision on a durable candidate is: a known id is a duplicate, and any other
candidate is stored unless the effective list covers it. -/
lemma decideEvent_durable (seen : Bool) (cand : StoredEvent)
    (hse : Separated stream effective) (hd : isEphemeralKind cand.event.kind = false) :
    decideEvent effective seen cand.event =
      if seen = true ∨ ∃ s ∈ effective, s.event.id = cand.event.id then .duplicate
      else if Covered stream effective cand then .superseded else .stored := by
  by_cases hk : seen = true ∨ ∃ s ∈ effective, s.event.id = cand.event.id
  · simp [decideEvent,hk]
  · have hseen : seen = false := by simpa using fun h => hk (.inl h)
    have hid : ¬ ∃ s ∈ effective, s.event.id = cand.event.id := fun h => hk (.inr h)
    have hf : ∀ s ∈ effective, stream.ident s ≠ stream.ident cand := fun s hs hsi => hid ⟨s,hs,hsi⟩
    cases hkey : replacementKey cand.event with
    | none =>
      have hn : ¬ Covered stream effective cand := by
        simp [covered_iff_rival hf,Rivals,hkey]
      simp [decideEvent,classifyEvent,hd,hkey,hn]
    | some key =>
      cases hc : effective.find? (sameStream key) with
      | none =>
        have hn : ¬ Covered stream effective cand := by
          rw [covered_iff_rival hf]
          rintro ⟨s,hs,hr,-⟩
          have hsk : sameStream key s = true := by
            simpa [sameStream,hkey] using hr.2
          exact absurd hsk (find?_eq_none.1 hc s hs)
        simp [decideEvent,classifyEvent,hd,hkey,hc,hn]
      | some cur =>
        have hm := mem_of_find?_eq_some hc
        have hck : replacementKey cur.event = some key := by
          simpa [sameStream] using find?_some hc
        have hr : Rivals stream cur cand := ⟨by simp [hkey],by simp [hkey,hck]⟩
        have hwi : Covered stream effective cand ↔ replacementCandidateWins cand.event cur.event = false := by
          rw [hse.covered_iff_rank hf hm hr,← Bool.not_eq_true,replacementCandidateWins_iff, not_lt]
          rfl
        cases hw : replacementCandidateWins cand.event cur.event <;>
          simp [decideEvent,classifyEvent,hd,hkey,hc,hwi]

lemma decideEvent_stored_iff (cand : StoredEvent) (hse : Separated stream effective)
    (hd : isEphemeralKind cand.event.kind = false) : decideEvent effective false cand.event = .stored ↔
      ¬ Covered stream effective cand := by
  rw [decideEvent_durable false cand hse hd]
  by_cases hid : ∃ s ∈ effective, s.event.id = cand.event.id
  · have hc : Covered stream effective cand := by
      obtain ⟨s,hs,hsi⟩ := hid
      exact ⟨s,hs,.inl hsi⟩
    simp [hid,hc]
  · by_cases hc : Covered stream effective cand <;> simp [hid]

lemma decideEvent_ephemeral_iff (eff : List StoredEvent) (e : Event)
    (h : ¬ ∃ s ∈ eff, s.event.id = e.id) :
    decideEvent eff false e = .ephemeral ↔ isEphemeralKind e.kind = true := by
  cases he : isEphemeralKind e.kind with
  | true => simp [decideEvent,h,classifyEvent,he]
  | false =>
    cases hkey : replacementKey e with
    | none => simp [decideEvent,h,classifyEvent,he,hkey]
    | some key =>
      cases hc : eff.find? (sameStream key) with
      | none => simp [decideEvent,h,classifyEvent,he,hkey,hc]
      | some cur =>
        cases hw : replacementCandidateWins e cur.event <;>
          simp [decideEvent,h,classifyEvent,he,hkey,hc,hw]

lemma place_eq (eff : List StoredEvent) (cand : StoredEvent) :
    (match (replacementKey cand.event).bind fun key => eff.findIdx? (sameStream key) with
      | some ix => eff.set ix cand
      | none => eff ++ [cand]) = place stream cand eff := by
  induction eff with
  | nil => cases replacementKey cand.event <;> simp [place]
  | cons s rest ih =>
    cases hkey : replacementKey cand.event with
    | none =>
      have hr : ¬ Rivals stream s cand := by simp [Rivals,hkey]
      simp only [hkey] at ih
      simp [place,hr,← ih]
    | some key =>
      by_cases hs : replacementKey s.event = some key
      · have hr : Rivals stream s cand := ⟨by simp [hkey],by simp [hkey,hs]⟩
        simp [place,hr,findIdx?_cons,sameStream,hs]
      · have hr : ¬ Rivals stream s cand := by simp [Rivals,hkey,hs]
        simp only [hkey] at ih
        simp only [place,hr,← ih]
        simp only [Option.bind_some,findIdx?_cons,sameStream,hs]
        cases findIdx? (sameStream key) rest with
        | none | some => simp

lemma applyEffectiveEvent_of_stored {cand : StoredEvent}
    (h : decideEvent effective false cand.event = .stored) :
    (applyEffectiveEvent effective cand).1 = place stream cand effective := by
  rw [← place_eq effective cand]
  simp only [applyEffectiveEvent,h,ne_eq,not_true_eq_false,if_false]
  split <;> rfl

/-- The effective projection is the register: a covered candidate changes nothing, any
other durable candidate takes its place. -/
lemma applyEffectiveEvent_fst (cand : StoredEvent) (hs : Separated stream effective)
    (hdu : isEphemeralKind cand.event.kind = false) : (applyEffectiveEvent effective cand).1 =
      if Covered stream effective cand then effective else place stream cand effective := by
  have hi := decideEvent_stored_iff cand hs hdu
  by_cases hc : Covered stream effective cand
  · have hd : decideEvent effective false cand.event ≠ .stored := fun h => hi.1 h hc
    simp [applyEffectiveEvent,hd,hc]
  · rw [if_neg hc,applyEffectiveEvent_of_stored (hi.2 hc)]

lemma applyEffectiveEvent_snd (eff : List StoredEvent) (cand : StoredEvent) :
    (applyEffectiveEvent eff cand).2 = decideEvent eff false cand.event := by
  simp only [applyEffectiveEvent]
  by_cases hs : decideEvent eff false cand.event = .stored
  · simp only [hs,ne_eq,not_true_eq_false,if_false]
    split <;> rfl
  · simp only [hs,ne_eq,not_false_eq_true,if_true]

/-- An effective event gives its place only to an event of its key that outranks it. -/
lemma mem_or_outranked {t : StoredEvent} (cand : StoredEvent) (ht : t ∈ effective) :
    t ∈ (applyEffectiveEvent effective cand).1 ∨
      (cand ∈ (applyEffectiveEvent effective cand).1 ∧ Rivals stream t cand ∧
        rank t.event < rank cand.event) := by
  by_cases hs : decideEvent effective false cand.event = .stored
  · rw [applyEffectiveEvent_of_stored hs]
    refine (mem_place_or_find ht).imp_right fun hf => ?_
    have hr : Rivals stream t cand := by simpa using find?_some hf
    refine ⟨self_mem_place,hr,?_⟩
    obtain ⟨key,hk⟩ : ∃ key, replacementKey cand.event = some key := Option.ne_none_iff_exists'.1 hr.1
    have hfi : effective.find? (sameStream key) = some t := by
      rw [← hf]
      congr 1
      funext y
      simp [Rivals,sameStream,hk]
    by_contra hw
    rw [← replacementCandidateWins_iff] at hw
    unfold decideEvent classifyEvent at hs
    rw [hk] at hs
    split_ifs at hs
    all_goals simp [hfi,hw] at hs
  · exact .inl (by simpa [applyEffectiveEvent,hs] using ht)

lemma sole_of_stored {cand : StoredEvent} (hse : Separated stream effective)
    (hd : isEphemeralKind cand.event.kind = false)
    (hst : decideEvent effective false cand.event = .stored) : cand ∈ (applyEffectiveEvent effective cand).1 ∧
      ∀ s ∈ (applyEffectiveEvent effective cand).1, Rivals stream s cand → s = cand := by
  have hnew := (decideEvent_stored_iff cand hse hd).1 hst
  rw [applyEffectiveEvent_fst cand hse hd,if_neg hnew]
  exact ⟨self_mem_place,fun s hs hr => eq_of_mem_place hse hs hr⟩

/-- A candidate that outranks the effective event of its key is stored. -/
lemma decideEvent_of_outranks {cand cur : StoredEvent} (hsp : Separated stream effective)
    (hd : isEphemeralKind cand.event.kind = false)
    (hS : Consistent stream (· ∈ effective ++ [cand])) (hc : cur ∈ effective)
    (hr : Rivals stream cur cand) (hlt : rank cur.event < rank cand.event) :
    decideEvent effective false cand.event = .stored := by
  rw [decideEvent_stored_iff cand hsp hd]
  rintro ⟨s,hs,hst⟩
  have hm : s ∈ effective ++ [cand] := mem_append_left _ hs
  have hse : cand ∈ effective ++ [cand] := by simp
  -- a copy of the candidate would have its key and its rank, so it would be the current event
  have hb : Rivals stream s cand ∧ rank cand.event ≤ rank s.event := by
    rcases hst with hid | hst
    · have hkey := hS.key_eq s cand hm hse hid
      exact ⟨⟨hr.1,hkey⟩,(hS.rank_eq s cand hm hse hid).ge⟩
    · exact hst
  have hsa : s = cur := hsp.eq_of_rivals hs hc (hb.1.trans hr.symm)
  exact absurd hb.2 (not_le.2 (hsa ▸ hlt))

def applyAll (effective candidates : List StoredEvent) : List StoredEvent :=
  candidates.foldl (fun effective candidate => (applyEffectiveEvent effective candidate).1) effective

lemma consistent_of_verified {N : Nostr} {xs : List StoredEvent} (hv : ∀ s ∈ xs, Verified N s.event)
    (hc : NoCollision N (xs.map StoredEvent.event)) : Consistent stream (· ∈ xs) := by
  have hb : ∀ s t, s ∈ xs → t ∈ xs → s.event.id = t.event.id → s.event.toEventBody = t.event.toEventBody := by
    intro s t hs ht hid
    exact body_eq_of_id_eq hc (mem_map_of_mem hs) (mem_map_of_mem ht) (hv s hs) (hv t ht) hid
  exact ⟨fun s t hs ht hid => replacementKey_congr (hb s t hs ht hid),
    fun s t hs ht hid => rank_congr (hb s t hs ht hid) hid⟩

variable (candidates : List StoredEvent) (hs : Separated stream effective)
include candidates hs

lemma applyAll_eq_offers (hdu : ∀ c ∈ candidates, isEphemeralKind c.event.kind = false) :
    applyAll effective candidates = candidates.foldl (offer stream) effective := by
  induction candidates generalizing effective with
  | nil => rfl
  | cons c rest ih =>
    have hf := applyEffectiveEvent_fst c hs (hdu c mem_cons_self)
    have hn : Separated stream (applyEffectiveEvent effective c).1 := by
      rw [hf]
      split
      · exact hs
      · exact separated_place hs
    simp only [applyAll,foldl_cons]
    rw [← applyAll,ih hn fun d hd => hdu d (mem_cons_of_mem _ hd),hf]
    rfl

/-- Whatever the effective list held before, it holds the winners afterwards. -/
lemma winners_applyAll (hd : ∀ c ∈ candidates, isEphemeralKind c.event.kind = false)
    (hS : Consistent stream (· ∈ effective ++ candidates)) :
    Winners stream (effective ++ candidates) (applyAll effective candidates) := by
  rw [applyAll_eq_offers candidates hs hd]
  exact (winners_self hs).offers candidates hS

end BuzzSolo.Ingest
