import BuzzSolo.HandoffVerdict

/-! The verdict as a function of the events. Each selection of the reducer depends on the members of
the list only, up to copies of one event under different signatures. -/
namespace BuzzSolo.Handoff

open Checks HexText OwnerAttestation SortedSelection List Function

def core (s : HandoffState) : HandoffState := { s with ignored := [] }

section

variable (C : Crates) (a : OpenAuthority) (events : List Event)

def sortedClaims : List Event := (acceptedClaims C a events).insertionSort EventOrder

def conflicted : Bool := 1 < (claimsByAuthor C a events).length

def chosenClaim : Option Event := if conflicted C a events then none else (sortedClaims C a events).head?

def newestReturn (claim : Event) : Option Event :=
  ((accepted (validateReturn C a claim) (stepEvents events handoffReturn a.id)).insertionSort
    EventOrder).getLast?

def firstClose (returned : Event) : Option Event :=
  ((accepted (validateClose C a returned) (stepEvents events handoffClose a.id)).insertionSort
    EventOrder).head?

def chosenReturn : Option Event := (chosenClaim C a events).bind (newestReturn C a events)

def chosenClose : Option Event := (chosenReturn C a events).bind (firstClose C a events)

def chosenState : LifecycleState :=
  if conflicted C a events then .conflict
  else if (chosenClose C a events).isSome then .closed
  else if (chosenReturn C a events).isSome then .returned
  else if (chosenClaim C a events).isSome then .claimed
  else .opened

def duplicateClaims : List IgnoredEvent :=
  if conflicted C a events then []
  else (sortedClaims C a events).tail.map (ignoredEvent · "duplicate claim by the accepted claimant")

def rejectedClaims : List IgnoredEvent := rejected (validateClaim C a) (stepEvents events handoffClaim a.id)

def rejectedReturns (claim : Event) : List IgnoredEvent :=
  rejected (validateReturn C a claim) (stepEvents events handoffReturn a.id)

def rejectedCloses (returned : Event) : List IgnoredEvent :=
  rejected (validateClose C a returned) (stepEvents events handoffClose a.id)

/-- What fails after the claims were judged. -/
def rejectedLater : List IgnoredEvent :=
  (chosenClaim C a events).elim [] (rejectedReturns C a events) ++
    (chosenReturn C a events).elim [] (rejectedCloses C a events)

lemma conflicted_iff : conflicted C a events = true ↔
    ∃ x ∈ acceptedClaims C a events, ∃ y ∈ acceptedClaims C a events, x.pubkey ≠ y.pubkey := by
  rcases claimsByAuthor_cases C a events with ⟨hl,ht⟩ | ⟨hni,hn⟩ | ⟨k,claim,dups,ho,-,ha⟩
  · simp only [conflicted,hl,decide_true,true_iff]
    exact ht
  · simp [conflicted,hni,hn]
  · simp only [conflicted,ho,length_singleton,lt_self_iff_false,decide_false, Bool.false_eq_true,false_iff]
    rintro ⟨x,hx,y,hy,hne⟩
    exact hne ((ha x hx).trans (ha y hy).symm)

/-- The reducer, one selection after another. -/
lemma reduceHandoff_eq {o : Event} (h : validateOpen C o = .ok a) :
    reduceHandoff C o events = stateFromAuthority a (chosenState C a events)
      (chosenClaim C a events) (chosenReturn C a events) (chosenClose C a events)
      (if conflicted C a events then conflictingClaims (claimsByAuthor C a events) else [])
      (rejectedClaims C a events ++ duplicateClaims C a events ++ rejectedLater C a events) := by
  rcases reduceHandoff_cases events h with ⟨ht,heq⟩ | ⟨hn,heq⟩ | ⟨claim,dups,hs,ha,heq⟩
  · have hc := (conflicted_iff C a events).2 ht
    rw [heq]
    simp [chosenState,chosenClaim,chosenReturn,chosenClose,duplicateClaims,rejectedLater, rejectedClaims,hc]
  · have hc : conflicted C a events = false := by
      rw [Bool.eq_false_iff,ne_eq,conflicted_iff,hn]
      simp
    rw [heq]
    simp [chosenState,chosenClaim,chosenReturn,chosenClose,duplicateClaims,rejectedLater,
      rejectedClaims,sortedClaims,hc,hn]
  · have hc : conflicted C a events = false := by
      rw [Bool.eq_false_iff,ne_eq,conflicted_iff]
      rintro ⟨x,hx,y,hy,hne⟩
      exact hne ((ha x hx).trans (ha y hy).symm)
    have hs' : sortedClaims C a events = claim :: dups := hs
    rw [heq,reduceClaimed]
    cases hr : newestReturn C a events claim with
    | none =>
      have hr' := hr
      unfold newestReturn at hr'
      simp [chosenState,chosenClaim,chosenReturn,chosenClose,duplicateClaims,rejectedLater,
        rejectedClaims,rejectedReturns,hc,hs',hr,hr']
    | some returned =>
      have hr' := hr
      unfold newestReturn at hr'
      simp [chosenState,chosenClaim,chosenReturn,chosenClose,duplicateClaims,rejectedLater,
        rejectedClaims,rejectedReturns,rejectedCloses,firstClose,hc,hs',hr,hr']

end

variable {l m : List Event}

lemma unsigned_of_picks {N : Nostr} {es : List Event} {r : Event → Event → Prop}
    (ha : ∀ x y, r x y → r y x → x.id = y.id) (hcol : NoCollision N es)
    (hl : ∀ e ∈ l, e ∈ es ∧ Verified N e) (hlm : ∀ e, e ∈ l ↔ e ∈ m) {x y : Option Event}
    (hx : Picks r l x) (hy : Picks r m y) : x.map unsigned = y.map unsigned := by
  cases hxe : x with
  | none =>
    have hm : m = [] := eq_nil_iff_forall_not_mem.2 fun e he => by
      simpa [hx.none hxe] using (hlm e).2 he
    cases hye : y with
    | none => rfl
    | some q => simpa [hm] using (hy.some q hye).1
  | some p =>
    obtain ⟨hp,hf⟩ := hx.some p hxe
    cases hye : y with
    | none => simpa [hy.none hye] using (hlm p).1 hp
    | some q =>
      obtain ⟨hq,hf'⟩ := hy.some q hye
      have hid := ha p q (hf q ((hlm q).2 hq)) (hf' p ((hlm p).1 hp))
      obtain ⟨hpi,hpv⟩ := hl p hp
      obtain ⟨hqi,hqv⟩ := hl q ((hlm q).2 hq)
      rw [Option.map_some,Option.map_some,unsigned_eq_of_id_eq hcol hpi hqi hpv hqv hid]

lemma id_eq_of_eventOrder (x y : Event) (hxy : EventOrder x y) (hyx : EventOrder y x) : x.id = y.id :=
  (eq_of_eventOrder hxy hyx).2

variable {a : OpenAuthority}
variable {C : Crates}

lemma validateReturn_congr {claim claim' : Event}
    (h : unsigned claim = unsigned claim') : validateReturn C a claim = validateReturn C a claim' := by
  obtain ⟨hid,hb⟩ := Prod.ext_iff.1 h
  simp only [unsigned] at hid hb
  funext e
  simp only [validateReturn,hid,hb]

lemma validateClose_congr {ret returned' : Event} (h : unsigned ret = unsigned returned') :
    validateClose C a ret = validateClose C a returned' := by
  obtain ⟨hid,hb⟩ := Prod.ext_iff.1 h
  simp only [unsigned] at hid hb
  funext e
  simp only [validateClose,hid,hb]

lemma stateFromAuthority_congr {st : LifecycleState}
    {claim claim' ret returned' close close' : Option Event} {conflicts : List String}
    {ignored : List IgnoredEvent} (hc : claim.map unsigned = claim'.map unsigned)
    (hr : ret.map unsigned = returned'.map unsigned)
    (hcl : close.map unsigned = close'.map unsigned) :
    stateFromAuthority a st claim ret close conflicts ignored =
      stateFromAuthority a st claim' returned' close' conflicts ignored := by
  have hf : ∀ {x y : Option Event}, x.map unsigned = y.map unsigned →
      (x.map fun e => e.id.toHex) = (y.map fun e => e.id.toHex) ∧
      (x.map fun e => e.createdAt) = (y.map fun e => e.createdAt) ∧
      (x.map fun e => e.pubkey.toHex) = (y.map fun e => e.pubkey.toHex) := by
    intro x y h
    have hm : ∀ {β : Type} (f : EventId × EventBody → β), x.map (f ∘ unsigned) = y.map (f ∘ unsigned) := by
      intro β f
      rw [← Option.map_map,h,Option.map_map]
    exact ⟨hm fun u => u.1.toHex,hm fun u => u.2.createdAt,hm fun u => u.2.pubkey.toHex⟩
  have hor : (close.or (ret.or claim)).map unsigned =
      (close'.or (returned'.or claim')).map unsigned := by
    simp only [Option.map_or,hc,hr,hcl]
  simp only [stateFromAuthority,(hf hc).1,(hf hc).2.1,(hf hc).2.2,
    (hf hr).1,(hf hr).2.1,(hf hcl).1,(hf hcl).2.1,(hf hor).2.1]

section

variable {C : Crates} {a : OpenAuthority} {o : Event} {xs ys : List Event}
variable (hcol : NoCollision C.toNostr xs) (hsame : ∀ e, e ∈ xs ↔ e ∈ ys)

variable {e : Event}
variable {step : String}

lemma verified_of_envelope (h : validateEnvelope C e step = .ok ()) : Verified C.toNostr e :=
  (validateEnvelope_eq_ok.1 h).2.1

lemma verified_of_accepted {val : Event → Except String Unit} {id : String}
    (hv : ∀ e, val e = .ok () → validateEnvelope C e step = .ok ())
    (he : e ∈ accepted val (stepEvents xs step id)) : e ∈ xs ∧ Verified C.toNostr e := by
  obtain ⟨hm,hok⟩ := mem_accepted.1 he
  exact ⟨mem_of_mem_filter hm,verified_of_envelope (hv e hok)⟩

lemma envelope_of_claim (h : validateClaim C a e = .ok ()) : validateEnvelope C e handoffClaim = .ok () := by
  simp only [validateClaim,bind_eq_ok,exists_unit] at h
  exact h.1

variable {claim : Event}

lemma envelope_of_return (h : validateReturn C a claim e = .ok ()) :
    validateEnvelope C e handoffReturn = .ok () := by
  simp only [validateReturn,bind_eq_ok,exists_unit] at h
  exact h.1

variable {returned : Event}

lemma envelope_of_close (h : validateClose C a returned e = .ok ()) :
    validateEnvelope C e handoffClose = .ok () := by
  simp only [validateClose,bind_eq_ok,exists_unit] at h
  exact h.1

lemma map_bind_congr {x y : Option Event} {f g : Event → Option Event} (h : x.map unsigned = y.map unsigned)
    (hfg : ∀ p q, unsigned p = unsigned q → (f p).map unsigned = (g q).map unsigned) :
    (x.bind f).map unsigned = (y.bind g).map unsigned := by
  cases x with
  | none =>
    cases y with
    | none => rfl
    | some q => simp at h
  | some p =>
    cases y with
    | none => simp at h
    | some q => exact hfg p q (by simpa using h)

include hsame

lemma mem_stepEvents_congr (step id : String) (e : Event) :
    e ∈ stepEvents xs step id ↔ e ∈ stepEvents ys step id := by
  simp only [stepEvents,mem_filter,hsame]

lemma mem_accepted_congr (val : Event → Except String Unit) (step id : String) (e : Event) :
    e ∈ accepted val (stepEvents xs step id) ↔ e ∈ accepted val (stepEvents ys step id) := by
  rw [mem_accepted,mem_accepted,mem_stepEvents_congr hsame]

lemma mem_rejected_congr (val : Event → Except String Unit) (step id : String) (g : IgnoredEvent) :
    g ∈ rejected val (stepEvents xs step id) ↔ g ∈ rejected val (stepEvents ys step id) := by
  simp only [rejected,mem_filterMap,mem_stepEvents_congr hsame step id]

lemma conflicted_congr : conflicted C a xs = conflicted C a ys := by
  rw [Bool.eq_iff_iff,conflicted_iff,conflicted_iff]
  simp only [acceptedClaims,mem_accepted_congr hsame]

include hcol

lemma sortedClaims_head_congr :
    (sortedClaims C a xs).head?.map unsigned = (sortedClaims C a ys).head?.map unsigned :=
  unsigned_of_picks id_eq_of_eventOrder hcol
    (fun _ he => verified_of_accepted (fun _ => envelope_of_claim) he)
    (mem_accepted_congr hsame _ _ _) (picks_head? _) (picks_head? _)

lemma chosenClaim_congr : (chosenClaim C a xs).map unsigned = (chosenClaim C a ys).map unsigned := by
  unfold chosenClaim
  rw [conflicted_congr hsame]
  split
  · rfl
  · exact sortedClaims_head_congr hcol hsame

lemma newestReturn_congr {claim' : Event} (h : unsigned claim = unsigned claim') :
    (newestReturn C a xs claim).map unsigned = (newestReturn C a ys claim').map unsigned := by
  rw [newestReturn,newestReturn,← validateReturn_congr h]
  exact unsigned_of_picks (fun x y hxy hyx => (id_eq_of_eventOrder y x hxy hyx).symm) hcol
    (fun _ he => verified_of_accepted (fun _ => envelope_of_return) he)
    (mem_accepted_congr hsame _ _ _) (picks_getLast? _) (picks_getLast? _)

lemma firstClose_congr {returned' : Event} (h : unsigned returned = unsigned returned') :
    (firstClose C a xs returned).map unsigned = (firstClose C a ys returned').map unsigned := by
  rw [firstClose,firstClose,← validateClose_congr h]
  exact unsigned_of_picks id_eq_of_eventOrder hcol
    (fun _ he => verified_of_accepted (fun _ => envelope_of_close) he)
    (mem_accepted_congr hsame _ _ _) (picks_head? _) (picks_head? _)

lemma chosenReturn_congr : (chosenReturn C a xs).map unsigned = (chosenReturn C a ys).map unsigned :=
  map_bind_congr (chosenClaim_congr hcol hsame) fun _ _ => newestReturn_congr hcol hsame

lemma chosenClose_congr : (chosenClose C a xs).map unsigned = (chosenClose C a ys).map unsigned :=
  map_bind_congr (chosenReturn_congr hcol hsame) fun _ _ => firstClose_congr hcol hsame

lemma chosenState_congr : chosenState C a xs = chosenState C a ys := by
  have hs : ∀ {x y : Option Event}, x.map unsigned = y.map unsigned → x.isSome = y.isSome := by
    intro x y h
    simpa using congrArg Option.isSome h
  simp only [chosenState,conflicted_congr hsame,hs (chosenClaim_congr hcol hsame),
    hs (chosenReturn_congr hcol hsame),hs (chosenClose_congr hcol hsame)]

lemma claimsOf_head_congr (k : PublicKey) :
    (claimsOf C a xs k).head?.map unsigned = (claimsOf C a ys k).head?.map unsigned := by
  refine unsigned_of_picks id_eq_of_eventOrder hcol ?_ ?_ (picks_head? _) (picks_head? _)
  · intro e he
    exact verified_of_accepted (fun _ => envelope_of_claim) (mem_filter.1 he).1
  · intro e
    simp only [mem_filter,acceptedClaims,mem_accepted_congr hsame]

lemma conflictingClaims_congr :
    conflictingClaims (claimsByAuthor C a xs) = conflictingClaims (claimsByAuthor C a ys) := by
  have hp : (claimAuthors C a xs).Perm (claimAuthors C a ys) := by
    refine (perm_ext_iff_of_nodup (nodup_claimAuthors C a xs) (nodup_claimAuthors C a ys)).2 ?_
    intro k
    simp only [mem_claimAuthors,acceptedClaims,mem_accepted_congr hsame]
  have hf : (fun k => (claimsOf C a xs k).head?.map fun e => e.id.toHex) =
      fun k => (claimsOf C a ys k).head?.map fun e => e.id.toHex := by
    funext k
    have h := congrArg (Option.map fun u => u.1.toHex) (claimsOf_head_congr (a := a) hcol hsame k)
    simpa [Option.map_map,comp_def,unsigned] using h
  simp only [conflictingClaims,claimsByAuthor_eq C a xs,claimsByAuthor_eq C a ys,filterMap_map, comp_def]
  rw [hf]
  exact eq_of_perm (fun _ _ _ _ => le_antisymm) (hp.filterMap _)

end

def repeats (events : List Event) (reason : String) : List IgnoredEvent :=
  (events.insertionSort EventOrder).tail.map (ignoredEvent · reason)

lemma repeats_perm (h : l.Perm m) (reason : String) : repeats l reason = repeats m reason := by
  have hkey := map_insertionSort_eq eventOrder_iff h
  have ht := congrArg (fun keys => keys.tail.map fun key : ℕ ×ₗ EventId =>
    (⟨(ofLex key).2.toHex,reason⟩ : IgnoredEvent)) hkey
  simpa [repeats,comp_def,ignoredEvent] using ht

/-- Among equal members the same events are repeated, the first one apart. -/
lemma mem_repeats {reason : String} {g : IgnoredEvent} (hlm : ∀ e, e ∈ l ↔ e ∈ m)
    (hh : (l.insertionSort EventOrder).head?.map unsigned = (m.insertionSort EventOrder).head?.map unsigned)
    (hg : g ∈ repeats l reason)
    (hne : ∀ c, (l.insertionSort EventOrder).head? = some c → g ≠ ignoredEvent c reason) :
    g ∈ repeats m reason := by
  obtain ⟨e,he,rfl⟩ := mem_map.1 hg
  have hem : e ∈ m.insertionSort EventOrder := by
    rw [(perm_insertionSort EventOrder m).mem_iff,← hlm, ← (perm_insertionSort EventOrder l).mem_iff]
    exact mem_of_mem_tail he
  cases hs : m.insertionSort EventOrder with
  | nil => simp [hs] at hem
  | cons c rest =>
    rw [hs] at hem hh
    rcases mem_cons.1 hem with rfl | hem
    · rw [head?_cons,Option.map_some,Option.map_eq_some_iff] at hh
      obtain ⟨first,hf,hu⟩ := hh
      have hid : first.id = e.id := congrArg Prod.fst hu
      exact absurd (by simp [ignoredEvent,hid]) (hne first hf)
    · rw [repeats,hs]
      exact mem_map_of_mem hem

section

variable {C : Crates} {a : OpenAuthority} {xs ys : List Event}

lemma duplicateClaims_eq (es : List Event) : duplicateClaims C a es = if conflicted C a es then []
    else repeats (acceptedClaims C a es) "duplicate claim by the accepted claimant" := rfl

lemma elim_congr {R : List IgnoredEvent → List IgnoredEvent → Prop} {x y : Option Event}
    {f g : Event → List IgnoredEvent} (hn : R [] []) (hxy : x.map unsigned = y.map unsigned)
    (hfg : ∀ p q, unsigned p = unsigned q → R (f p) (g q)) : R (x.elim [] f) (y.elim [] g) := by
  cases x with
  | none =>
    cases y with
    | none => exact hn
    | some q => simp at hxy
  | some p =>
    cases y with
    | none => simp at hxy
    | some q => exact hfg p q (by simpa using hxy)

lemma mem_rejectedLater_congr (hcol : NoCollision C.toNostr xs) (hs : ∀ e, e ∈ xs ↔ e ∈ ys)
    (g : IgnoredEvent) : g ∈ rejectedLater C a xs ↔ g ∈ rejectedLater C a ys := by
  simp only [rejectedLater,mem_append]
  refine or_congr (elim_congr (R := fun l m => g ∈ l ↔ g ∈ m) Iff.rfl (chosenClaim_congr hcol hs) ?_)
    (elim_congr (R := fun l m => g ∈ l ↔ g ∈ m) Iff.rfl (chosenReturn_congr hcol hs) ?_)
  · intro p q hpq
    rw [rejectedReturns,rejectedReturns,validateReturn_congr hpq,mem_rejected_congr hs]
  · intro p q hpq
    rw [rejectedCloses,rejectedCloses,validateClose_congr hpq,mem_rejected_congr hs]

lemma stepEvents_perm (h : xs.Perm ys) (step id : String) :
    (stepEvents xs step id).Perm (stepEvents ys step id) :=
  h.filter _

lemma rejected_perm (h : xs.Perm ys) (val : Event → Except String Unit) (step id : String) :
    (rejected val (stepEvents xs step id)).Perm (rejected val (stepEvents ys step id)) :=
  (stepEvents_perm h step id).filterMap _

lemma rejectedLater_perm (hcol : NoCollision C.toNostr xs) (h : xs.Perm ys) :
    (rejectedLater C a xs).Perm (rejectedLater C a ys) := by
  have hs : ∀ e, e ∈ xs ↔ e ∈ ys := fun e => h.mem_iff
  refine (elim_congr (R := List.Perm) (.refl _) (chosenClaim_congr hcol hs) ?_).append
    (elim_congr (R := List.Perm) (.refl _) (chosenReturn_congr hcol hs) ?_)
  · intro p q hpq
    rw [rejectedReturns,rejectedReturns,validateReturn_congr hpq]
    exact rejected_perm h _ _ _
  · intro p q hpq
    rw [rejectedCloses,rejectedCloses,validateClose_congr hpq]
    exact rejected_perm h _ _ _

end

section

variable {C : Crates} {xs ys : List Event}

def ackedBy (C : Crates) (events : List Event) (openId : String) : List Event :=
  KeyedGroups.ofKey ((ackEvents events).flatMap (acceptedAcks C (invalidOpens C events))) openId

def failedAcks (C : Crates) (events : List Event) (openId : String) : List IgnoredEvent :=
  KeyedGroups.ofKey ((ackEvents events).flatMap (rejectedAcks C (invalidOpens C events))) openId

lemma get_sortGroups {κ : Type} [DecidableEq κ] (groups : List (κ × List Event)) (key : κ) :
    KeyedGroups.get (sortGroups groups) key = (KeyedGroups.get groups key).insertionSort EventOrder := by
  simp only [KeyedGroups.get,sortGroups,find?_map,comp_def]
  cases groups.find? fun group => decide (group.1 = key) <;> simp

lemma acks_acceptedByOpen (es : List Event) (oid : String) :
    KeyedGroups.get (buildInvalidAcknowledgments C es).acceptedByOpen oid =
      (ackedBy C es oid).insertionSort EventOrder := by
  rw [buildInvalidAcknowledgments,get_sortGroups,KeyedGroups.get_collect,ackedBy]

lemma acks_ignoredByOpen (es : List Event) (oid : String) :
    KeyedGroups.get (buildInvalidAcknowledgments C es).ignoredByOpen oid = failedAcks C es oid := by
  rw [buildInvalidAcknowledgments,KeyedGroups.get_collect,failedAcks]

variable {α : Type}
variable {ens : List (String × α)} {key : String} {value : α}

lemma mem_of_lastOf (h : lastOf ens key = some value) : (key,value) ∈ ens := by
  obtain ⟨en,hf,rfl⟩ := Option.map_eq_some_iff.1 h
  have hkey : en.1 = key := by simpa using find?_some hf
  have hm := mem_reverse.1 (mem_of_find?_eq_some hf)
  rw [← hkey]
  exact hm

/-- A map in which equal keys have equal values is its set of entries. -/
lemma lastOf_eq_some_iff (h : ∀ p ∈ ens, ∀ q ∈ ens, p.1 = q.1 → p.2 = q.2) :
    lastOf ens key = some value ↔ (key,value) ∈ ens := by
  refine ⟨mem_of_lastOf,fun hm => ?_⟩
  · rw [lastOf,Option.map_eq_some_iff]
    cases hf : ens.reverse.find? fun en => decide (en.1 = key) with
    | none =>
      rw [find?_eq_none] at hf
      exact absurd (decide_eq_true rfl) (hf (key,value) (mem_reverse.2 hm))
    | some en =>
      have hkey : en.1 = key := by simpa using find?_some hf
      have he := mem_reverse.1 (mem_of_find?_eq_some hf)
      exact ⟨en,rfl,h en he (key,value) hm hkey⟩

variable {e : Event}
variable {v : InvalidOpenAuthority}

lemma invalidOpenAuthority_eq_ok : invalidOpenAuthority C e = .ok v ↔
    validateEnvelope C e handoffOpen = .ok () ∧
      v.id = e.id.toHex ∧ exactlyOneTag e.toEventBody "h" = .ok v.context ∧
      eventOwner C.toSchnorr e.toEventBody = .ok v.openerOwnerPubkey ∧ v.createdAt = e.createdAt := by
  obtain ⟨id,ctx,ow,createdAt⟩ := v
  simp only [invalidOpenAuthority,bind_eq_ok,exists_unit,Except.ok.injEq, InvalidOpenAuthority.mk.injEq]
  constructor
  · rintro ⟨he,c,hc,w,hw,rfl,rfl,rfl,rfl⟩
    exact ⟨he,rfl,hc,hw,rfl⟩
  · rintro ⟨he,rfl,hc,hw,rfl⟩
    exact ⟨he,ctx,hc,ow,hw,rfl,rfl,rfl,rfl⟩

variable {es : List Event}

lemma mem_invalidOpens {id : String} : (id,v) ∈ invalidOpens C es ↔ id = v.id ∧ ∃ e ∈ es,
      lifecycle e.toEventBody = some handoffOpen ∧ (validateOpen C e).toBool = false ∧
      invalidOpenAuthority C e = .ok v := by
  rw [invalidOpens,mem_filterMap]
  constructor
  · rintro ⟨e,he,hs⟩
    split at hs
    · rename_i hc
      cases hv : invalidOpenAuthority C e with
      | error reason => simp [hv] at hs
      | ok w =>
        rw [hv] at hs
        cases hs
        exact ⟨rfl,e,he,hc.1,hc.2,hv⟩
    · simp at hs
  · rintro ⟨rfl,e,he,hl,hi,hv⟩
    exact ⟨e,he,by rw [if_pos ⟨hl,hi⟩,hv]⟩

lemma invalidOpens_functional (hcol : NoCollision C.toNostr es) :
    ∀ p ∈ invalidOpens C es, ∀ q ∈ invalidOpens C es, p.1 = q.1 → p.2 = q.2 := by
  rintro ⟨i,v⟩ hp ⟨j,w⟩ hq hij
  obtain ⟨rfl,d,hd,-,-,hv⟩ := mem_invalidOpens.1 hp
  obtain ⟨rfl,e,he,-,-,hw⟩ := mem_invalidOpens.1 hq
  obtain ⟨hen,hid,hc,ho,ht⟩ := invalidOpenAuthority_eq_ok.1 hv
  obtain ⟨hen',hid',hc',ho',ht'⟩ := invalidOpenAuthority_eq_ok.1 hw
  have hi : d.id = e.id := by
    rw [← FixedBytes.toHex_inj,← hid,← hid']
    exact hij
  have hb := body_eq_of_id_eq hcol hd he (verified_of_envelope hen) (verified_of_envelope hen') hi
  rw [hb] at hc ho ht
  cases v
  cases w
  simp_all

lemma lastOf_congr (hcol : NoCollision C.toNostr xs) (hs : ∀ e, e ∈ xs ↔ e ∈ ys) :
    lastOf (invalidOpens C xs) = lastOf (invalidOpens C ys) := by
  funext key
  have hcol' := hcol.subset fun e he => (hs e).2 he
  refine Option.ext fun v => ?_
  rw [lastOf_eq_some_iff (invalidOpens_functional hcol),
    lastOf_eq_some_iff (invalidOpens_functional hcol'),mem_invalidOpens,mem_invalidOpens]
  simp only [hs]

variable {inv inv' : List (String × InvalidOpenAuthority)}

variable (h : lastOf inv = lastOf inv')
include h

lemma validateInvalidAck_congr : validateInvalidAck C inv = validateInvalidAck C inv' := by
  have hc : checkAckTarget inv = checkAckTarget inv' := by
    funext e ctx ow oid
    simp only [checkAckTarget,h]
  funext e
  simp only [validateInvalidAck,hc]

lemma acceptedAcks_congr : acceptedAcks C inv = acceptedAcks C inv' := by
  funext e
  simp only [acceptedAcks,validateInvalidAck_congr h]

lemma rejectedAcks_congr : rejectedAcks C inv = rejectedAcks C inv' := by
  funext e
  simp only [rejectedAcks,validateInvalidAck_congr h,h]

omit h

lemma mem_ackedBy {oid : String} :
    e ∈ ackedBy C es oid ↔ e ∈ es ∧ lifecycle e.toEventBody = some handoffAckInvalid ∧
      ∃ ids, validateInvalidAck C (invalidOpens C es) e = .ok ids ∧ oid ∈ ids := by
  rw [ackedBy,KeyedGroups.mem_ofKey,mem_flatMap]
  constructor
  · rintro ⟨d,hd,hm⟩
    rw [acceptedAcks] at hm
    cases hv : validateInvalidAck C (invalidOpens C es) d with
    | error reason => simp [hv] at hm
    | ok ids =>
      rw [hv] at hm
      obtain ⟨i,hi,heq⟩ := mem_map.1 hm
      cases heq
      obtain ⟨hin,hl⟩ := mem_filter.1 hd
      exact ⟨hin,by simpa using hl,ids,hv,hi⟩
  · rintro ⟨hin,hl,ids,hv,hi⟩
    refine ⟨e,mem_filter.2 ⟨hin,by simpa using hl⟩,?_⟩
    rw [acceptedAcks,hv]
    exact mem_map.2 ⟨oid,hi,rfl⟩

lemma envelope_of_ack {ids : List String}
    (h : validateInvalidAck C inv e = .ok ids) : validateEnvelope C e handoffAckInvalid = .ok () := by
  simp only [validateInvalidAck,bind_eq_ok,exists_unit] at h
  exact h.1

lemma acks_perm (h : xs.Perm ys) (f : Event → List (String × α)) (oid : String) :
    (KeyedGroups.ofKey ((ackEvents xs).flatMap f) oid).Perm
      (KeyedGroups.ofKey ((ackEvents ys).flatMap f) oid) :=
  (((h.filter _).flatMap_right f).filter _).map _

variable (hcol : NoCollision C.toNostr xs) (hsame : ∀ e, e ∈ xs ↔ e ∈ ys)
include hcol hsame

lemma mem_ackedBy_congr (oid : String) (e : Event) :
    e ∈ ackedBy C xs oid ↔ e ∈ ackedBy C ys oid := by
  simp only [mem_ackedBy,hsame,validateInvalidAck_congr (lastOf_congr hcol hsame)]

lemma ackedBy_head_congr (oid : String) :
    ((ackedBy C xs oid).insertionSort EventOrder).head?.map unsigned =
      ((ackedBy C ys oid).insertionSort EventOrder).head?.map unsigned := by
  refine unsigned_of_picks id_eq_of_eventOrder hcol ?_ (mem_ackedBy_congr hcol hsame oid)
    (picks_head? _) (picks_head? _)
  intro e he
  obtain ⟨hin,-,ids,hv,-⟩ := mem_ackedBy.1 he
  exact ⟨hin,verified_of_envelope (envelope_of_ack hv)⟩

lemma mem_failedAcks_congr (oid : String) (g : IgnoredEvent) :
    g ∈ failedAcks C xs oid ↔ g ∈ failedAcks C ys oid := by
  simp only [failedAcks,KeyedGroups.mem_ofKey,mem_flatMap,ackEvents,mem_filter,hsame,
    rejectedAcks_congr (lastOf_congr hcol hsame)]

end

/-- The entries that say of the accepted claim, or the accepted acknowledgment, that it is a
duplicate of itself. -/
def ownDuplicates (s : HandoffState) : List IgnoredEvent :=
  (s.claimId.map fun id => (⟨id,"duplicate claim by the accepted claimant"⟩ : IgnoredEvent)).toList ++
    (s.acknowledgmentId.map fun id =>
      (⟨id,"duplicate acknowledgment for invalid handoff"⟩ : IgnoredEvent)).toList

section

variable {C : Crates} {o : Event} {xs ys : List Event}
variable {why : String}

lemma reduceHandoff_invalid (es : List Event) (h : validateOpen C o = .error why) :
    reduceHandoff C o es = invalidState C o why (buildInvalidAcknowledgments C es) := by
  simp only [reduceHandoff,reduceHandoffWithInvalidAcknowledgments,h]

lemma core_invalidState (why : String) {acks acks' : InvalidAcknowledgments}
    (h : (KeyedGroups.get acks.acceptedByOpen o.id.toHex).head?.map unsigned =
      (KeyedGroups.get acks'.acceptedByOpen o.id.toHex).head?.map unsigned) :
    core (invalidState C o why acks) = core (invalidState C o why acks') := by
  have hm : ∀ {β : Type} (f : EventId × EventBody → β),
      (KeyedGroups.get acks.acceptedByOpen o.id.toHex).head?.map (f ∘ unsigned) =
        (KeyedGroups.get acks'.acceptedByOpen o.id.toHex).head?.map (f ∘ unsigned) := by
    intro β f
    rw [← Option.map_map,h,Option.map_map]
  have hid := hm fun u => u.1.toHex
  have ht := hm fun u => u.2.createdAt
  have hs := congrArg Option.isSome h
  simp only [Option.isSome_map] at hs
  simp only [unsigned,comp_def] at hid ht
  simp only [core,invalidState,hid,ht,hs]

lemma core_stateFromAuthority (a : OpenAuthority) (st : LifecycleState)
    (claim ret close : Option Event) (conflicts : List String) (ignored : List IgnoredEvent) :
    core (stateFromAuthority a st claim ret close conflicts ignored) =
      stateFromAuthority a st claim ret close conflicts [] := rfl

lemma core_congr (hcol : NoCollision C.toNostr xs) (hs : ∀ e, e ∈ xs ↔ e ∈ ys) :
    core (reduceHandoff C o xs) = core (reduceHandoff C o ys) := by
  cases h : validateOpen C o with
  | error why =>
    rw [reduceHandoff_invalid xs h,reduceHandoff_invalid ys h]
    apply core_invalidState
    rw [acks_acceptedByOpen,acks_acceptedByOpen]
    exact ackedBy_head_congr hcol hs _
  | ok a =>
    rw [reduceHandoff_eq C a xs h,reduceHandoff_eq C a ys h,core_stateFromAuthority,
      core_stateFromAuthority,chosenState_congr hcol hs,conflicted_congr hs, conflictingClaims_congr hcol hs]
    exact stateFromAuthority_congr (chosenClaim_congr hcol hs) (chosenReturn_congr hcol hs)
      (chosenClose_congr hcol hs)

lemma ignored_valid {a : OpenAuthority} (es : List Event) (h : validateOpen C o = .ok a) :
    (reduceHandoff C o es).ignored =
      rejectedClaims C a es ++ duplicateClaims C a es ++ rejectedLater C a es := by
  rw [reduceHandoff_eq C a es h,stateFromAuthority]

lemma ignored_invalid (es : List Event) (h : validateOpen C o = .error why) :
    (reduceHandoff C o es).ignored = ignoredEvent o why :: failedAcks C es o.id.toHex ++
        repeats (ackedBy C es o.id.toHex) "duplicate acknowledgment for invalid handoff" := by
  rw [reduceHandoff_invalid es h,invalidState,acks_ignoredByOpen,acks_acceptedByOpen,repeats]

variable (hcol : NoCollision C.toNostr xs)
include hcol

lemma ignored_perm (h : xs.Perm ys) : (reduceHandoff C o xs).ignored.Perm (reduceHandoff C o ys).ignored := by
  have hs : ∀ e, e ∈ xs ↔ e ∈ ys := fun e => h.mem_iff
  have hl := lastOf_congr hcol hs
  cases ho : validateOpen C o with
  | error why =>
    have ha : (ackedBy C xs o.id.toHex).Perm (ackedBy C ys o.id.toHex) := by
      rw [ackedBy,ackedBy,acceptedAcks_congr hl]
      exact acks_perm h _ _
    have hf : (failedAcks C xs o.id.toHex).Perm (failedAcks C ys o.id.toHex) := by
      rw [failedAcks,failedAcks,rejectedAcks_congr hl]
      exact acks_perm h _ _
    rw [ignored_invalid xs ho,ignored_invalid ys ho,repeats_perm ha]
    exact (hf.cons _).append_right _
  | ok a =>
    have hc : (acceptedClaims C a xs).Perm (acceptedClaims C a ys) := (stepEvents_perm h _ _).filter _
    have hd : duplicateClaims C a xs = duplicateClaims C a ys := by
      rw [duplicateClaims_eq,duplicateClaims_eq,conflicted_congr hs,repeats_perm hc]
    rw [ignored_valid xs ho,ignored_valid ys ho,hd]
    exact ((rejected_perm h _ _ _).append_right _).append (rejectedLater_perm hcol h)

/-- Whatever is delivered again, an event that is ignored stays so for its reason, unless the
accepted event is reported as a duplicate of itself. -/
lemma ignored_of_mem (hs : ∀ e, e ∈ xs ↔ e ∈ ys)
    {g : IgnoredEvent} (how : g ∉ ownDuplicates (reduceHandoff C o xs))
    (hg : g ∈ (reduceHandoff C o xs).ignored) : g ∈ (reduceHandoff C o ys).ignored := by
  cases ho : validateOpen C o with
  | error why =>
    rw [ignored_invalid xs ho,cons_append,mem_cons,mem_append] at hg
    rw [ignored_invalid ys ho,cons_append,mem_cons,mem_append]
    refine hg.imp_right (Or.imp (mem_failedAcks_congr hcol hs _ g).1 fun hr => ?_)
    refine mem_repeats (mem_ackedBy_congr hcol hs _) (ackedBy_head_congr hcol hs _) hr ?_
    intro c hc heq
    apply how
    rw [reduceHandoff_invalid xs ho]
    simp [ownDuplicates,invalidState,acks_acceptedByOpen,hc,heq,ignoredEvent]
  | ok a =>
    rw [ignored_valid xs ho,mem_append,mem_append] at hg
    rw [ignored_valid ys ho,mem_append,mem_append]
    refine hg.imp (Or.imp (mem_rejected_congr hs _ _ _ g).1 fun hd => ?_)
      (mem_rejectedLater_congr hcol hs g).1
    rw [duplicateClaims_eq] at hd ⊢
    rw [← conflicted_congr hs]
    by_cases hc : conflicted C a xs = true
    · simp [hc] at hd
    · rw [if_neg hc] at hd ⊢
      refine mem_repeats (mem_accepted_congr hs _ _ _) (sortedClaims_head_congr hcol hs) hd ?_
      intro c hh heq
      apply how
      rw [reduceHandoff_eq C a xs ho]
      have hch : chosenClaim C a xs = some c := by
        rw [chosenClaim,if_neg hc]
        exact hh
      simp [ownDuplicates,stateFromAuthority,hch,heq,ignoredEvent]

lemma ownDuplicates_congr (hs : ∀ e, e ∈ xs ↔ e ∈ ys) :
    ownDuplicates (reduceHandoff C o xs) = ownDuplicates (reduceHandoff C o ys) := by
  change ownDuplicates (core (reduceHandoff C o xs)) = ownDuplicates (core (reduceHandoff C o ys))
  rw [core_congr hcol hs]

omit hcol

def reportedOpens (selected : Option String) (events : List Event) : List Event :=
  events.filter fun event => lifecycle event.toEventBody = some handoffOpen &&
    selected.all fun id => id = event.id.toHex

lemma core_handoffs_perm (sel : Option String) (es : List Event) :
    ((handoffs C sel es).map core).Perm
      ((reportedOpens sel es).map fun o => core (reduceHandoff C o es)) := by
  have h := (perm_insertionSort ReportOrder
    ((reportedOpens sel es).map fun o => reduceHandoff C o es)).map core
  rwa [map_map] at h

end

/-- The reduction is a function of the set of events. Two lists of the same events give
every handoff the same report up to what is ignored; what is ignored is the same up to order
for a reordered list, and up to repetition otherwise, except that an accepted claim or
acknowledgment that is delivered again is reported as its own duplicate. -/
theorem reduction_of_set (C : Crates) (xs ys : List Event) (hsame : ∀ e, e ∈ xs ↔ e ∈ ys)
    (hcol : NoCollision C.toNostr xs) : (∀ o, core (reduceHandoff C o xs) = core (reduceHandoff C o ys) ∧
      (∀ g, g ∉ ownDuplicates (reduceHandoff C o xs) →
        (g ∈ (reduceHandoff C o xs).ignored ↔ g ∈ (reduceHandoff C o ys).ignored)) ∧
      (xs.Perm ys → (reduceHandoff C o xs).ignored.Perm (reduceHandoff C o ys).ignored)) ∧
    ∀ selected, (∀ s, s ∈ (handoffs C selected xs).map core ↔ s ∈ (handoffs C selected ys).map core) ∧
      (xs.Perm ys → ((handoffs C selected xs).map core).Perm ((handoffs C selected ys).map core)) := by
  have hcol' := hcol.subset fun e he => (hsame e).2 he
  have hsame' : ∀ e, e ∈ ys ↔ e ∈ xs := fun e => (hsame e).symm
  refine ⟨fun o => ⟨core_congr hcol hsame,fun g ho => ⟨?_,?_⟩,ignored_perm hcol⟩,?_⟩
  · exact ignored_of_mem hcol hsame ho
  · rw [ownDuplicates_congr hcol hsame] at ho
    exact ignored_of_mem hcol' hsame' ho
  · intro selected
    have hc : (fun o => core (reduceHandoff C o xs)) = fun o => core (reduceHandoff C o ys) :=
      funext fun o => core_congr hcol hsame
    have hxs := core_handoffs_perm (C := C) selected xs
    have hys := core_handoffs_perm (C := C) selected ys
    rw [hc] at hxs
    refine ⟨fun s => ?_,fun h => ?_⟩
    · rw [hxs.mem_iff,hys.mem_iff]
      simp only [mem_map,reportedOpens,mem_filter,hsame]
    · exact hxs.trans (((h.filter _).map _).trans hys.symm)

/-- The claim delivered twice, and the two events in the other order. -/
theorem reduction_of_set_port : let C := parserCrates parserEvents
    core (reduceHandoff C parserOpen [parserOpen,parserClaim]) =
      core (reduceHandoff C parserOpen [parserClaim,parserOpen,parserClaim]) ∧
    (reduceHandoff C parserOpen [parserOpen,parserClaim]).ignored.Perm
      (reduceHandoff C parserOpen [parserClaim,parserOpen]).ignored ∧
    ((handoffs C none [parserOpen,parserClaim]).map core).Perm
      ((handoffs C none [parserClaim,parserOpen]).map core) := by
  intro C
  have hi : EventStore.IdsMatch parserEvents := by decide +kernel
  have hcol : NoCollision C.toNostr [parserOpen,parserClaim] :=
    (@EventStore.noCollision_signedOnly parserEvents (fun _ => none) hi).subset (by simp [parserEvents])
  have ht := reduction_of_set C [parserOpen,parserClaim] [parserClaim,parserOpen,parserClaim]
    (fun e => by simp; tauto) hcol
  have hs := reduction_of_set C [parserOpen,parserClaim] [parserClaim,parserOpen]
    (fun e => by simp [or_comm]) hcol
  have hp : [parserOpen,parserClaim].Perm [parserClaim,parserOpen] := List.Perm.swap _ _ _
  exact ⟨(ht.1 parserOpen).1,(hs.1 parserOpen).2.2 hp,(hs.2 none).2 hp⟩

/-- A claim that is delivered again is reported among the ignored events, and an open that
is delivered again gives its handoff once more. -/
theorem repeated_delivery_reported : let C := parserCrates parserEvents
    (reduceHandoff C parserOpen [parserOpen,parserClaim]).ignored = [] ∧
    (reduceHandoff C parserOpen [parserOpen,parserClaim,parserClaim]).ignored =
      [⟨parserClaim.id.toHex,"duplicate claim by the accepted claimant"⟩] ∧
    (handoffs C none [parserOpen]).length = 1 ∧ (handoffs C none [parserOpen,parserOpen]).length = 2 := by
  decide +kernel

end BuzzSolo.Handoff
