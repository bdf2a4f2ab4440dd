import BuzzSolo.EventJson
import BuzzSolo.Handoff
import BuzzSolo.SortedSelection

/-! What the reducer's verdict means. Valid claims, returns and closes are described without the
reducer; it reports a handoff as closed exactly when there are such events and they are linked. -/
namespace BuzzSolo.Handoff

open Checks HexText OwnerAttestation SortedSelection List

lemma eventOrder_iff (a b : Event) : EventOrder a b ↔
    toLex (a.createdAt,a.id) ≤ toLex (b.createdAt,b.id) := by
  simp only [EventOrder,Prod.Lex.toLex_le_toLex]

instance : Std.Total EventOrder :=
  ⟨fun a b => by simpa only [eventOrder_iff] using le_total (toLex (a.createdAt,a.id)) _⟩

instance : IsTrans Event EventOrder :=
  ⟨fun a b c => by simpa only [eventOrder_iff] using le_trans (a := toLex (a.createdAt,a.id))⟩

/-- What every step after the open has to carry. -/
structure ValidStep (C : Crates) (o e : Event) (step : String) : Prop where
  kind : e.kind = kindTextNote
  verified : Verified C.toNostr e
  step : (tagValues e.toEventBody "t").filter isLifecycleValue = [step]
  context : tagValues e.toEventBody "h" = tagValues o.toEventBody "h"
  root : linkedEvent e.toEventBody "root" = some o.id.toHex

/-- A claim of the open by a signer that the open names. -/
structure ValidClaim (C : Crates) (o e : Event) : Prop extends ValidStep C o e handoffClaim where
  after : o.createdAt < e.createdAt
  signer : e.pubkey.toHex ∈ tagValues o.toEventBody "p"
  owner : ∃ owner, eventOwner C.toSchnorr e.toEventBody = .ok owner

/-- A return of the claim by its author. -/
structure ValidReturn (C : Crates) (o claim e : Event) : Prop
    extends ValidStep C o e handoffReturn where
  after : claim.createdAt < e.createdAt
  signer : e.pubkey = claim.pubkey
  link : linkedEvent e.toEventBody "claim" = some claim.id.toHex
  content : ∃ fields, contentObject C e.toEventBody = .ok fields ∧
    (field fields "claim_id").bind Json.asStr = some claim.id.toHex ∧
    ((field fields "status").bind Json.asStr = some "done" ∨
      (field fields "status").bind Json.asStr = some "failed")
  owner : ∃ owner, eventOwner C.toSchnorr e.toEventBody = .ok owner

/-- A close of the return by the effective owner of the open. -/
structure ValidClose (C : Crates) (o returned e : Event) : Prop
    extends ValidStep C o e handoffClose where
  after : returned.createdAt < e.createdAt
  link : linkedEvent e.toEventBody "return" = some returned.id.toHex
  content : ∃ fields, contentObject C e.toEventBody = .ok fields ∧
    (field fields "return_id").bind Json.asStr = some returned.id.toHex
  owner : ∃ owner, eventOwner C.toSchnorr e.toEventBody = .ok owner ∧
    eventOwner C.toSchnorr o.toEventBody = .ok owner

lemma exactlyOneTag_eq_ok {e : EventBody} {name value : String} :
    exactlyOneTag e name = .ok value ↔ tagValues e name = [value] ∧ value ≠ "" := by
  unfold exactlyOneTag
  split
  · rename_i v h
    rw [h]
    by_cases hv : v = ""
    · simp [hv]
    · have hne : v.isEmpty = false := by simpa using hv
      simp only [hne,Bool.false_eq_true,if_false,Except.ok.injEq,cons.injEq,and_true]
      exact ⟨fun heq => ⟨heq,heq ▸ hv⟩,And.left⟩
  · rename_i h
    simp only [reduceCtorEq,false_iff,not_and]
    intro heq
    exact absurd heq (h value)

lemma lifecycle_eq (e : EventBody) : lifecycle e = ((tagValues e "t").filter isLifecycleValue).head? := by
  have hst : (fun tag : Tag => Option.filter isLifecycleValue
      (if tag.name = "t" then tag.content else none)) = fun tag => tag.content.bind fun v =>
        if tag.name = "t" ∧ isLifecycleValue v = true then some v else none := by
    funext tag
    by_cases hn : tag.name = "t" <;> cases tag.content <;> simp [hn,Option.filter]
  rw [tagValues,filter_filterMap,hst,head?_filterMap]
  rfl

lemma references_of_linkedEvent {e : EventBody} {marker id : String}
    (h : linkedEvent e marker = some id) : references e id = true := by
  obtain ⟨tag,ht,hl⟩ := exists_of_findSome?_eq_some h
  unfold markedLink at hl
  split at hl
  · rename_i hn
    rw [references,any_eq_true]
    exact ⟨tag,ht,by simp [hn.1,hl]⟩
  · simp at hl

lemma validateEnvelope_eq_ok {C : Crates} {e : Event} {step : String} :
    validateEnvelope C e step = .ok () ↔ e.kind = kindTextNote ∧ Verified C.toNostr e ∧
      (tagValues e.toEventBody "t").filter isLifecycleValue = [step] ∧
      ∃ ctx, exactlyOneTag e.toEventBody "h" = .ok ctx := by
  simp [validateEnvelope]

lemma sameContext_eq_ok {e : Event} {a : OpenAuthority} :
    sameContext e a = .ok () ↔ exactlyOneTag e.toEventBody "h" = .ok a.context := by
  simp [sameContext]

lemma mem_collect_claimantKey {vs : List String} {keys : List PublicKey}
    (h : collect claimantKey vs = .ok keys) (key : PublicKey) : key ∈ keys ↔ key.toHex ∈ vs := by
  rw [collect_eq_ok] at h
  induction h with
  | nil => simp
  | cons hf _ ih =>
    rename_i value first vs keys _
    simp only [claimantKey,bind_eq_ok,require_eq_ok,okOr_eq_ok] at hf
    obtain ⟨-,hl,hh⟩ := hf
    have hc : ∀ c ∈ value.toList, isLowerHexChar c = true := by
      simp only [isLowerHex,Bool.and_eq_true,all_eq_true] at hl
      exact hl.2
    have hv := FixedBytes.toHex_of_fromHex hc hh
    rw [mem_cons,mem_cons,ih,← hv,FixedBytes.toHex_inj]

lemma mem_sortedSet {α : Type} [LinearOrder α] {xs : List α} {x : α} : x ∈ sortedSet xs ↔ x ∈ xs := by
  rw [sortedSet,(perm_insertionSort _ _).mem_iff,mem_dedup]

structure Authorizes (C : Crates) (o : Event) (a : OpenAuthority) : Prop where
  id : a.id = o.id.toHex
  context : tagValues o.toEventBody "h" = [a.context]
  context_ne : a.context ≠ ""
  claimants : ∀ key, key ∈ a.allowedClaimants ↔ key.toHex ∈ tagValues o.toEventBody "p"
  owner : eventOwner C.toSchnorr o.toEventBody = .ok a.openerOwnerPubkey
  createdAt : a.createdAt = o.createdAt

lemma authorizes_of_validateOpen {C : Crates} {o : Event} {a : OpenAuthority}
    (h : validateOpen C o = .ok a) : Authorizes C o a := by
  simp only [validateOpen,bind_eq_ok,Except.ok.injEq] at h
  obtain ⟨-,-,ctx,hco,cont,-,title,-,commit,-,-,-,claimants,hc,-,-,-,-,ow, ho,rfl⟩ := h
  obtain ⟨ht,hne⟩ := exactlyOneTag_eq_ok.1 hco
  exact ⟨rfl,ht,hne,fun key => mem_sortedSet.trans (mem_collect_claimantKey hc key), ho,rfl⟩

section

variable {C : Crates} {o : Event} {a : OpenAuthority} (h : Authorizes C o a)

variable {es : List Event} {e : Event}

lemma mem_accepted {val : Event → Except String Unit} : e ∈ accepted val es ↔ e ∈ es ∧ val e = .ok () := by
  rw [accepted,mem_filter]
  cases val e <;> simp [Except.toBool]

lemma ValidStep.mem_stepEvents {step : String}
    (hs : ValidStep C o e step) : e ∈ stepEvents es step o.id.toHex ↔ e ∈ es := by
  rw [stepEvents,mem_filter]
  simp [lifecycle_eq,hs.step,references_of_linkedEvent hs.root]

include h

/-- The checks that claim, return and close share. -/
lemma Authorizes.step_iff (e : Event) (step : String) :
    (validateEnvelope C e step = .ok () ∧ sameContext e a = .ok () ∧
      linkedEvent e.toEventBody "root" = some a.id) ↔ ValidStep C o e step := by
  rw [validateEnvelope_eq_ok,sameContext_eq_ok,exactlyOneTag_eq_ok,h.id]
  constructor
  · rintro ⟨⟨hk,hv,hst,-⟩,⟨ht,-⟩,hr⟩
    exact ⟨hk,hv,hst,ht.trans h.context.symm,hr⟩
  · intro hs
    have ht := hs.context.trans h.context
    exact ⟨⟨hs.kind,hs.verified,hs.step,a.context,exactlyOneTag_eq_ok.2 ⟨ht,h.context_ne⟩⟩,
      ⟨ht,h.context_ne⟩,hs.root⟩

lemma Authorizes.validateClaim_iff (e : Event) : validateClaim C a e = .ok () ↔ ValidClaim C o e := by
  have hst := h.step_iff e handoffClaim
  simp only [validateClaim,bind_eq_ok,require_eq_ok,exists_unit,and_true,h.claimants,h.createdAt]
  constructor
  · rintro ⟨he,hc,ha,hr,hsi,ho⟩
    exact ⟨hst.1 ⟨he,hc,hr⟩,ha,hsi,ho⟩
  · rintro ⟨hs,ha,hsi,ho⟩
    obtain ⟨he,hc,hr⟩ := hst.2 hs
    exact ⟨he,hc,ha,hr,hsi,ho⟩

lemma Authorizes.validateReturn_iff (cl e : Event) :
    validateReturn C a cl e = .ok () ↔ ValidReturn C o cl e := by
  have hstep := h.step_iff e handoffReturn
  simp only [validateReturn,bind_eq_ok,require_eq_ok,exists_unit,and_true]
  constructor
  · rintro ⟨he,hc,ha,hsi,hr,hl,fields,hf,hid,hst,ho⟩
    exact ⟨hstep.1 ⟨he,hc,hr⟩,ha,hsi,hl,⟨fields,hf,hid,hst⟩,ho⟩
  · rintro ⟨hs,ha,hsi,hl,⟨fields,hf,hid,hst⟩,ho⟩
    obtain ⟨he,hc,hr⟩ := hstep.2 hs
    exact ⟨he,hc,ha,hsi,hr,hl,fields,hf,hid,hst,ho⟩

lemma Authorizes.validateClose_iff (ret e : Event) : validateClose C a ret e = .ok () ↔
    ValidClose C o ret e := by
  have hst := h.step_iff e handoffClose
  simp only [validateClose,bind_eq_ok,require_eq_ok,exists_unit]
  constructor
  · rintro ⟨he,hc,ha,hr,hl,fields,hf,hid,owner,ho,rfl⟩
    exact ⟨hst.1 ⟨he,hc,hr⟩,ha,hl,⟨fields,hf,hid⟩,_,ho,h.owner⟩
  · rintro ⟨hs,ha,hl,⟨fields,hf,hid⟩,owner,ho,hop⟩
    obtain ⟨he,hc,hr⟩ := hst.2 hs
    rw [h.owner] at hop
    cases hop
    exact ⟨he,hc,ha,hr,hl,fields,hf,hid,_,ho,rfl⟩

lemma Authorizes.mem_acceptedClaims : e ∈ acceptedClaims C a es ↔ e ∈ es ∧ ValidClaim C o e := by
  rw [acceptedClaims,mem_accepted,h.validateClaim_iff,h.id]
  exact and_congr_left fun hv => hv.toValidStep.mem_stepEvents

lemma Authorizes.mem_acceptedReturns {cl : Event} :
    e ∈ accepted (validateReturn C a cl) (stepEvents es handoffReturn a.id) ↔
      e ∈ es ∧ ValidReturn C o cl e := by
  rw [mem_accepted,h.validateReturn_iff,h.id]
  exact and_congr_left fun hv => hv.toValidStep.mem_stepEvents

lemma Authorizes.mem_acceptedCloses {ret : Event} :
    e ∈ accepted (validateClose C a ret) (stepEvents es handoffClose a.id) ↔
      e ∈ es ∧ ValidClose C o ret e := by
  rw [mem_accepted,h.validateClose_iff,h.id]
  exact and_congr_left fun hv => hv.toValidStep.mem_stepEvents

end

section

variable (C : Crates) (a : OpenAuthority) (events : List Event)

/-- The authors of the accepted claims, in the order the reducer meets them. -/
def claimAuthors : List PublicKey := (claimsByAuthor C a events).map Prod.fst

def claimsOf (author : PublicKey) : List Event :=
  ((acceptedClaims C a events).filter fun e => e.pubkey = author).insertionSort EventOrder

lemma claimsByAuthor_eq :
    claimsByAuthor C a events = (claimAuthors C a events).map fun k => (k,claimsOf C a events k) := by
  have hg := KeyedGroups.groups_collect ((acceptedClaims C a events).map fun e => (e.pubkey,e))
  have hkey : ∀ k, KeyedGroups.ofKey ((acceptedClaims C a events).map fun e => (e.pubkey,e)) k =
      (acceptedClaims C a events).filter fun e => e.pubkey = k := by
    simp [KeyedGroups.ofKey,filter_map,Function.comp_def]
  rw [claimAuthors,claimsByAuthor,sortGroups,map_map]
  conv_lhs => rw [hg.eq_map]
  simp only [map_map,hkey]
  rfl

lemma nodup_claimAuthors : (claimAuthors C a events).Nodup := by
  rw [claimAuthors,claimsByAuthor,sortGroups,map_map]
  exact (KeyedGroups.groups_collect _).nodup

lemma mem_claimAuthors (k : PublicKey) :
    k ∈ claimAuthors C a events ↔ ∃ e ∈ acceptedClaims C a events, e.pubkey = k := by
  rw [claimAuthors,claimsByAuthor,sortGroups,map_map]
  have hk := (KeyedGroups.groups_collect ((acceptedClaims C a events).map fun e => (e.pubkey,e))).mem_keys k
  simpa using hk

/-- Without a conflict the groups are the sorted accepted claims of the one author, or there
is none. -/
lemma claimsByAuthor_cases : (1 < (claimsByAuthor C a events).length ∧
      ∃ x ∈ acceptedClaims C a events, ∃ y ∈ acceptedClaims C a events, x.pubkey ≠ y.pubkey) ∨
    (claimsByAuthor C a events = [] ∧ acceptedClaims C a events = []) ∨
    (∃ k cl dups, claimsByAuthor C a events = [(k,cl :: dups)] ∧
      (acceptedClaims C a events).insertionSort EventOrder = cl :: dups ∧
      ∀ e ∈ acceptedClaims C a events, e.pubkey = k) := by
  have heq := claimsByAuthor_eq C a events
  have hm := mem_claimAuthors C a events
  have hn := nodup_claimAuthors C a events
  cases ha : claimAuthors C a events with
  | nil =>
    rw [ha] at heq hm
    refine .inr (.inl ⟨heq,eq_nil_iff_forall_not_mem.2 fun e he => ?_⟩)
    exact absurd ((hm e.pubkey).2 ⟨e,he,rfl⟩) (by simp)
  | cons k rest =>
    rw [ha] at heq hm hn
    cases rest with
    | nil =>
      have hal : ∀ e ∈ acceptedClaims C a events, e.pubkey = k := fun e he => by
        simpa using (hm e.pubkey).2 ⟨e,he,rfl⟩
      have hc : claimsOf C a events k = (acceptedClaims C a events).insertionSort EventOrder := by
        rw [claimsOf,filter_eq_self.2 fun e he => by simpa using hal e he]
      obtain ⟨e,he,-⟩ := (hm k).1 (by simp)
      cases hs : (acceptedClaims C a events).insertionSort EventOrder with
      | nil =>
        rw [← (perm_insertionSort EventOrder _).mem_iff,hs] at he
        simp at he
      | cons cl dups =>
        refine .inr (.inr ⟨k,cl,dups,?_,rfl,hal⟩)
        rw [heq,map_singleton,hc,hs]
    | cons k' rest =>
      obtain ⟨x,hx,rfl⟩ := (hm k).1 (by simp)
      obtain ⟨y,hy,rfl⟩ := (hm k').1 (by simp)
      refine .inl ⟨by rw [heq]; simp,x,hx,y,hy,?_⟩
      intro hxy
      simp [hxy] at hn

end

section

variable {C : Crates} {o : Event} {a : OpenAuthority} {es : List Event}

lemma reduceHandoff_cases (es : List Event) (h : validateOpen C o = .ok a) :
    ((∃ x ∈ acceptedClaims C a es, ∃ y ∈ acceptedClaims C a es, x.pubkey ≠ y.pubkey) ∧
      reduceHandoff C o es = stateFromAuthority a .conflict none none none
        (conflictingClaims (claimsByAuthor C a es))
        (rejected (validateClaim C a) (stepEvents es handoffClaim a.id))) ∨ (acceptedClaims C a es = [] ∧
      reduceHandoff C o es = stateFromAuthority a .opened none none none []
        (rejected (validateClaim C a) (stepEvents es handoffClaim a.id))) ∨ (∃ cl dups,
      (acceptedClaims C a es).insertionSort EventOrder = cl :: dups ∧
      (∀ e ∈ acceptedClaims C a es, e.pubkey = cl.pubkey) ∧
      reduceHandoff C o es = reduceClaimed C a es cl
        (rejected (validateClaim C a) (stepEvents es handoffClaim a.id) ++
          dups.map (ignoredEvent · "duplicate claim by the accepted claimant"))) := by
  rcases claimsByAuthor_cases C a es with ⟨hl,ht⟩ | ⟨hni,hn⟩ | ⟨k,cl,dups,ho,hs,ha⟩
  · refine .inl ⟨ht,?_⟩
    simp only [reduceHandoff,reduceHandoffWithInvalidAcknowledgments,h,hl,if_true]
  · refine .inr (.inl ⟨hn,?_⟩)
    simp [reduceHandoff,reduceHandoffWithInvalidAcknowledgments,h,hni]
  · refine .inr (.inr ⟨cl,dups,hs,?_,?_⟩)
    · have hc : cl ∈ acceptedClaims C a es := by
        rw [← (perm_insertionSort EventOrder _).mem_iff,hs]
        simp
      exact fun e he => (ha e he).trans (ha cl hc).symm
    · simp [reduceHandoff,reduceHandoffWithInvalidAcknowledgments,h,ho]

lemma eq_of_eventOrder {x y : Event} (hxy : EventOrder x y) (hyx : EventOrder y x) :
    x.createdAt = y.createdAt ∧ x.id = y.id := by
  rw [eventOrder_iff] at hxy hyx
  simpa using le_antisymm hxy hyx

lemma ValidReturn.congr {claim claim' e : Event} (h : ValidReturn C o claim e)
    (hid : claim.id = claim'.id) (ht : claim.createdAt = claim'.createdAt)
    (hkey : claim.pubkey = claim'.pubkey) : ValidReturn C o claim' e := by
  obtain ⟨hs,ha,hsi,hl,hc,ho⟩ := h
  rw [hid] at hl hc
  exact ⟨hs,ht ▸ ha,hsi.trans hkey,hl,hc,ho⟩

lemma ValidClose.congr {ret returned' e : Event} (h : ValidClose C o ret e)
    (hid : ret.id = returned'.id) (ht : ret.createdAt = returned'.createdAt) :
    ValidClose C o returned' e := by
  obtain ⟨hs,ha,hl,hc,ho⟩ := h
  rw [hid] at hl hc
  exact ⟨hs,ht ▸ ha,hl,hc,ho⟩

/-- The valid claims have one signer, and this is the earliest of them. -/
structure SoleClaim (C : Crates) (o : Event) (events : List Event) (claim : Event) : Prop where
  mem : claim ∈ events
  valid : ValidClaim C o claim
  only : ∀ e ∈ events, ValidClaim C o e → e.pubkey = claim.pubkey
  earliest : ∀ e ∈ events, ValidClaim C o e → EventOrder claim e

/-- The newest of the valid returns of the claim. -/
structure NewestReturn (C : Crates) (o : Event) (events : List Event) (claim returned : Event) : Prop where
  mem : returned ∈ events
  valid : ValidReturn C o claim returned
  newest : ∀ e ∈ events, ValidReturn C o claim e → EventOrder e returned

lemma reduceClaimed_closed_iff (h : Authorizes C o a) (cl : Event) (ignored : List IgnoredEvent) :
    (reduceClaimed C a es cl ignored).state = .closed ↔
      ∃ ret, NewestReturn C o es cl ret ∧ ∃ e ∈ es, ValidClose C o ret e := by
  simp only [reduceClaimed]
  split
  · rename_i hno
    have hem : ∀ e, ¬ (e ∈ es ∧ ValidReturn C o cl e) := by
      intro e he
      rw [← h.mem_acceptedReturns,(picks_getLast? _).none hno] at he
      simp at he
    simp only [stateFromAuthority,reduceCtorEq,false_iff,not_exists,not_and]
    exact fun ret hr => absurd ⟨hr.mem,hr.valid⟩ (hem ret)
  · rename_i ret hl
    obtain ⟨hm,hn⟩ := (picks_getLast? _).some ret hl
    obtain ⟨hin,hva⟩ := h.mem_acceptedReturns.1 hm
    have hnew : NewestReturn C o es cl ret := ⟨hin,hva,fun e he hv => hn e (h.mem_acceptedReturns.2 ⟨he,hv⟩)⟩
    have hc : ((accepted (validateClose C a ret)
        (stepEvents es handoffClose a.id)).insertionSort EventOrder).head?.isSome = true ↔
        ∃ e ∈ es, ValidClose C o ret e := by
      rw [isSome_head?,ne_eq,eq_nil_iff_forall_not_mem]
      simp [h.mem_acceptedCloses]
    simp only [stateFromAuthority]
    constructor
    · intro hst
      refine ⟨ret,hnew,hc.1 ?_⟩
      by_contra hne
      simp [hne] at hst
    · rintro ⟨other,ho,e,he,hv⟩
      obtain ⟨ht,hid⟩ := eq_of_eventOrder (hnew.newest other ho.mem ho.valid) (ho.newest ret hin hva)
      rw [if_pos (hc.2 ⟨e,he,hv.congr hid ht⟩)]

end

/-- Closed means closed. A valid open is reported as closed exactly when its valid claims
have one signer, the earliest of them has a newest valid return, and some valid close is for
that return; with valid claims from two signers it is neither closed nor returned. -/
theorem closed_iff_linked (C : Crates) (o : Event) (events : List Event) (a : OpenAuthority)
    (hopen : validateOpen C o = .ok a) : ((reduceHandoff C o events).state = .closed ↔ ∃ claim returned,
      SoleClaim C o events claim ∧ NewestReturn C o events claim returned ∧
        ∃ close ∈ events, ValidClose C o returned close) ∧
    ((∃ x ∈ events, ∃ y ∈ events, ValidClaim C o x ∧ ValidClaim C o y ∧ x.pubkey ≠ y.pubkey) →
      (reduceHandoff C o events).state ≠ .returned ∧ (reduceHandoff C o events).state ≠ .closed) := by
  have h := authorizes_of_validateOpen hopen
  rcases reduceHandoff_cases events hopen with ⟨⟨x,hx,y,hy,hne⟩,heq⟩ | ⟨hn,heq⟩ |
    ⟨claim,duplicates,hso,ha,heq⟩
  · obtain ⟨hxi,hxv⟩ := h.mem_acceptedClaims.1 hx
    obtain ⟨hyi,hyv⟩ := h.mem_acceptedClaims.1 hy
    rw [heq]
    refine ⟨?_,fun _ => ⟨by simp [stateFromAuthority],by simp [stateFromAuthority]⟩⟩
    simp only [stateFromAuthority,reduceCtorEq,false_iff,not_exists,not_and]
    intro claim returned hs
    exact absurd ((hs.only x hxi hxv).trans (hs.only y hyi hyv).symm) hne
  · have hem : ∀ e ∈ events, ¬ ValidClaim C o e := by
      intro e he hv
      have hm := h.mem_acceptedClaims.2 ⟨he,hv⟩
      simp [hn] at hm
    rw [heq]
    refine ⟨?_,fun _ => ⟨by simp [stateFromAuthority],by simp [stateFromAuthority]⟩⟩
    simp only [stateFromAuthority,reduceCtorEq,false_iff,not_exists,not_and]
    exact fun claim returned hs => absurd hs.valid (hem claim hs.mem)
  · obtain ⟨hm,hf⟩ := (picks_head? (r := EventOrder) (acceptedClaims C a events)).some claim
      (by rw [hso]; rfl)
    obtain ⟨hin,hva⟩ := h.mem_acceptedClaims.1 hm
    have hs : SoleClaim C o events claim :=
      ⟨hin,hva,fun e he hv => ha e (h.mem_acceptedClaims.2 ⟨he,hv⟩),
        fun e he hv => hf e (h.mem_acceptedClaims.2 ⟨he,hv⟩)⟩
    rw [heq,reduceClaimed_closed_iff h]
    refine ⟨⟨?_,?_⟩,?_⟩
    · rintro ⟨returned,hr,hc⟩
      exact ⟨claim,returned,hs,hr,hc⟩
    · rintro ⟨other,returned,ho,hr,hc⟩
      obtain ⟨ht,hid⟩ := eq_of_eventOrder (hs.earliest other ho.mem ho.valid) (ho.earliest claim hin hva)
      have hkey := ho.only claim hin hva
      refine ⟨returned,⟨hr.mem,hr.valid.congr hid.symm ht.symm hkey.symm,?_⟩,hc⟩
      exact fun e he hv => hr.newest e he (hv.congr hid ht hkey)
    · rintro ⟨x,hx,y,hy,hxv,hyv,hne⟩
      exact absurd ((hs.only x hx hxv).trans (hs.only y hy hyv).symm) hne

/-- A handoff from one key to either of two others. -/
def parserOpen : Event where
  pubkey := firstKey
  createdAt := 1700001000
  kind := 1
  tags := [⟨"t",["handoff:open"]⟩,⟨"h",["buzz"]⟩, ⟨"p",[secondKey.toHex]⟩, ⟨"p",[thirdKey.toHex]⟩]
  content :=
    "\x7b\"title\":\"port the parser\",\"base_commit\":\"0123456789abcdef0123456789abcdef01234567\"\x7d"
  id := .ofNat 32 0xc4eb32a5c1506472f68dcf040388286f971216af47e879e32617bae04d5f5462
  sig := .ofNat 64 0x155fc287aca34d479d956ff2abb174b18ef707c86a8bc32a6308c9ac12430c552f603b54fc8221a8819a3b8f12e659ebb93ade596d4eebaf028bffecac2324da

def parserClaim : Event where
  pubkey := secondKey
  createdAt := 1700001100
  kind := 1
  tags := [⟨"t",["handoff:claim"]⟩,⟨"h",["buzz"]⟩,⟨"e",[parserOpen.id.toHex,"","root"]⟩]
  content := ""
  id := .ofNat 32 0xeaaaebf5dc250457d3ba2d10011fda4d921f3b2e01e3fef4265323b68e4f49e7
  sig := .ofNat 64 0xf176a458552e9cf261f95f7c037aef3ca66fab13753e6a1927ecbc9edd96f9e07c003ca2472c04aeb1b4585b2364d7d49e70ffbb421792d95fb16697c5a88ce7

def rivalClaim : Event :=
  { parserClaim with
    pubkey := thirdKey
    createdAt := 1700001050
    id := .ofNat 32 0x2d7c4b1a4cd91fab440aefe707b726b738abe0ee33937f0d73a97e054bf8405a
    sig := .ofNat 64 0x6cc67616ed14dd4a51b391a097cba986130bcbc948dd2cea3351cbfb90129d75b20255dfe9b5b8f32a61102ed6ff990f33e09d052a0a655f257cf2fdbc73f84d }

def parserReturn : Event where
  pubkey := secondKey
  createdAt := 1700001200
  kind := 1
  tags := [⟨"t",["handoff:return"]⟩,⟨"h",["buzz"]⟩,
    ⟨"e",[parserOpen.id.toHex,"","root"]⟩,⟨"e",[parserClaim.id.toHex,"","claim"]⟩]
  content := "\x7b\"claim_id\":\"" ++ parserClaim.id.toHex ++ "\",\"status\":\"done\"\x7d"
  id := .ofNat 32 0xa38fa66751aafc72e45f03b4ffa39c7fec560017df65f4ef35b04056dc11f1e4
  sig := .ofNat 64 0x2d13e86a16869c1836dc7350a3c6363fbb213ec979e4408db5245f38f5887aff0f402afa24de84e43e32414f4de4fc60d1d33699e64c9bfaa77426ca082433f9

def parserClose : Event where
  pubkey := firstKey
  createdAt := 1700001300
  kind := 1
  tags := [⟨"t",["handoff:close"]⟩,⟨"h",["buzz"]⟩,
    ⟨"e",[parserOpen.id.toHex,"","root"]⟩,⟨"e",[parserReturn.id.toHex,"","return"]⟩]
  content := "\x7b\"return_id\":\"" ++ parserReturn.id.toHex ++ "\"\x7d"
  id := .ofNat 32 0x886bb56bab71600939c7b2b398719a28554040f677f3e0f8ca137415dfa2b1dd
  sig := .ofNat 64 0x3d42bde7d71d011d19c61e27c0182b366e411a991b10c1f002acda8a623cb5f4d361483469c425bc949b8997c5a8bc108f94a18166b4ea58e9ddc62e5a467f1b

/-- The crates on the given signed events and the contents of this handoff; none of the
events carries an owner attestation. -/
def parserCrates (signed : List Event) : Crates where
  toNostr := (EventStore.signedOnly signed fun _ => none).toNostr
  verify _ _ _ := false
  parseJson text :=
    if text = parserOpen.content then
      some (.object [("title",.string "port the parser"),
        ("base_commit",.string "0123456789abcdef0123456789abcdef01234567")])
    else if text = parserReturn.content then
      some (.object [("claim_id",.string parserClaim.id.toHex),("status",.string "done")])
    else if text = parserClose.content then
      some (.object [("return_id",.string parserReturn.id.toHex)])
    else none

def parserAuthority : OpenAuthority where
  id := parserOpen.id.toHex
  title := "port the parser"
  context := "buzz"
  openerPubkey := parserOpen.pubkey
  openerOwnerPubkey := parserOpen.pubkey
  allowedClaimants := [parserClaim.pubkey,rivalClaim.pubkey]
  createdAt := parserOpen.createdAt

def parserEvents : List Event := [parserClose,parserReturn,parserOpen,parserClaim]

theorem closed_iff_linked_port : let C := parserCrates (rivalClaim :: parserEvents)
    (∃ claim returned, SoleClaim C parserOpen parserEvents claim ∧
      NewestReturn C parserOpen parserEvents claim returned ∧
      ∃ close ∈ parserEvents, ValidClose C parserOpen returned close) ∧
    ((reduceHandoff C parserOpen (rivalClaim :: parserEvents)).state ≠ .returned ∧
      (reduceHandoff C parserOpen (rivalClaim :: parserEvents)).state ≠ .closed) := by
  intro C
  have ho : validateOpen C parserOpen = .ok parserAuthority := by decide +kernel
  have hc := (authorizes_of_validateOpen ho).validateClaim_iff
  refine ⟨(closed_iff_linked C parserOpen parserEvents parserAuthority ho).1.1 ?_,
    (closed_iff_linked C parserOpen (rivalClaim :: parserEvents) parserAuthority ho).2 ?_⟩
  · decide +kernel
  · exact ⟨rivalClaim,by decide +kernel,parserClaim,by decide +kernel,
      (hc rivalClaim).1 (by decide +kernel),(hc parserClaim).1 (by decide +kernel), by decide +kernel⟩

end BuzzSolo.Handoff
