import BuzzSolo.HandoffOrder

/-! Acknowledged invalid opens. An acknowledgment is described by what it carries and the opens it
names; an invalid open is reported as acknowledged exactly when the list has such an acknowledgment,
and a failed one leaves every report as it is. -/
namespace BuzzSolo.Handoff

open Checks HexText OwnerAttestation List

/-- An open that fails its validation, with an envelope that verifies and with the context
and the owner that can be read from it. -/
structure InvalidOpen (C : Crates) (o : Event) (context : String) (owner : PublicKey) : Prop where
  invalid : (validateOpen C o).toBool = false
  kind : o.kind = kindTextNote
  verified : Verified C.toNostr o
  step : (tagValues o.toEventBody "t").filter isLifecycleValue = [handoffOpen]
  tagged : tagValues o.toEventBody "h" = [context]
  context_ne : context ≠ ""
  attested : eventOwner C.toSchnorr o.toEventBody = .ok owner

/-- The last of the list's invalid opens under an id; an id has one, up to copies, unless two
events hash to it. -/
structure LastOpen (C : Crates) (events : List Event) (id : String) (o : Event) (context : String)
    (owner : PublicKey) : Prop where
  opened : InvalidOpen C o context owner
  id : o.id.toHex = id
  last : ∃ before after, events = before ++ o :: after ∧
    ∀ e ∈ after, ∀ context owner, InvalidOpen C e context owner → e.id ≠ o.id

def invalidIds (event : EventBody) : List String := event.tags.filterMap (markedLink "invalid")

/-- An acknowledgment whose tags and content name the same opens, each once, and each of them
an invalid open of the list with its context and its owner, from before it. -/
structure MatchingAck (C : Crates) (events : List Event) (ack : Event) (context : String)
    (owner : PublicKey) : Prop where
  kind : ack.kind = kindTextNote
  verified : Verified C.toNostr ack
  step : (tagValues ack.toEventBody "t").filter isLifecycleValue = [handoffAckInvalid]
  tagged : tagValues ack.toEventBody "h" = [context]
  attested : eventOwner C.toSchnorr ack.toEventBody = .ok owner
  ids_ne : invalidIds ack.toEventBody ≠ []
  nodup : (invalidIds ack.toEventBody).Nodup
  content : ∃ fields, ∃ ids : List String, contentObject C ack.toEventBody = .ok fields ∧
    (field fields "status").bind Json.asStr = some "acknowledged-invalid" ∧
    (field fields "open_ids").bind Json.asArray = some (ids.map Json.string) ∧
    ids.Nodup ∧ ∀ id, id ∈ ids ↔ id ∈ invalidIds ack.toEventBody
  targets : ∀ id ∈ invalidIds ack.toEventBody, ∃ o, LastOpen C events id o context owner ∧
    o.createdAt < ack.createdAt

/-- An acknowledgment of no more opens than one may name. -/
structure ValidAck (C : Crates) (events : List Event) (ack : Event) (context : String)
    (owner : PublicKey) : Prop extends MatchingAck C events ack context owner where
  few : (invalidIds ack.toEventBody).length ≤ maxInvalidAckTargets

section

variable {C : Crates} {es : List Event}
variable {o : Event} {context : String} {owner : PublicKey}

lemma InvalidOpen.authority (h : InvalidOpen C o context owner) :
    invalidOpens C [o] = [(o.id.toHex,⟨o.id.toHex,context,owner,o.createdAt⟩)] := by
  have hc := exactlyOneTag_eq_ok.2 ⟨h.tagged,h.context_ne⟩
  have hl : lifecycle o.toEventBody = some handoffOpen := by rw [lifecycle_eq,h.step]; rfl
  have ha : invalidOpenAuthority C o = .ok ⟨o.id.toHex,context,owner,o.createdAt⟩ :=
    invalidOpenAuthority_eq_ok.2
      ⟨validateEnvelope_eq_ok.2 ⟨h.kind,h.verified,h.step,_,hc⟩, rfl,hc,h.attested,rfl⟩
  simp [invalidOpens,hl,h.invalid,ha]

lemma exists_invalidOpen {en : String × InvalidOpenAuthority}
    (h : en ∈ invalidOpens C [o]) : ∃ context owner, InvalidOpen C o context owner := by
  obtain ⟨-,e,he,-,hi,ha⟩ := mem_invalidOpens.1 h
  rw [mem_singleton.1 he] at hi ha
  obtain ⟨hen,-,hc,ho,-⟩ := invalidOpenAuthority_eq_ok.1 ha
  obtain ⟨hk,hv,hst,-⟩ := validateEnvelope_eq_ok.1 hen
  obtain ⟨ht,hne⟩ := exactlyOneTag_eq_ok.1 hc
  exact ⟨_,_,hi,hk,hv,hst,ht,hne,ho⟩

lemma lastOf_append_singleton {α : Type} (ents : List (String × α)) (en : String × α) (key : String) :
    lastOf (ents ++ [en]) key = if en.1 = key then some en.2 else lastOf ents key := by
  by_cases h : en.1 = key <;> simp [lastOf,h]

lemma invalidOpens_append (fr back : List Event) :
    invalidOpens C (fr ++ back) = invalidOpens C fr ++ invalidOpens C back :=
  filterMap_append

variable {e : Event}

lemma split_append_singleton {fr bef aft : List Event} (h : fr ++ [e] = bef ++ o :: aft) :
    (bef = fr ∧ o = e ∧ aft = []) ∨ ∃ rest, aft = rest ++ [e] ∧ fr = bef ++ o :: rest := by
  rcases eq_nil_or_concat aft with rfl | ⟨rest,x,rfl⟩
  · obtain ⟨hf,hl⟩ := append_inj' h rfl
    cases hl
    exact .inl ⟨hf.symm,rfl,rfl⟩
  · have ha : bef ++ o :: rest.concat x = (bef ++ o :: rest) ++ [x] := by simp
    obtain ⟨hf,hl⟩ := append_inj' (h.trans ha) rfl
    cases hl
    exact .inr ⟨rest,by simp,hf⟩

lemma lastOpen_self {context' : String} {owner' : PublicKey}
    (h : InvalidOpen C e context owner) : LastOpen C (es ++ [e]) e.id.toHex o context' owner' ↔
      o = e ∧ context' = context ∧ owner' = owner := by
  constructor
  · rintro ⟨ho,hid,before,after,heq,ha⟩
    rcases split_append_singleton heq with ⟨-,rfl,-⟩ | ⟨rest,rfl,-⟩
    · have hc := ho.tagged.symm.trans h.tagged
      have how := ho.attested.symm.trans h.attested
      exact ⟨rfl,by simpa using hc,by simpa using how⟩
    · exact absurd (FixedBytes.toHex_inj.1 hid).symm (ha e (by simp) context owner h)
  · rintro ⟨rfl,rfl,rfl⟩
    exact ⟨h,rfl,es,[],rfl,by simp⟩

lemma lastOpen_append {id : String} (h : ∀ c w, InvalidOpen C e c w → e.id.toHex ≠ id) :
    LastOpen C (es ++ [e]) id o context owner ↔ LastOpen C es id o context owner := by
  constructor
  · rintro ⟨ho,hid,before,after,heq,ha⟩
    rcases split_append_singleton heq with ⟨-,rfl,-⟩ | ⟨rest,rfl,hf⟩
    · exact absurd hid (h context owner ho)
    · exact ⟨ho,hid,before,rest,hf,fun x hx => ha x (mem_append_left _ hx)⟩
  · rintro ⟨ho,hid,before,after,rfl,ha⟩
    refine ⟨ho,hid,before,after ++ [e],by simp,fun x hx c w hi => ?_⟩
    rcases mem_append.1 hx with hx | hx
    · exact ha x hx c w hi
    · rw [mem_singleton.1 hx] at hi ⊢
      exact fun heq => h c w hi (by rw [heq,hid])

/-- What the reducer's map of invalid opens has under an id. -/
lemma lastOf_invalidOpens {id : String} {v : InvalidOpenAuthority} : lastOf (invalidOpens C es) id = some v ↔
      ∃ o, LastOpen C es id o v.context v.openerOwnerPubkey ∧ v.id = id ∧ v.createdAt = o.createdAt := by
  induction es using reverseRecOn with
  | nil =>
    constructor
    · intro h
      cases h
    · rintro ⟨o,⟨-,-,before,after,heq,-⟩,-⟩
      simp at heq
  | append_singleton fr e ih =>
    rw [invalidOpens_append]
    by_cases ho : ∃ c w, InvalidOpen C e c w
    · obtain ⟨c,w,ho⟩ := ho
      rw [ho.authority,lastOf_append_singleton]
      split
      · rename_i hid
        have hid' : e.id.toHex = id := hid
        subst hid'
        rw [Option.some_inj]
        constructor
        · rintro rfl
          exact ⟨e,(lastOpen_self ho).2 ⟨rfl,rfl,rfl⟩,rfl,rfl⟩
        · rintro ⟨o,hl,hid,hc⟩
          obtain ⟨rfl,hco,how⟩ := (lastOpen_self ho).1 hl
          cases v
          simp_all
      · rename_i hid
        rw [ih]
        simp only [lastOpen_append fun _ _ _ => hid]
    · have hn : invalidOpens C [e] = [] :=
        eq_nil_iff_forall_not_mem.2 fun en he => ho (exists_invalidOpen he)
      rw [hn,append_nil,ih]
      simp only [lastOpen_append fun c w h => absurd ⟨c,w,h⟩ ho]

end
section

variable {C : Crates} {es : List Event}

lemma isLowerHex_toHex (id : EventId) : isLowerHex id.toHex 64 = true := by
  have hl : id.toHex.toList.length = 64 := by
    rw [FixedBytes.toHex,String.toList_ofList,length_of_decode _ _ (decode_encode id.bytes),id.length_bytes]
  have hc : id.toHex.toList.all isLowerHexChar = true := by
    rw [FixedBytes.toHex,String.toList_ofList,all_eq_true]
    exact isLowerHexChar_of_mem_encode id.bytes
  simp [isLowerHex,hl,hc]

lemma length_sortedSet_iff {xs : List String} : (sortedSet xs).length = xs.length ↔ xs.Nodup := by
  rw [sortedSet,length_insertionSort]
  constructor
  · intro h
    rw [← (dedup_sublist xs).eq_of_length h]
    exact nodup_dedup xs
  · intro h
    rw [h.dedup]

lemma sortedSet_eq_iff {items items' : List String} :
    sortedSet items = sortedSet items' ↔ ∀ x, x ∈ items ↔ x ∈ items' := by
  constructor
  · intro h x
    rw [← mem_sortedSet,h,mem_sortedSet]
  · intro h
    have hp : items.dedup.Perm items'.dedup :=
      (perm_ext_iff_of_nodup (nodup_dedup _) (nodup_dedup _)).2 (by simpa using h)
    exact SortedSelection.eq_of_perm (fun _ _ _ _ => le_antisymm) hp

lemma ackTarget_eq_ok {item : Json} {id : String} :
    ackTarget item = .ok id ↔ item = .string id ∧ isLowerHex id 64 = true := by
  cases item with
  | string v =>
    simp only [ackTarget,Json.asStr,okOr_eq_ok,Option.filter_eq_some_iff,Option.some_inj,Json.string.injEq]
  | _ => simp [ackTarget,Json.asStr]

lemma collect_ackTarget {xs : List Json} {ids : List String} : collect ackTarget xs = .ok ids ↔
      xs = ids.map Json.string ∧ ∀ id ∈ ids, isLowerHex id 64 = true := by
  simp only [collect_eq_ok,ackTarget_eq_ok]
  constructor
  · intro h
    induction h with
    | nil => simp
    | cons hi _ ih => simpa [hi.1,hi.2,ih.1] using ih.2
  · rintro ⟨rfl,h⟩
    rw [forall₂_map_left_iff,forall₂_same]
    exact fun id hid => ⟨rfl,h id hid⟩

variable {ack : Event}

lemma checkAckTarget_eq_ok {ctx id : String} {owner : PublicKey} :
    checkAckTarget (invalidOpens C es) ack ctx owner id = .ok () ↔
      ∃ o, LastOpen C es id o ctx owner ∧ o.createdAt < ack.createdAt := by
  simp only [checkAckTarget,bind_eq_ok,exists_unit,okOr_eq_ok,require_eq_ok,lastOf_invalidOpens]
  constructor
  · rintro ⟨v,⟨o,hl,-,hc⟩,rfl,ha,rfl⟩
    exact ⟨o,hl,hc ▸ ha⟩
  · rintro ⟨o,hl,ha⟩
    exact ⟨⟨id,ctx,owner,o.createdAt⟩,⟨o,hl,rfl,rfl⟩,rfl,ha,rfl⟩

lemma validateInvalidAck_eq_ok {ids : List String} : validateInvalidAck C (invalidOpens C es) ack = .ok ids ↔
      ids = sortedSet (invalidIds ack.toEventBody) ∧ ∃ ctx owner, ValidAck C es ack ctx owner := by
  simp only [validateInvalidAck,bind_eq_ok,exists_unit,okOr_eq_ok,require_eq_ok,collect_ackTarget,
    validateEnvelope_eq_ok,exactlyOneTag_eq_ok,length_sortedSet_iff,sortedSet_eq_iff,Except.ok.injEq]
  constructor
  · rintro ⟨⟨hk,hv,hstep,-⟩,ctx,⟨ht,-⟩,owner,ho,⟨hne,-⟩,hfe,hn,fds,hf,
      hst,items,hi,-,contentIds,⟨rfl,-⟩,hc,hs,_,hch,rfl⟩
    refine ⟨sortedSet_eq_iff.2 hs,ctx,owner,?_,hfe⟩
    refine ⟨hk,hv,hstep,ht,ho,hne,hn, ⟨fds,contentIds,hf,hst,hi,hc,hs⟩,fun id hid => ?_⟩
    obtain ⟨_,hce⟩ := ok_of_collect hch (mem_sortedSet.2 ((hs id).2 hid))
    exact checkAckTarget_eq_ok.1 hce
  · rintro ⟨rfl,ctx,owner,h,hfe⟩
    obtain ⟨fds,contentIds,hf,hst,hi,hc,hs⟩ := h.content
    have hh : ∀ id ∈ invalidIds ack.toEventBody, isLowerHex id 64 = true := by
      intro id hid
      obtain ⟨o,hl,-⟩ := h.targets id hid
      rw [← hl.id]
      exact isLowerHex_toHex o.id
    have hco : ctx ≠ "" := by
      obtain ⟨id,hid⟩ := exists_mem_of_ne_nil _ h.ids_ne
      obtain ⟨o,hl,-⟩ := h.targets id hid
      exact hl.opened.context_ne
    have hle : contentIds.length = (invalidIds ack.toEventBody).length :=
      ((perm_ext_iff_of_nodup hc h.nodup).2 hs).length_eq
    obtain ⟨checks,hch⟩ := exists_collect fun id hid => ⟨(),checkAckTarget_eq_ok.2
      (h.targets id ((hs id).1 (mem_sortedSet.1 hid)))⟩
    exact ⟨⟨h.kind,h.verified,h.step,ctx,h.tagged,hco⟩,ctx,⟨h.tagged,hco⟩,owner,
      h.attested,⟨h.ids_ne,hh⟩,hfe,h.nodup,fds,hf,hst,_,hi,by simpa [hle] using hfe,
      contentIds,⟨rfl,fun id hid => hh id ((hs id).1 hid)⟩,hc,hs,checks,hch, sortedSet_eq_iff.2 hs⟩

variable {why : String}

lemma acknowledged_iff_ackedBy {o : Event} (h : validateOpen C o = .error why) :
    (reduceHandoff C o es).state = .acknowledgedInvalid ↔ ∃ ack, ack ∈ ackedBy C es o.id.toHex := by
  have hst : (reduceHandoff C o es).state =
      if ((ackedBy C es o.id.toHex).insertionSort EventOrder).head?.isSome then .acknowledgedInvalid
      else .invalid := by
    rw [reduceHandoff_invalid es h,← acks_acceptedByOpen]
    rfl
  have hs : ((ackedBy C es o.id.toHex).insertionSort EventOrder).head?.isSome = true ↔
      ∃ ack, ack ∈ ackedBy C es o.id.toHex := by
    have hm := fun ack => (perm_insertionSort EventOrder (ackedBy C es o.id.toHex)).mem_iff (a := ack)
    rw [isSome_head?]
    constructor
    · intro hne
      obtain ⟨ack,ha⟩ := exists_mem_of_ne_nil _ hne
      exact ⟨ack,(hm ack).1 ha⟩
    · rintro ⟨ack,ha⟩
      exact ne_nil_of_mem ((hm ack).2 ha)
  rw [hst,← hs]
  split <;> simp_all

lemma not_acknowledged_of_valid {o : Event} {a : OpenAuthority} (h : validateOpen C o = .ok a) :
    (reduceHandoff C o es).state ≠ .acknowledgedInvalid := by
  have hst : (reduceHandoff C o es).state = chosenState C a es := by
    rw [reduceHandoff_eq C a es h]
    rfl
  rw [hst]
  unfold chosenState
  split_ifs <;> decide

def without (e : Event) (events : List Event) : List Event := events.filter fun x => x ≠ e

lemma stepEvents_without {e : Event} {step id : String} (h : lifecycle e.toEventBody ≠ some step) :
    stepEvents (without e es) step id = stepEvents es step id := by
  rw [stepEvents,stepEvents,without,filter_filter]
  refine filter_congr fun x _ => ?_
  by_cases hx : x = e
  · simp [hx,h]
  · simp [hx]

variable {e : Event}

lemma invalidOpens_without (h : lifecycle e.toEventBody ≠ some handoffOpen) :
    invalidOpens C (without e es) = invalidOpens C es := by
  rw [invalidOpens,invalidOpens,without,filterMap_filter]
  refine filterMap_congr fun x _ => ?_
  by_cases hx : x = e
  · simp [hx,h]
  · simp [hx]

lemma flatMap_without {β : Type} {f : Event → List β} (h : f e = []) :
    (without e es).flatMap f = es.flatMap f := by
  induction es with
  | nil => rfl
  | cons x es ih =>
    rw [without] at ih ⊢
    by_cases hx : x = e
    · simpa [hx,h] using ih
    · simpa [hx] using ih

lemma ackedBy_without (h : lifecycle e.toEventBody ≠ some handoffOpen)
    (hf : validateInvalidAck C (invalidOpens C es) e = .error why) (id : String) :
    ackedBy C (without e es) id = ackedBy C es id := by
  have hn : acceptedAcks C (invalidOpens C es) e = [] := by rw [acceptedAcks,hf]
  have hs : ackEvents (without e es) = without e (ackEvents es) := by
    rw [ackEvents,ackEvents,without,without,filter_filter,filter_filter]
    exact filter_congr fun x _ => Bool.and_comm _ _
  rw [ackedBy,ackedBy,invalidOpens_without h,hs,flatMap_without hn]

/-- A failed acknowledgment changes no verdict. -/
lemma core_without (hl : lifecycle ack.toEventBody = some handoffAckInvalid)
    (hf : validateInvalidAck C (invalidOpens C es) ack = .error why) (o : Event) :
    core (reduceHandoff C o (without ack es)) = core (reduceHandoff C o es) := by
  have hst : ∀ step, handoffAckInvalid ≠ step → lifecycle ack.toEventBody ≠ some step := by
    intro step hne
    rw [hl]
    exact fun h => hne (Option.some.inj h)
  cases h : validateOpen C o with
  | error why =>
    rw [reduceHandoff_invalid _ h,reduceHandoff_invalid _ h]
    apply core_invalidState
    rw [acks_acceptedByOpen,acks_acceptedByOpen,ackedBy_without (hst handoffOpen (by decide)) hf]
  | ok a =>
    have hc := fun id => @stepEvents_without es _ _ id (hst handoffClaim (by decide))
    have hr := fun id => @stepEvents_without es _ _ id (hst handoffReturn (by decide))
    have hcl := fun id => @stepEvents_without es _ _ id (hst handoffClose (by decide))
    have hg : claimsByAuthor C a (without ack es) = claimsByAuthor C a es := by
      simp only [claimsByAuthor,acceptedClaims,hc]
    have hre : reduceClaimed C a (without ack es) = reduceClaimed C a es := by
      funext cl ignored
      unfold reduceClaimed
      rw [hr,hcl]
    unfold reduceHandoff reduceHandoffWithInvalidAcknowledgments
    rw [h]
    dsimp only
    rw [hg,hre,hc]

end

/-- Acknowledgment is exact and atomic: an invalid open is reported as acknowledged exactly
when a valid acknowledgment names it, one that is not valid leaves the verdict on every open
as it is without it, and a valid open is never reported as acknowledged. -/
theorem acknowledged_exactly (C : Crates) (events : List Event) :
    (∀ o reason, validateOpen C o = .error reason → ((reduceHandoff C o events).state = .acknowledgedInvalid ↔
        ∃ ack ∈ events, o.id.toHex ∈ invalidIds ack.toEventBody ∧
          ∃ context owner, ValidAck C events ack context owner)) ∧
    (∀ ack, lifecycle ack.toEventBody = some handoffAckInvalid →
      (¬ ∃ context owner, ValidAck C events ack context owner) →
        ∀ o, core (reduceHandoff C o events) = core (reduceHandoff C o (without ack events))) ∧
    ∀ o a, validateOpen C o = .ok a → (reduceHandoff C o events).state ≠ .acknowledgedInvalid := by
  refine ⟨fun o reason hi => ?_,fun ack hl hn o => ?_,fun o a => not_acknowledged_of_valid⟩
  · rw [acknowledged_iff_ackedBy hi]
    constructor
    · rintro ⟨ack,ha⟩
      obtain ⟨hm,-,ids,hv,hid⟩ := mem_ackedBy.1 ha
      obtain ⟨rfl,ha⟩ := validateInvalidAck_eq_ok.1 hv
      exact ⟨ack,hm,mem_sortedSet.1 hid,ha⟩
    · rintro ⟨ack,hm,hid,context,owner,ha⟩
      have hl : lifecycle ack.toEventBody = some handoffAckInvalid := by
        rw [lifecycle_eq,ha.step]
        rfl
      exact ⟨ack,mem_ackedBy.2
        ⟨hm,hl,_,validateInvalidAck_eq_ok.2 ⟨rfl,context,owner,ha⟩, mem_sortedSet.2 hid⟩⟩
  · cases hv : validateInvalidAck C (invalidOpens C events) ack with
    | ok ids => exact absurd (validateInvalidAck_eq_ok.1 hv).2 hn
    | error reason => exact (core_without hl hv o).symm
section

def batchKey : PublicKey := .ofNat 32 1

def batchOpen (n : ℕ) : Event where
  pubkey := batchKey
  createdAt := n
  kind := 1
  tags := [⟨"t",["handoff:open"]⟩,⟨"h",["buzz"]⟩]
  content := ""
  id := .ofNat 32 n
  sig := .ofNat 64 0

def batchText (count : ℕ) : String :=
  "\x7b\"status\":\"acknowledged-invalid\",\"open_ids\":[" ++
    ",".intercalate ((range count).map fun n => "\"" ++ (FixedBytes.ofNat 32 n).toHex ++ "\"") ++ "]\x7d"

def batchAck (count : ℕ) : Event where
  pubkey := batchKey
  createdAt := count
  kind := 1
  tags := ⟨"t",["handoff:ack-invalid"]⟩ :: ⟨"h",["buzz"]⟩ ::
    (range count).map fun n => ⟨"e",[(FixedBytes.ofNat 32 n).toHex,"","invalid"]⟩
  content := batchText count
  id := .ofNat 32 count
  sig := .ofNat 64 0

def batchFields (count : ℕ) : List (String × Json) :=
  [("status",.string "acknowledged-invalid"),
    ("open_ids",.array ((range count).map fun n => .string (FixedBytes.ofNat 32 n).toHex))]

/-- Crates that know the events by their times, and serde_json on the one content. -/
def batchCrates (count : ℕ) : Crates where
  eventIdNew body := .ofNat 32 body.createdAt
  verifySignature _ := true
  verify _ _ _ := false
  parseJson text := if text = batchText count then some (.object (batchFields count)) else none

def batchEvents (count : ℕ) : List Event := (range count).map batchOpen ++ [batchAck count]

lemma batchText_ne (count : ℕ) : batchText count ≠ "" := by
  have hne (front : String) : front ++ "]\x7d" ≠ "" := by simp
  exact hne _

lemma invalidIds_batchAck (count : ℕ) : invalidIds (batchAck count).toEventBody =
    (range count).map fun n => (FixedBytes.ofNat 32 n).toHex := by
  simp [invalidIds,batchAck,markedLink,Function.comp_def,Tag.content]

variable {cnt : ℕ}

lemma nodup_batchIds (h : cnt ≤ 65536) : ((range cnt).map fun n => (FixedBytes.ofNat 32 n).toHex).Nodup := by
  refine List.Nodup.map_on (fun m hm n hn heq => ?_) nodup_range
  rw [mem_range] at hm hn
  exact FixedBytes.ofNat_inj_of_lt (by omega) (by omega) (FixedBytes.toHex_inj.1 heq)

lemma validateOpen_batchOpen (cnt n : ℕ) :
    ∃ reason, validateOpen (batchCrates cnt) (batchOpen n) = .error reason := by
  cases h : validateOpen (batchCrates cnt) (batchOpen n) with
  | error reason => exact ⟨reason,rfl⟩
  | ok a =>
    simp only [validateOpen,bind_eq_ok] at h
    obtain ⟨-,-,-,-,cont,hc,-⟩ := h
    simp [contentObject,batchCrates,batchOpen,(batchText_ne cnt).symm] at hc

lemma invalidOpen_batchOpen (cnt n : ℕ) : InvalidOpen (batchCrates cnt) (batchOpen n) "buzz" batchKey := by
  obtain ⟨reason,hi⟩ := validateOpen_batchOpen cnt n
  have hst : isLifecycleValue "handoff:open" = true := by decide
  refine ⟨by rw [hi]; rfl,rfl,(verified_iff _ _).2 ⟨rfl,rfl⟩,?_,?_,by decide,?_⟩
  · simp [tagValues,batchOpen,Tag.content,hst,handoffOpen]
  · simp [tagValues,batchOpen,Tag.content]
  · simp [eventOwner,EventBody.tagsNamed,batchOpen]

lemma nodup_batchEvents (h : cnt < 65536) : ((batchEvents cnt).map (·.id)).Nodup := by
  have hi : (batchEvents cnt).map (·.id) = (range (cnt+1)).map (.ofNat 32) := by
    simp [batchEvents,batchOpen,batchAck,range_succ]
  rw [hi]
  refine List.Nodup.map_on (fun m hm n hn heq => ?_) nodup_range
  rw [mem_range] at hm hn
  exact FixedBytes.ofNat_inj_of_lt (by omega) (by omega) heq

lemma lastOpen_batchOpen {n : ℕ} (h : cnt < 65536) (hn : n < cnt) :
    LastOpen (batchCrates cnt) (batchEvents cnt) (FixedBytes.ofNat 32 n).toHex
    (batchOpen n) "buzz" batchKey := by
  have hm : batchOpen n ∈ batchEvents cnt := by simp [batchEvents]; exact .inl ⟨n,hn,rfl⟩
  obtain ⟨bef,aft,hs⟩ := append_of_mem hm
  refine ⟨invalidOpen_batchOpen cnt n,rfl,bef,aft,hs,fun e he _ _ _ heq => ?_⟩
  have hno := nodup_batchEvents h
  rw [hs,map_append,map_cons,nodup_append] at hno
  exact (nodup_cons.1 hno.2.1).1 (mem_map.2 ⟨e,he,heq⟩)

lemma matchingAck_batchAck (hp : 0 < cnt) (h : cnt < 65536) :
    MatchingAck (batchCrates cnt) (batchEvents cnt) (batchAck cnt) "buzz" batchKey where
  kind := rfl
  verified := (verified_iff _ _).2 ⟨rfl,rfl⟩
  step := by
    have hst : isLifecycleValue "handoff:ack-invalid" = true := by decide
    simp [tagValues,batchAck,Tag.content,hst,handoffAckInvalid]
  tagged := by simp [tagValues,batchAck,Tag.content]
  attested := by simp [eventOwner,EventBody.tagsNamed,batchAck,filter_map,Function.comp_def]
  ids_ne := by
    rw [invalidIds_batchAck]
    simp
    omega
  nodup := by
    rw [invalidIds_batchAck]
    exact nodup_batchIds (by omega)
  content := by
    refine ⟨batchFields cnt,(range cnt).map fun n => (FixedBytes.ofNat 32 n).toHex,?_,?_,?_,
      nodup_batchIds (by omega),?_⟩
    · simp only [contentObject,batchCrates,batchAck,if_true]
      rfl
    · simp [batchFields,field,Json.asStr]
    · simp [batchFields,field,Json.asArray]
    · rw [invalidIds_batchAck]
      exact fun id => Iff.rfl
  targets := by
    rw [invalidIds_batchAck]
    intro id hid
    obtain ⟨n,hn,rfl⟩ := mem_map.1 hid
    rw [mem_range] at hn
    exact ⟨batchOpen n,lastOpen_batchOpen h hn,hn⟩

/-- As many opens as one acknowledgment may name are acknowledged. -/
theorem acknowledged_exactly_batch :
    (reduceHandoff (batchCrates 256) (batchOpen 0) (batchEvents 256)).state = .acknowledgedInvalid := by
  obtain ⟨reason,hi⟩ := validateOpen_batchOpen 256 0
  refine ((acknowledged_exactly (batchCrates 256) (batchEvents 256)).1 _ reason hi).2
    ⟨batchAck 256,by simp [batchEvents],?_,"buzz",batchKey,matchingAck_batchAck (by decide) (by decide),?_⟩
  · rw [invalidIds_batchAck]
    exact mem_map.2 ⟨0,by simp,rfl⟩
  · simp [invalidIds_batchAck,maxInvalidAckTargets]

/-- One open more, and none of them is. -/
theorem oversized_acknowledgment_refused :
    MatchingAck (batchCrates 257) (batchEvents 257) (batchAck 257) "buzz" batchKey ∧
      batchAck 257 ∈ batchEvents 257 ∧ ∀ n, n < 257 → batchOpen n ∈ batchEvents 257 ∧
        InvalidOpen (batchCrates 257) (batchOpen n) "buzz" batchKey ∧
        (batchOpen n).id.toHex ∈ invalidIds (batchAck 257).toEventBody ∧
        (reduceHandoff (batchCrates 257) (batchOpen n) (batchEvents 257)).state ≠ .acknowledgedInvalid := by
  refine ⟨matchingAck_batchAck (by decide) (by decide),by simp [batchEvents],fun n hn => ?_⟩
  refine ⟨?_,invalidOpen_batchOpen 257 n,?_,fun hstate => ?_⟩
  · exact mem_append_left _ (mem_map.2 ⟨n,mem_range.2 hn,rfl⟩)
  · rw [invalidIds_batchAck]
    exact mem_map.2 ⟨n,mem_range.2 hn,rfl⟩
  · obtain ⟨reason,hi⟩ := validateOpen_batchOpen 257 n
    obtain ⟨ack,ha⟩ := (acknowledged_iff_ackedBy hi).1 hstate
    obtain ⟨hm,-,ids,hv,-⟩ := mem_ackedBy.1 ha
    obtain ⟨-,context,owner,hv⟩ := validateInvalidAck_eq_ok.1 hv
    rcases mem_append.1 hm with ho | hl
    · obtain ⟨m,-,rfl⟩ := mem_map.1 ho
      have hstep := (invalidOpen_batchOpen 257 m).step.symm.trans hv.step
      exact absurd hstep (by decide)
    · rw [mem_singleton.1 hl] at hv
      have hf := hv.few
      rw [invalidIds_batchAck,length_map,length_range] at hf
      exact absurd hf (by decide)

end
end BuzzSolo.Handoff
