import BuzzSolo.AtLeastOnce

/-! The discovery state of groups at start-up. A start derives the discovery events of the group
creations that the query shows and submits them; another start submits duplicates only. -/
namespace BuzzSolo.LocalRelay

open Checks HexText LineText Ingest EventStore LatestRegister Query List

section

variable {X : EventStore.Crates} {pool : List Event} {events : List StoredEvent} {seen : Finset EventId}
  {e : Event} {s aft : Store}

/-- The effective list and the remembered ids of a store that was given events of the pool:
whatever it remembers has left its mark. -/
structure Holding (X : EventStore.Crates) (pool : List Event) (events : List StoredEvent)
    (seen : Finset EventId) : Prop where
  effective : EffectiveSet events
  separated : Separated stream events
  known : ∀ t ∈ events, t.event ∈ pool ∧ Verified X.toNostr t.event
  listed : ∀ t ∈ events, t.event.id ∈ seen
  covered : ∀ i ∈ seen, ∃ e ∈ pool, Verified X.toNostr e ∧ e.id = i ∧
    (isEphemeralKind e.kind = false → Covered stream events (storedEvent X e))

lemma holding_empty : Holding X pool [] ∅ :=
  ⟨effectiveSet_nil,by simp [Separated],by simp,by simp,by simp⟩

lemma Holding.covered_of_seen (hco : NoCollision X.toNostr pool) (h : Holding X pool events seen)
    (he : e ∈ pool) (had : Admitted X e) (hid : e.id ∈ seen) : Covered stream events (storedEvent X e) := by
  obtain ⟨a,ha,hva,hai,hc⟩ := h.covered e.id hid
  have hb := body_eq_of_id_eq hco ha he hva had.1 hai
  exact covered_congr hb hai (hc (by rw [hb]; exact had.2))

lemma consistent_pool (hc : NoCollision X.toNostr pool) :
    Consistent stream fun t : StoredEvent => t.event ∈ pool ∧ Verified X.toNostr t.event := by
  have hb : ∀ s t : StoredEvent, s.event ∈ pool ∧ Verified X.toNostr s.event →
      t.event ∈ pool ∧ Verified X.toNostr t.event → s.event.id = t.event.id →
        s.event.toEventBody = t.event.toEventBody :=
    fun s t hs ht => body_eq_of_id_eq hc hs.1 ht.1 hs.2 ht.2
  exact ⟨fun s t hs ht hid => replacementKey_congr (hb s t hs ht hid),
    fun s t hs ht hid => rank_congr (hb s t hs ht hid) hid⟩

lemma applyEffectiveEvent_of_ephemeral (h : isEphemeralKind e.kind = true) :
    (applyEffectiveEvent events (storedEvent X e)).1 = events := by
  have hd : decideEvent events false e ≠ .stored := by
    simp only [decideEvent,classifyEvent,h,if_true]
    split_ifs <;> decide
  simp [applyEffectiveEvent,hd]

lemma Holding.remember (h : Holding X pool events seen) (he : e ∈ pool) (hv : Verified X.toNostr e)
    (hc : isEphemeralKind e.kind = false → Covered stream events (storedEvent X e)) :
    Holding X pool events (insert e.id seen) := by
  refine ⟨h.effective,h.separated,h.known,fun t ht => Finset.mem_insert_of_mem (h.listed t ht),?_⟩
  intro i hi
  rcases Finset.mem_insert.1 hi with rfl | hi
  · exact ⟨e,he,hv,rfl,hc⟩
  · exact h.covered i hi

/-- Giving the store one more event of the pool. -/
lemma Holding.apply (hcl : NoCollision X.toNostr pool) (h : Holding X pool events seen)
    (he : e ∈ pool) (hv : Verified X.toNostr e) :
    Holding X pool (applyEffectiveEvent events (storedEvent X e)).1 (insert e.id seen) := by
  have hef := applyEffectiveEvent_effectiveSet h.effective (storedEvent X e)
  cases hdu : isEphemeralKind e.kind with
  | true =>
    rw [applyEffectiveEvent_of_ephemeral hdu]
    exact h.remember he hv (by simp [hdu])
  | false =>
    rw [applyEffectiveEvent_fst (storedEvent X e) h.separated hdu] at hef ⊢
    split_ifs at hef ⊢ with hc
    · exact h.remember he hv fun _ => hc
    · refine ⟨hef,separated_place h.separated,?_,?_,?_⟩
      · intro t ht
        rcases mem_or_eq_of_mem_place ht with ht | rfl
        · exact h.known t ht
        · exact ⟨he,hv⟩
      · intro t ht
        rcases mem_or_eq_of_mem_place ht with ht | rfl
        · exact Finset.mem_insert_of_mem (h.listed t ht)
        · exact Finset.mem_insert_self _ _
      · intro i hi
        rcases Finset.mem_insert.1 hi with rfl | hi
        · exact ⟨e,he,hv,rfl,fun _ => covered_place_self⟩
        · obtain ⟨a,ha,hva,hid,hco⟩ := h.covered i hi
          exact ⟨a,ha,hva,hid,fun hd =>
            covered_place (consistent_pool hcl) h.known ⟨ha,hva⟩ hc (hco hd)⟩

lemma replayLines_holding (hc : NoCollision X.toNostr pool) (ls : List String) (n : ℕ)
    {r rep : ReplayedLog} (hrun : replayLines X r n ls = .ok rep)
    (h : (∀ e ∈ r.journal, e ∈ pool) → Holding X pool r.events r.seenIds)
    (hp : ∀ e ∈ rep.journal, e ∈ pool) : Holding X pool rep.events rep.seenIds := by
  induction ls generalizing r n with
  | nil =>
    cases hrun
    exact h hp
  | cons ln ls ih =>
    rw [replayLines] at hrun
    split at hrun
    · exact ih _ hrun h
    · split at hrun
      · cases hrun
      · rename_i e hr
        split at hrun
        · cases hrun
        · rename_i hv
          refine ih _ hrun fun hn => ?_
          obtain ⟨hold,he⟩ := forall_mem_append.1 hn
          exact (h hold).apply hc (he e mem_cons_self) hv

lemma openStore_holding {file : Option ByteArray} (ho : openStore X (.durable file) = .ok s)
    (hc : NoCollision X.toNostr pool)
    (hp : ∀ e ∈ s.journal, e ∈ pool) : Holding X pool s.events s.seenIds := by
  simp only [openStore] at ho
  split at ho
  · cases ho
  · rename_i replayed hr
    cases ho
    unfold replayLog at hr
    split at hr
    · exact replayLines_holding hc _ _ hr (fun _ => holding_empty) hp
    · split at hr
      · cases hr
      · exact replayLines_holding hc _ _ hr (fun _ => holding_empty) hp

lemma applyEffectiveEvent_of_not_stored {kn : Bool} {decision : EventDecision}
    (h : decideEvent events kn e = decision) (hd : decision ≠ .duplicate) (hs : decision ≠ .stored) :
    (applyEffectiveEvent events (storedEvent X e)).1 = events := by
  have hf : decideEvent events false e = decision := by
    cases kn with
    | false => exact h
    | true => exact absurd (h.symm.trans (by simp [decideEvent])) hd
  simp [applyEffectiveEvent,hf,hs]

variable {io : AppendOutcome}

lemma accept_holding {res : WriteResult}
    (hac : accept X io s e = (aft,.ok res)) (hc : NoCollision X.toNostr pool)
    (h : Holding X pool s.events s.seenIds) (he : e ∈ pool) (hv : Verified X.toNostr e) :
    Holding X pool aft.events aft.seenIds ∧ aft.seenIds = insert e.id s.seenIds ∧
      (aft.events = s.events ∨ aft.events = (applyEffectiveEvent s.events (storedEvent X e)).1) := by
  have hout := accept_outcome X io s e
  rw [hac] at hout
  have ha := h.apply hc he hv
  generalize han : (Except.ok res : Except StoreError WriteResult) = answer at hout
  cases hout with
  | rejected why hn => exact absurd hv hn
  | duplicate _ hd =>
    have hse : e.id ∈ aft.seenIds := by
      by_contra hn
      have hf : ¬ ∃ t ∈ aft.events, t.event.id = e.id := by
        rintro ⟨t,ht,hid⟩
        exact hn (hid ▸ h.listed t ht)
      simp only [decideEvent,hn,decide_false,Bool.false_or,any_eq_true,decide_eq_true_eq,hf, if_false] at hd
      split at hd <;> (try split at hd) <;> (try split at hd) <;> cases hd
    exact ⟨h,(Finset.insert_eq_of_mem hse).symm,.inl rfl⟩
  | ephemeral _ hd | superseded _ hd =>
    rw [applyEffectiveEvent_of_not_stored hd (by decide) (by decide)] at ha
    exact ⟨ha,rfl,.inl rfl⟩
  | stored wr _ hd => exact ⟨ha,rfl,.inr rfl⟩
  | failed wr error => cases han

lemma accept_of_seen (hv : Verified X.toNostr e)
    (hse : e.id ∈ s.seenIds) : accept X io s e = (s,.ok (.ofAccepted e "duplicate" false)) := by
  have hv' : verifyEvent X.toNostr e = .ok () := hv
  simp [accept,hv',decideEvent,hse]

end

section

def creations (events : List StoredEvent) : List StoredEvent :=
  events.filter fun stored => stored.event.kind = kindNip29CreateGroup

lemma filter_place {c : StoredEvent} {p : StoredEvent → Bool} (hc : p c = false)
    (hri : ∀ t, Rivals stream t c → p t = false) (es : List StoredEvent) :
    (place stream c es).filter p = es.filter p := by
  induction es with
  | nil => simp [place,hc]
  | cons t es ih =>
    rw [place]
    split_ifs with hr
    · simp [hc,hri t hr]
    · simp [filter_cons,ih]

lemma kind_of_replacementKey {a b : Event} (hb : replacementKey b ≠ none)
    (h : replacementKey a = replacementKey b) : a.kind = b.kind := by
  unfold replacementKey at h hb
  split_ifs at h hb <;> simp_all

variable {e : Event}

lemma creations_applyEffectiveEvent {Y : EventStore.Crates} {es : List StoredEvent}
    (hs : Separated stream es) (hk : e.kind ≠ kindNip29CreateGroup) :
    creations (applyEffectiveEvent es (storedEvent Y e)).1 = creations es := by
  cases hd : isEphemeralKind e.kind with
  | true => rw [applyEffectiveEvent_of_ephemeral hd]
  | false =>
    rw [applyEffectiveEvent_fst (storedEvent Y e) hs hd]
    split_ifs
    · rfl
    · refine filter_place (decide_eq_false hk) (fun t hr => ?_) es
      rw [decide_eq_false_iff_not,kind_of_replacementKey hr.1 hr.2]
      exact hk

variable {s : Store}

lemma groupCreations_eq (h : EffectiveSet s.events) :
    groupCreations s = ((orderedEvents (creations s.events)).map StoredEvent.event).take
      defaultQueryLimit := by
  have ha : admits ⟨{ Filter.new with kinds := some [kindNip29CreateGroup] },none⟩ =
      fun st => decide (st.event.kind = kindNip29CreateGroup) := by
    funext st
    simp [admits,cursorAdmits,Filter.filtersMatch,Filter.filterMatchOne,Filter.new]
  have hf : (orderedEvents s.events).filter (fun st => decide (st.event.kind = kindNip29CreateGroup)) =
      orderedEvents (creations s.events) :=
    SortedSelection.filter_insertionSort _ (stored_antisymm h)
  unfold groupCreations
  rw [queryWithCursors_singleton h rfl]
  rw [taken,ha,hf,map_take]
  rfl

/-- A creation is shown if fewer creations than the default limit are newer. -/
def Shown (events : List StoredEvent) (create : StoredEvent) : Prop :=
  create ∈ creations events ∧
    (creations events).countP (fun t => rank create.event < rank t.event) < defaultQueryLimit

lemma mem_groupCreations (h : EffectiveSet s.events) :
    e ∈ groupCreations s ↔ ∃ cr, Shown s.events cr ∧ cr.event = e := by
  have hord : orderedEvents (creations s.events) = (orderedEvents s.events).filter
      fun st => decide (st.event.kind = kindNip29CreateGroup) :=
    (SortedSelection.filter_insertionSort _ (stored_antisymm h)).symm
  have hp : (orderedEvents (creations s.events)).Pairwise fun a b => rank b.event < rank a.event := by
    rw [hord]
    exact (pairwise_orderedEvents h).filter _
  rw [groupCreations_eq h,← map_take,mem_map]
  refine exists_congr fun cr => and_congr_left fun _ => ?_
  rw [SortedSelection.mem_take_iff_countP hp fun _ _ => lt_asymm,mem_orderedEvents,Shown,orderedEvents,
    (perm_insertionSort _ _).countP_eq]

end

section

variable {X : Crates} {R : Relay} {key : PublicKey} {build : EventBuilder → EventBody} {m m' : Moment}
  {cr : Event} {groupId name : String}

/-- The signer behind the relay key. The crate may rearrange the tags it is given, but it does
so in one way and leaves the identifier alone; what it signs verifies. -/
structure Signs (X : Crates) (key : PublicKey) (build : EventBuilder → EventBody) (m : Moment) : Prop where
  body : ∀ builder createdAt event, builder.createdAt = some createdAt → m.sign builder = .ok event →
    event.toEventBody = build builder
  verified : ∀ builder event, m.sign builder = .ok event → Verified X.toNostr event
  author : ∀ builder, (build builder).pubkey = key
  kind : ∀ builder, (build builder).kind = builder.kind
  identifier : ∀ builder, (build builder).tags.filter (fun tag => tag.name = "d") =
    builder.tags.filter fun tag => tag.name = "d"

structure WellFormedCreate (X : Crates) (create : Event) (groupId : String) : Prop where
  group : eventTagValue create "h" = some groupId
  uuid : X.parseUuid groupId ≠ none
  name : ∃ name, eventTagValue create "name" = some name ∧ isBlank name = false
  visibility : (eventTagValue create "visibility").getD "open" = "open" ∨
    (eventTagValue create "visibility").getD "open" = "private"
  channelType : (eventTagValue create "channel_type").getD "stream" = "stream" ∨
    (eventTagValue create "channel_type").getD "stream" = "forum" ∨
    (eventTagValue create "channel_type").getD "stream" = "dm"

def discoveryKinds : List ℕ := [kindNip29GroupMetadata,kindNip29GroupAdmins,kindNip29GroupMembers]

def discovery (create : Event) (groupId name : String) : List (ℕ × List Tag) :=
  [(kindNip29GroupMetadata,[⟨"d",[groupId]⟩,⟨"name",[name]⟩] ++ optionalTag create "about" ++
      [⟨if (eventTagValue create "visibility").getD "open" = "private" then "private" else "public",[]⟩,
        ⟨"closed",[]⟩,⟨"t",[(eventTagValue create "channel_type").getD "stream"]⟩] ++ optionalTag
          create "ttl"),
    (kindNip29GroupAdmins,[⟨"d",[groupId]⟩,⟨"p",[create.pubkey.toHex,"owner"]⟩]),
    (kindNip29GroupMembers,[⟨"d",[groupId]⟩,⟨"p",[create.pubkey.toHex,"","owner"]⟩])]

variable {proj : List Event}

lemma WellFormedCreate.not_blank (hf : WellFormedCreate X cr groupId)
    (hn : eventTagValue cr "name" = some name) : isBlank name = false := by
  obtain ⟨name',hn',hb⟩ := hf.name
  cases hn.symm.trans hn'
  exact hb

lemma projectGroupCreate_of_wellFormed (hk : R.relayKeys = some key)
    (hf : WellFormedCreate X cr groupId) (hn : eventTagValue cr "name" = some name) :
    projectGroupCreate X R m cr = collect (signProjection m cr) (discovery cr groupId name) := by
  simp only [projectGroupCreate,hk,requiredTag,
    hf.group,hn,okOr,hf.uuid,hf.not_blank hn,hf.visibility,hf.channelType,ne_eq,bind,Except.bind]
  rfl

lemma projectGroupCreate_eq_ok (hk : R.relayKeys = some key)
    (h : projectGroupCreate X R m cr = .ok proj) : ∃ groupId name, WellFormedCreate X cr groupId ∧
      eventTagValue cr "name" = some name ∧
      collect (signProjection m cr) (discovery cr groupId name) = .ok proj := by
  simp only [projectGroupCreate,hk,Option.isNone_some,Bool.false_eq_true,if_false,bind_eq_ok,exists_unit,
    require_eq_ok,requiredTag,okOr_eq_ok] at h
  obtain ⟨groupId,hg,hu,name,hn,hb,hv,hc,hs⟩ := h
  exact ⟨groupId,name,⟨hg,hu,⟨name,hn,hb⟩,hv,hc⟩,hn,hs⟩

lemma filter_optionalTag {tag : String} (h : tag ≠ "d") :
    (optionalTag cr tag).filter (fun t => t.name = "d") = [] := by
  unfold optionalTag
  split
  · simp [h]
  · rfl

variable {part : ℕ × List Tag}

lemma discovery_identifier (h : part ∈ discovery cr groupId name) :
    part.2.filter (fun tag => tag.name = "d") = [⟨"d",[groupId]⟩] := by
  have ha := @filter_optionalTag cr "about" (by decide)
  have ht := @filter_optionalTag cr "ttl" (by decide)
  have hs : (if (eventTagValue cr "visibility").getD "open" = "private" then "private"
      else "public") ≠ "d" := by
    split <;> decide
  simp only [discovery,mem_cons,not_mem_nil,or_false] at h
  rcases h with rfl | rfl | rfl <;> simp [ha,ht,hs]

lemma discovery_kind (h : part ∈ discovery cr groupId name) :
    part.1 = kindNip29GroupMetadata ∨ part.1 = kindNip29GroupAdmins ∨ part.1 = kindNip29GroupMembers := by
  simp only [discovery,mem_cons,not_mem_nil,or_false] at h
  rcases h with rfl | rfl | rfl <;> simp

variable {parts : List (ℕ × List Tag)}

lemma bodies_of_signed (hs : Signs X key build m) (h : collect (signProjection m cr) parts = .ok proj) :
    proj.map Event.toEventBody = parts.map (fun part => build ⟨part.1,"",part.2,some cr.createdAt⟩) ∧
      ∀ p ∈ proj, Verified X.toNostr p := by
  rw [collect_eq_ok] at h
  induction h with
  | nil => simp
  | cons hf _ ih =>
    have hp := relabelled_ok.1 hf
    simp only [map_cons,mem_cons,forall_eq_or_imp]
    exact ⟨by rw [hs.body _ _ _ rfl hp,ih.1],hs.verified _ _ hp,ih.2⟩

variable {p : Event}

/-- A discovery event is addressed by the relay key, its kind and the group. -/
lemma replacementKey_of_part (hs : Signs X key build m) (hpa : part ∈ discovery cr groupId name)
    (hp : p.toEventBody = build ⟨part.1,"",part.2,some cr.createdAt⟩) :
    replacementKey p = some (.parameterized key part.1 groupId) := by
  have ht : p.tagsNamed "d" = [⟨"d",[groupId]⟩] := by
    rw [EventBody.tagsNamed,hp,hs.identifier]
    exact discovery_identifier hpa
  have hk : p.kind = part.1 := by rw [hp,hs.kind]
  have ha : p.pubkey = key := by rw [hp,hs.author]
  have hid : identifier p = groupId := by
    rw [identifier,ht]
    rfl
  have hr : part.1 = 39000 ∨ part.1 = 39001 ∨ part.1 = 39002 := discovery_kind hpa
  rw [replacementKey,hk,ha,hid,if_neg (by omega),if_pos (by omega)]

variable {kind : ℕ}

lemma of_replacementKey {e : Event} {author : PublicKey} {id : String}
    (h : replacementKey e = some (.parameterized author kind id)) :
    e.pubkey = author ∧ e.kind = kind ∧ identifier e = id := by
  unfold replacementKey at h
  split_ifs at h
  · cases h
  · cases h
    exact ⟨rfl,rfl,rfl⟩

lemma replacementKey_of_discovery {e : Event} (hk : e.kind ∈ discoveryKinds) :
    replacementKey e = some (.parameterized e.pubkey e.kind (identifier e)) := by
  simp only [discoveryKinds,mem_cons,not_mem_nil,or_false] at hk
  change e.kind = 39000 ∨ e.kind = 39001 ∨ e.kind = 39002 at hk
  rw [replacementKey,if_neg (by omega),if_pos (by omega)]

lemma backfill_eq_ok (h : backfill X R m cr = .ok proj) (hp : p ∈ proj) :
    projectGroupCreate X R m cr = .ok proj := by
  unfold backfill at h
  split at h
  · rename_i hpr
    cases h
    exact hpr
  · cases h
    cases hp
  · cases h

lemma backfill_part (hk : R.relayKeys = some key) (hsi : Signs X key build m)
    (h : backfill X R m cr = .ok proj) (hp : p ∈ proj) :
    Verified X.toNostr p ∧ ∃ groupId name part, WellFormedCreate X cr groupId ∧
      eventTagValue cr "name" = some name ∧ part ∈ discovery cr groupId name ∧
      p.toEventBody = build ⟨part.1,"",part.2,some cr.createdAt⟩ := by
  obtain ⟨groupId,name,hf,hn,hs⟩ := projectGroupCreate_eq_ok hk (backfill_eq_ok h hp)
  obtain ⟨hb,hv⟩ := bodies_of_signed hsi hs
  have hm : p.toEventBody ∈ proj.map Event.toEventBody := mem_map_of_mem hp
  rw [hb] at hm
  obtain ⟨part,hpa,hbo⟩ := mem_map.1 hm
  exact ⟨hv p hp,groupId,name,part,hf,hn,hpa,hbo.symm⟩

lemma backfill_mem (hke : R.relayKeys = some key) (hs : Signs X key build m)
    (h : backfill X R m cr = .ok proj) (hp : p ∈ proj) :
    Verified X.toNostr p ∧ p.kind ≠ kindNip29CreateGroup := by
  obtain ⟨hv,groupId,name,part,-,-,hpa,hb⟩ := backfill_part hke hs h hp
  refine ⟨hv,?_⟩
  have hk : p.kind = part.1 := by rw [hb,hs.kind]
  rcases discovery_kind hpa with hpa | hpa | hpa <;> rw [hk,hpa] <;> decide

lemma signing_of_collect_error {error : Nip29ProjectionError}
    (h : collect (signProjection m cr) parts = .error error) : ∃ why, error = .signing why := by
  induction parts with
  | nil => cases h
  | cons part parts ih =>
    rcases bind_eq_error.1 h with hf | ⟨p,-,hr⟩
    · rw [signProjection] at hf
      cases hs : m.sign ⟨part.1,"",part.2,some cr.createdAt⟩ <;> rw [hs] at hf <;> cases hf
      exact ⟨_,rfl⟩
    · rcases bind_eq_error.1 hr with hr | ⟨ps,-,hn⟩
      · exact ih hr
      · cases hn

lemma project_of_backfill (hk : R.relayKeys = some key) (hf : WellFormedCreate X cr groupId)
    (h : backfill X R m cr = .ok proj) :
    ∃ name, eventTagValue cr "name" = some name ∧
      collect (signProjection m cr) (discovery cr groupId name) = .ok proj := by
  obtain ⟨name,hn,-⟩ := hf.name
  refine ⟨name,hn,?_⟩
  unfold backfill at h
  rw [projectGroupCreate_of_wellFormed hk hf hn] at h
  cases hs : collect (signProjection m cr) (discovery cr groupId name) with
  | ok ps =>
    rw [hs] at h
    cases h
    rfl
  | error error =>
    obtain ⟨why,rfl⟩ := signing_of_collect_error hs
    rw [hs] at h
    cases h

lemma backfill_ids (hk : R.relayKeys = some key) (hsi : Signs X key build m)
    (hsi' : Signs X key build m') {projected' : List Event}
    (h : backfill X R m cr = .ok proj) (h' : backfill X R m' cr = .ok projected')
    (hp : p ∈ projected') : ∃ q ∈ proj, q.id = p.id := by
  obtain ⟨groupId,name,hf,hn,hs'⟩ := projectGroupCreate_eq_ok hk (backfill_eq_ok h' hp)
  obtain ⟨name',hn',hs⟩ := project_of_backfill hk hf h
  cases hn.symm.trans hn'
  obtain ⟨hb,hv⟩ := bodies_of_signed hsi hs
  obtain ⟨hb',hv'⟩ := bodies_of_signed hsi' hs'
  have hm : p.toEventBody ∈ proj.map Event.toEventBody := by
    rw [hb,← hb']
    exact mem_map_of_mem hp
  obtain ⟨q,hq,hbo⟩ := mem_map.1 hm
  refine ⟨q,hq,?_⟩
  rw [← ((verified_iff X.toNostr q).1 (hv q hq)).1, ← ((verified_iff X.toNostr p).1 (hv' p hp)).1,hbo]

lemma backfill_wellFormed (hke : R.relayKeys = some key) (hs : Signs X key build m)
    (hf : WellFormedCreate X cr groupId)
    (h : backfill X R m cr = .ok proj)
    (hk : kind ∈ discoveryKinds) :
    ∃ p ∈ proj, replacementKey p = some (.parameterized key kind groupId) := by
  obtain ⟨name,-,hsi⟩ := project_of_backfill hke hf h
  obtain ⟨part,hpa,rfl⟩ := mem_map.1 (show kind ∈ (discovery cr groupId name).map Prod.fst from hk)
  have hm := mem_map_of_mem (f := fun part => build ⟨part.1,"",part.2,some cr.createdAt⟩) hpa
  rw [← (bodies_of_signed hs hsi).1] at hm
  obtain ⟨p,hp,hb⟩ := mem_map.1 hm
  exact ⟨p,hp,replacementKey_of_part hs hpa hb⟩

end

section

variable {X : Crates} {R : Relay} {key : PublicKey} {build : EventBuilder → EventBody} {m m' : Moment}
  {pool : List Event} {s after : Store}

/-- The events were submitted, none of them a creation, and nothing else was. -/
structure Published (X : Crates) (pool : List Event) (s : Store) (events : List Event) (after : Store) :
    Prop where
  holding : Holding X.toCrates pool after.events after.seenIds
  remembered : s.seenIds ⊆ after.seenIds
  seen : ∀ p ∈ events, p.id ∈ after.seenIds
  origin : ∀ t ∈ after.events, t ∈ s.events ∨ t.event ∈ events
  creations : creations after.events = creations s.events

lemma Published.append {es more : List Event} {next : Store} (h : Published X pool s es next)
    (h' : Published X pool next more after) : Published X pool s (es ++ more) after := by
  refine ⟨h'.holding,h.remembered.trans h'.remembered,?_,?_,h'.creations.trans h.creations⟩
  · intro p hp
    rcases mem_append.1 hp with hp | hp
    · exact h'.remembered (h.seen p hp)
    · exact h'.seen p hp
  · intro t ht
    rw [mem_append,← or_assoc]
    exact (h'.origin t ht).imp_left (h.origin t)

lemma mem_applyEffectiveEvent {Y : EventStore.Crates} {es : List StoredEvent} {e : Event} {t : StoredEvent}
    (hs : Separated stream es) (ht : t ∈ (applyEffectiveEvent es (storedEvent Y e)).1) :
    t ∈ es ∨ t.event = e := by
  cases hd : isEphemeralKind e.kind with
  | true =>
    rw [applyEffectiveEvent_of_ephemeral hd] at ht
    exact .inl ht
  | false =>
    rw [applyEffectiveEvent_fst (storedEvent Y e) hs hd] at ht
    split_ifs at ht
    · exact .inl ht
    · exact (mem_or_eq_of_mem_place ht).imp_right fun heq => by rw [heq]; rfl

variable {p : Event}

lemma accept_published {io : AppendOutcome} {res : WriteResult}
    (ha : accept X.toCrates io s p = (after,.ok res)) (hc : NoCollision X.toNostr pool)
    (h : Holding X.toCrates pool s.events s.seenIds) (hp : p ∈ pool) (hv : Verified X.toNostr p)
    (hk : p.kind ≠ kindNip29CreateGroup) : Published X pool s [p] after := by
  obtain ⟨hh,hse,he⟩ := accept_holding ha hc h hp hv
  refine ⟨hh,?_,?_,?_,?_⟩
  · rw [hse]
    exact Finset.subset_insert _ _
  · intro q hq
    rw [hse,mem_singleton.1 hq]
    exact Finset.mem_insert_self _ _
  · intro t ht
    rcases he with he | he <;> rw [he] at ht
    · exact .inl ht
    · exact (mem_applyEffectiveEvent h.separated ht).imp_right mem_singleton.2
  · rcases he with he | he <;> rw [he]
    exact creations_applyEffectiveEvent h.separated hk

variable {projected : List Event}

lemma publishProjectedEvents_published {live : List Event}
    (hrun : publishProjectedEvents X m s projected = (after,.ok (),live)) (hc : NoCollision X.toNostr pool)
    (h : Holding X.toCrates pool s.events s.seenIds)
    (hpr : ∀ p ∈ projected, p ∈ pool ∧ Verified X.toNostr p ∧ p.kind ≠ kindNip29CreateGroup) :
    Published X pool s projected after := by
  induction projected generalizing s live with
  | nil =>
    cases hrun
    exact ⟨h,fun _ hi => hi,by simp,fun _ ht => .inl ht,rfl⟩
  | cons p rest ih =>
    obtain ⟨hp,hv,hk⟩ := hpr p mem_cons_self
    rw [publishProjectedEvents] at hrun
    cases ha : accept X.toCrates (m.append p) s p with
    | mk next ans =>
      rw [ha] at hrun
      cases ans with
      | error e => cases hrun
      | ok res =>
        have hf := accept_published ha hc h hp hv hk
        cases hr : publishProjectedEvents X m next rest with
        | mk last out =>
          simp only [hr,Prod.mk.injEq] at hrun
          obtain ⟨rfl,ho,-⟩ := hrun
          exact hf.append (ih (hr.trans (by rw [← ho])) hf.holding
            fun q hq => hpr q (mem_cons_of_mem _ hq))

variable {crs : List Event}

lemma materializeAll_cons {cr : Event} (h : materializeAll X R m s (cr :: crs) = .ok after) :
    ∃ projected next live, backfill X R m cr = .ok projected ∧
      publishProjectedEvents X m s projected = (next,.ok (),live) ∧
        materializeAll X R m next crs = .ok after := by
  rw [materializeAll] at h
  split at h
  · cases h
  · rename_i projected hb
    split at h
    · cases h
    · rename_i next live hp
      exact ⟨projected,next,live,hb,hp,h⟩

/-- A start that succeeds has submitted what it derived from each creation it found. -/
lemma materializeAll_published (hk : R.relayKeys = some key) (hs : Signs X key build m)
    (hrun : materializeAll X R m s crs = .ok after)
    (hco : NoCollision X.toNostr pool) (h : Holding X.toCrates pool s.events s.seenIds)
    (hpo : ∀ p ∈ crs.flatMap (fun cr => ((backfill X R m cr).toOption).getD []), p ∈ pool) :
    ∃ es, Published X pool s es after ∧
      (∀ cr ∈ crs, ∃ projected, backfill X R m cr = .ok projected ∧ ∀ p ∈ projected, p ∈ es) ∧
      ∀ p ∈ es, ∃ cr ∈ crs, ∃ projected, backfill X R m cr = .ok projected ∧ p ∈ projected := by
  induction crs generalizing s with
  | nil =>
    cases hrun
    exact ⟨[],⟨h,fun _ hi => hi,by simp,fun _ ht => .inl ht,rfl⟩,by simp⟩
  | cons cr rest ih =>
    obtain ⟨projected,next,live,hb,hpu,hrun⟩ := materializeAll_cons hrun
    rw [flatMap_cons,hb] at hpo
    have hf := publishProjectedEvents_published hpu hco h fun p hp =>
      ⟨hpo p (mem_append_left _ hp),backfill_mem hk hs hb hp⟩
    obtain ⟨es,he,hm,hfrom⟩ := ih hrun hf.holding fun p hp => hpo p (mem_append_right _ hp)
    refine ⟨projected ++ es,hf.append he,?_,?_⟩
    · intro c hc
      rcases mem_cons.1 hc with rfl | hc
      · exact ⟨projected,hb,fun p hp => mem_append_left _ hp⟩
      · obtain ⟨ps,hps,hsu⟩ := hm c hc
        exact ⟨ps,hps,fun p hp => mem_append_right _ (hsu p hp)⟩
    · intro p hp
      rcases mem_append.1 hp with hp | hp
      · exact ⟨cr,mem_cons_self,projected,hb,hp⟩
      · obtain ⟨c,hc,hps⟩ := hfrom p hp
        exact ⟨c,mem_cons_of_mem _ hc,hps⟩

lemma publishProjectedEvents_of_seen (h : ∀ p ∈ projected, Verified X.toNostr p ∧ p.id ∈ s.seenIds) :
    publishProjectedEvents X m s projected = (s,.ok (),[]) := by
  induction projected with
  | nil => rfl
  | cons p rest ih =>
    obtain ⟨hv,hse⟩ := h p mem_cons_self
    rw [publishProjectedEvents,accept_of_seen hv hse]
    simp [ih fun q hq => h q (mem_cons_of_mem _ hq),WriteResult.ofAccepted]

lemma materializeAll_of_seen (hrun : materializeAll X R m s crs = .ok after)
    (h : ∀ create ∈ crs, ∀ projected, backfill X R m create = .ok projected →
      ∀ p ∈ projected, Verified X.toNostr p ∧ p.id ∈ s.seenIds) : after = s := by
  induction crs with
  | nil =>
    cases hrun
    rfl
  | cons create rest ih =>
    obtain ⟨projected,next,live,hb,hpu,hrun⟩ := materializeAll_cons hrun
    rw [publishProjectedEvents_of_seen (h create mem_cons_self projected hb)] at hpu
    cases hpu
    exact ih hrun fun c hc => h c (mem_cons_of_mem _ hc)

/-- The relay's own event of the kind for the group is effective. -/
def Discovers (R : Relay) (events : List StoredEvent) (kind : ℕ) (groupId : String) : Prop :=
  ∃ t ∈ events, R.relayKeys = some t.event.pubkey ∧ t.event.kind = kind ∧ identifier t.event = groupId

/-- An event under the address is there, or a newer one under the address is. -/
lemma Holding.discovers {es : List StoredEvent} {seen : Finset EventId} {kind : ℕ} {groupId : String}
    (h : Holding X.toCrates pool es seen) (hkeys : R.relayKeys = some key) (hc : NoCollision X.toNostr pool)
    (hp : p ∈ pool) (hv : Verified X.toNostr p) (hid : p.id ∈ seen)
    (ha : replacementKey p = some (.parameterized key kind groupId)) : Discovers R es kind groupId := by
  have hd : isEphemeralKind p.kind = false := by
    unfold replacementKey at ha
    split_ifs at ha with hre hpa
    · cases ha
    · simp only [isEphemeralKind,Bool.and_eq_false_iff,decide_eq_false_iff_not]
      omega
  obtain ⟨t,ht,hs⟩ := h.covered_of_seen hc hp ⟨hv,hd⟩ hid
  have hkey : replacementKey t.event = some (.parameterized key kind groupId) := by
    rw [← ha]
    rcases hs with hsa | ⟨hr,-⟩
    · exact (consistent_pool hc).key_eq t (storedEvent X.toCrates p) (h.known t ht) ⟨hp,hv⟩ hsa
    · exact hr.2
  obtain ⟨hpk,hki,hi⟩ := of_replacementKey hkey
  exact ⟨t,ht,by rw [hpk,hkeys],hki,hi⟩

/-- After a start that succeeds a group has its discovery events just if the relay has a key and the query
shows a creation of the group, or it had them before; and the next start appends nothing. -/
theorem discovery_complete_at_startup (hsign : ∀ key ∈ R.relayKeys, Signs X key build m)
    {file : Option ByteArray} (hopen : openStore X.toCrates (.durable file) = .ok s)
    (hcol : NoCollision X.toNostr (s.journal ++ materialized X R m s))
    (hrun : materializeExistingNip29State X R m s = .ok after) :
    ((∀ create ∈ after.events, create.event.kind = kindNip29CreateGroup →
      ∀ groupId, WellFormedCreate X create.event groupId →
        ∀ kind ∈ discoveryKinds, Discovers R after.events kind groupId) ↔
      ∀ create ∈ s.events, create.event.kind = kindNip29CreateGroup →
        ∀ groupId, WellFormedCreate X create.event groupId →
          (R.relayKeys ≠ none ∧ ∃ shown, Shown s.events shown ∧ WellFormedCreate X shown.event groupId) ∨
            ∀ kind ∈ discoveryKinds, Discovers R s.events kind groupId) ∧
    ∀ m', (∀ key ∈ R.relayKeys, Signs X key build m') →
      ∀ again, materializeExistingNip29State X R m' after = .ok again → again = after := by
  obtain hnone | ⟨key,hkeys⟩ := R.relayKeys.eq_none_or_eq_some
  · have hr (m : Moment) (s : Store) : materializeExistingNip29State X R m s = .ok s := by
      rw [materializeExistingNip29State,hnone]
      rfl
    cases (hr m s).symm.trans hrun
    refine ⟨?_,fun m' _ again hag => Except.ok.inj (hag.symm.trans (hr m' s))⟩
    simp [hnone]
  have hr : ¬R.relayKeys.isNone = true := by simp [hkeys]
  have hsi := hsign key hkeys
  have hh := openStore_holding hopen hcol fun e he => mem_append_left _ he
  simp only [materializeExistingNip29State,if_neg hr] at hrun ⊢
  simp only [materialized,if_neg hr] at hcol hh
  obtain ⟨events,hpu,hm,hfrom⟩ := materializeAll_published hkeys hsi hrun hcol hh
    fun p hp => mem_append_right _ hp
  have hk := hpu.holding
  have hsame (create : StoredEvent) : create ∈ after.events ∧ create.event.kind = kindNip29CreateGroup ↔
      create ∈ s.events ∧ create.event.kind = kindNip29CreateGroup := by
    have hc := congrArg (create ∈ ·) hpu.creations
    simpa only [creations,mem_filter,decide_eq_true_eq,eq_iff_iff] using hc
  refine ⟨⟨?_,?_⟩,?_⟩
  · intro hall create hc hki groupId hfo
    by_cases hsh : ∃ shown, Shown s.events shown ∧ WellFormedCreate X shown.event groupId
    · exact .inl ⟨by simp [hkeys],hsh⟩
    · -- nothing was derived for the group, so what is there was there before
      refine .inr fun kind hd => ?_
      obtain ⟨hc,hki⟩ := (hsame create).2 ⟨hc,hki⟩
      obtain ⟨t,ht,hpk,hkt,hid⟩ := hall create hc hki groupId hfo kind hd
      obtain ht | ht := hpu.origin t ht
      · exact ⟨t,ht,hpk,hkt,hid⟩
      · obtain ⟨made,hmade,projected,hb,hp⟩ := hfrom t.event ht
        obtain ⟨-,groupId',name,part,hfo',-,hpa,hbo⟩ := backfill_part hkeys hsi hb hp
        obtain ⟨-,-,hid'⟩ := of_replacementKey (replacementKey_of_part hsi hpa hbo)
        obtain ⟨shown,hshown,rfl⟩ := (mem_groupCreations hh.effective).1 hmade
        exact absurd ⟨shown,hshown,by rwa [← hid,hid']⟩ hsh
  · intro hall create hc hki groupId hfo kind hd
    obtain ⟨hc,hki⟩ := (hsame create).1 ⟨hc,hki⟩
    obtain ⟨-,shown,hshown,hfo⟩ | hbefore := hall create hc hki groupId hfo
    · have hf := (mem_groupCreations hh.effective).2 ⟨shown,hshown,rfl⟩
      obtain ⟨projected,hb,hs⟩ := hm _ hf
      obtain ⟨p,hp,hkey⟩ := backfill_wellFormed hkeys hsi hfo hb hd
      refine hk.discovers hkeys hcol (mem_append_right _ (mem_flatMap.2 ⟨_,hf,?_⟩))
        (backfill_mem hkeys hsi hb hp).1
        (hpu.seen p (hs p hp)) hkey
      rw [hb]
      exact hp
    · obtain ⟨t,ht,hpk,rfl,rfl⟩ := hbefore kind hd
      cases hkeys.symm.trans hpk
      exact hk.discovers hkeys hcol (hh.known t ht).1 (hh.known t ht).2 (hpu.remembered (hh.listed t ht))
        (replacementKey_of_discovery hd)
  · intro m' hsign' again hag
    refine materializeAll_of_seen hag fun create hc projected' hb' p hp => ?_
    rw [groupCreations_eq hk.effective,hpu.creations,← groupCreations_eq hh.effective] at hc
    obtain ⟨projected,hb,hs⟩ := hm create hc
    obtain ⟨q,hq,hid⟩ := backfill_ids hkeys hsi (hsign' key hkeys) hb hb' hp
    refine ⟨(backfill_mem hkeys (hsign' key hkeys) hb' hp).1,?_⟩
    rw [← hid]
    exact hpu.seen q (hs q hq)

end

section

def groupAuthor : PublicKey := .ofNat 32 1
def relayAuthor : PublicKey := .ofNat 32 2

/-- Ids by the time and the kind, which are all that the events below differ in. -/
def bodyId (body : EventBody) : EventId := .ofNat 32 (4*body.createdAt+(body.kind-38999))

def signedAs (body : EventBody) : Event := { body with id := bodyId body, sig := .ofNat 64 0 }

def teamId : String := (FixedBytes.ofNat 16 7).toHex

/-- The creation of a group, followed by creations without the tags of one. -/
def teamCreate (n : ℕ) : Event := signedAs
  { pubkey := groupAuthor
    createdAt := n
    kind := 9007
    tags := if n = 0 then [⟨"h",[teamId]⟩,⟨"name",["team"]⟩] else []
    content := "" }

def groupJournal (count : ℕ) : List Event := (range count).map teamCreate

def groupCrates (count : ℕ) : Crates where
  eventIdNew := bodyId
  verifySignature := fun _ => true
  toVec := (signedOnly (groupJournal count) (FixedBytes.fromHex 16)).toVec
  fromStr := (signedOnly (groupJournal count) (FixedBytes.fromHex 16)).fromStr
  parseUuid := FixedBytes.fromHex 16
  parseJson := fun _ => none
  jsonText := fun _ => ""
  uuidError := fun _ => "invalid length"
  debugText := id

def groupLog (count : ℕ) : ByteArray :=
  (logText (groupCrates count).toCrates (groupJournal count)).toByteArray

def groupRelay : Relay := ⟨none,none,some relayAuthor⟩

def relayBody (builder : EventBuilder) : EventBody where
  pubkey := relayAuthor
  createdAt := builder.createdAt.getD 0
  kind := builder.kind
  tags := builder.tags
  content := builder.content

lemma relaySign_kind (builder : EventBuilder) (e : Event)
    (h : Except.ok (ε := String) (signedAs (relayBody builder)) = .ok e) : e.kind = builder.kind := by
  cases h
  rfl

def relayMoment : Moment where
  now := 0
  sign := fun builder => .ok (signedAs (relayBody builder))
  append := fun _ => .synced
  sessions := (0,[])
  sign_kind := relaySign_kind

variable {cnt : ℕ}

lemma verified_signedAs (body : EventBody) : Verified (groupCrates cnt).toNostr (signedAs body) :=
  (verified_iff _ _).2 ⟨rfl,rfl⟩

lemma signs_relayMoment : Signs (groupCrates cnt) relayAuthor relayBody relayMoment := by
  refine ⟨?_,?_,fun _ => rfl,fun _ => rfl,fun _ => rfl⟩
  · rintro builder createdAt e - h
    cases h
    rfl
  · intro builder e h
    cases h
    exact verified_signedAs _

lemma wellFormed_team : WellFormedCreate (groupCrates cnt) (teamCreate 0) teamId := by
  refine ⟨rfl,?_,⟨"team",rfl,by decide⟩,.inl rfl,.inl rfl⟩
  show FixedBytes.fromHex 16 teamId ≠ none
  rw [teamId,FixedBytes.fromHex_toHex]
  simp

lemma mem_groupJournal {e : Event} : e ∈ groupJournal cnt ↔ ∃ n < cnt, teamCreate n = e := by
  simp [groupJournal]

/-- The time tells the creations apart. -/
lemma noCollision_groupJournal (hc : cnt ≤ 501) :
    NoCollision (groupCrates cnt).toNostr (groupJournal cnt) := by
  intro a ha b hb hid
  obtain ⟨n,hn,rfl⟩ := mem_groupJournal.1 ha
  obtain ⟨k,hk,rfl⟩ := mem_groupJournal.1 hb
  have hnu := FixedBytes.ofNat_inj_of_lt (by omega) (by omega)
    (show FixedBytes.ofNat 32 (4*n+(9007-38999)) = .ofNat 32 (4*k+(9007-38999)) from hid)
  rw [show n = k by omega]

lemma verified_groupJournal : ∀ e ∈ groupJournal cnt, Verified (groupCrates cnt).toNostr e := by
  intro e he
  obtain ⟨n,-,rfl⟩ := mem_groupJournal.1 he
  exact verified_signedAs _

lemma roundTrips_groupJournal : ∀ e ∈ groupJournal cnt, RoundTrips (groupCrates cnt).toCrates e :=
  fun e he => @roundTrips_signedOnly _ (FixedBytes.fromHex 16) e he

lemma openStore_groups (hco : cnt ≤ 501) : ∃ s,
    openStore (groupCrates cnt).toCrates (.durable (some (groupLog cnt))) = .ok s ∧
    s.journal = groupJournal cnt ∧ EffectiveSet s.events ∧
    ∀ e, (∃ t ∈ s.events, t.event = e) ↔ e ∈ groupJournal cnt := by
  obtain ⟨seen,ho,hse⟩ := openStore_logText (groupJournal cnt) verified_groupJournal roundTrips_groupJournal
  have hc := noCollision_groupJournal hco
  have hh := openStore_holding ho hc fun _ he => he
  refine ⟨_,ho,rfl,hh.effective,fun e => ⟨?_,fun he => ?_⟩⟩
  · rintro ⟨t,ht,rfl⟩
    exact (hh.known t ht).1
  · have hd : isEphemeralKind e.kind = false := by
      obtain ⟨n,-,rfl⟩ := mem_groupJournal.1 he
      rfl
    obtain ⟨t,ht,hs⟩ := hh.covered_of_seen hc he ⟨verified_groupJournal e he,hd⟩
      ((hse _).2 ⟨e,he,rfl⟩)
    refine ⟨t,ht,?_⟩
    obtain ⟨hp,hv⟩ := hh.known t ht
    obtain ⟨n,-,rfl⟩ := mem_groupJournal.1 he
    obtain ⟨k,-,hk⟩ := mem_groupJournal.1 hp
    rcases hs with hsa | ⟨hr,-⟩
    · have hb := body_eq_of_id_eq hc hp he hv (verified_groupJournal _ he) hsa
      have hti := congrArg EventBody.createdAt hb
      rw [← hk] at hti ⊢
      rw [show k = n from hti]
    · exact absurd rfl hr.1

def teamStore : Store :=
  ⟨effectiveOf (groupCrates 1).toCrates (groupJournal 1),groupJournal 1,{(teamCreate 0).id},some (groupLog 1)⟩

lemma openStore_team : openStore (groupCrates 1).toCrates (.durable (some (groupLog 1))) = .ok teamStore := by
  obtain ⟨seen,ho,hse⟩ := openStore_logText (groupJournal 1) verified_groupJournal
    (@roundTrips_groupJournal 1)
  have hon : seen = {(teamCreate 0).id} := by
    ext i
    simp [hse,groupJournal,eq_comm]
  rw [hon] at ho
  exact ho

lemma ordered_groups {es : List StoredEvent} (h : EffectiveSet es)
    (hm : ∀ e, (∃ t ∈ es, t.event = e) ↔ e ∈ groupJournal cnt) :
    (orderedEvents (creations es)).map StoredEvent.event = (range cnt).reverse.map teamCreate := by
  have ha : creations es = es := by
    refine filter_eq_self.2 fun t ht => ?_
    obtain ⟨n,-,hn⟩ := mem_groupJournal.1 ((hm t.event).1 ⟨t,ht,rfl⟩)
    rw [← hn]
    rfl
  have hs : ((orderedEvents es).map StoredEvent.event).Pairwise fun a b => rank b < rank a :=
    pairwise_map.2 (pairwise_orderedEvents h)
  have hnu : ((range cnt).reverse.map teamCreate).Pairwise fun a b => rank b < rank a := by
    rw [pairwise_map,pairwise_reverse]
    exact pairwise_lt_range.imp fun hlt => Prod.Lex.toLex_lt_toLex.2 (.inl hlt)
  have hne : ∀ {a b : Event}, rank b < rank a → a ≠ b := fun hlt heq => absurd (heq ▸ hlt) (lt_irrefl _)
  rw [ha]
  refine SortedSelection.eq_of_mem_iff ?_ hs hnu (hs.imp hne) (hnu.imp hne) ?_
  · intro a _ b _ hab hba
    exact absurd hab (lt_asymm hba)
  · intro e
    simp only [mem_map,mem_orderedEvents,mem_reverse,mem_range]
    exact (hm e).trans mem_groupJournal

lemma backfill_untagged {cr : Event} (h : ∃ n, teamCreate (n+1) = cr) :
    backfill (groupCrates cnt) groupRelay relayMoment cr = .ok [] := by
  obtain ⟨n,rfl⟩ := h
  rfl

lemma materializeAll_untagged {creates : List Event} (h : ∀ create ∈ creates, ∃ n, teamCreate (n+1) = create)
    (s : Store) : materializeAll (groupCrates cnt) groupRelay relayMoment s creates = .ok s := by
  induction creates with
  | nil => rfl
  | cons create rest ih =>
    rw [materializeAll,backfill_untagged (h create mem_cons_self)]
    exact ih fun c hc => h c (mem_cons_of_mem _ hc)

end

/-- One group: the start gives it its discovery events, and a second start finds nothing to do. -/
theorem discovery_complete_at_startup_team : ∃ s after,
    openStore (groupCrates 1).toCrates (.durable (some (groupLog 1))) = .ok s ∧
    materializeExistingNip29State (groupCrates 1) groupRelay relayMoment s = .ok after ∧
    Discovers groupRelay after.events kindNip29GroupMetadata teamId ∧
    ∀ again, materializeExistingNip29State (groupCrates 1) groupRelay relayMoment after = .ok again →
      again = after := by
  have hs : let pool := teamStore.journal ++ materialized (groupCrates 1) groupRelay relayMoment teamStore
      (pool.all fun a => pool.all fun b => a.toEventBody = b.toEventBody ∨
        bodyId a.toEventBody ≠ bodyId b.toEventBody) = true ∧
        (creations teamStore.events).map StoredEvent.event = [teamCreate 0] ∧
        (materializeExistingNip29State (groupCrates 1) groupRelay relayMoment teamStore).toOption.any
          (fun after =>
          after.events.any fun t => t.event = teamCreate 0) = true := by
    decide +kernel
  obtain ⟨hco,hl,haf⟩ := hs
  simp only [all_eq_true,decide_eq_true_eq] at hco
  obtain ⟨after,hrun,ht⟩ := Option.any_eq_true .. |>.1 haf
  obtain ⟨create,hcr,he⟩ := any_eq_true.1 ht
  have he : create.event = teamCreate 0 := of_decide_eq_true he
  rw [toOption_eq_some] at hrun
  have hsi : ∀ key ∈ groupRelay.relayKeys, Signs (groupCrates 1) key relayBody relayMoment := by
    rintro key hk
    cases hk
    exact signs_relayMoment
  obtain ⟨hc,hag⟩ := discovery_complete_at_startup hsi openStore_team
    (fun a ha b hb hid => (hco a ha b hb).resolve_right (not_not_intro hid)) hrun
  refine ⟨teamStore,after,openStore_team,hrun,?_,hag _ hsi⟩
  refine hc.2 (fun c hcs hk g hw => .inl ⟨nofun,c,⟨?_,?_⟩,hw⟩) create hcr (by rw [he]; rfl) teamId
    (by rw [he]; exact wellFormed_team) kindNip29GroupMetadata (by simp [discoveryKinds])
  · exact mem_filter.2 ⟨hcs,decide_eq_true hk⟩
  · have hle := countP_le_length (p := fun t => decide (rank c.event < rank t.event))
      (l := creations teamStore.events)
    have hone : (creations teamStore.events).length = 1 := by simpa using congrArg length hl
    exact hle.trans_lt (by rw [hone]; decide)

/-- With one creation more than the query shows, the oldest group has no discovery events after
a start that succeeded. -/
theorem oldest_group_undiscovered : ∃ s after,
    openStore (groupCrates 501).toCrates (.durable (some (groupLog 501))) = .ok s ∧
    NoCollision (groupCrates 501).toNostr
      (s.journal ++ materialized (groupCrates 501) groupRelay relayMoment s) ∧
    Signs (groupCrates 501) relayAuthor relayBody relayMoment ∧ groupRelay.relayKeys = some relayAuthor ∧
    materializeExistingNip29State (groupCrates 501) groupRelay relayMoment s = .ok after ∧
    (∃ create ∈ after.events, create.event.kind = kindNip29CreateGroup ∧
      WellFormedCreate (groupCrates 501) create.event teamId) ∧
    ¬∃ t ∈ after.events, t.event.pubkey = relayAuthor := by
  obtain ⟨s,ho,hjournal,he,hm⟩ := @openStore_groups 501 le_rfl
  have hf : ∀ create ∈ groupCreations s, ∃ n, teamCreate (n+1) = create := by
    intro create hc
    rw [groupCreations_eq he,ordered_groups he hm,mem_take_iff_getElem] at hc
    obtain ⟨i,hi,rfl⟩ := hc
    have hnu : 501-1-i = 499-i+1 := by
      simp only [defaultQueryLimit] at hi
      omega
    refine ⟨499-i,?_⟩
    simp only [getElem_map,getElem_reverse,getElem_range,length_range,hnu]
  have hno : materialized (groupCrates 501) groupRelay relayMoment s = [] := by
    refine flatMap_eq_nil_iff.2 fun create hc => ?_
    rw [backfill_untagged (hf create hc)]
    rfl
  refine ⟨s,s,ho,?_,signs_relayMoment,rfl,materializeAll_untagged hf s,?_,?_⟩
  · rw [hno,append_nil,hjournal]
    exact noCollision_groupJournal le_rfl
  · obtain ⟨create,hc,hev⟩ := (hm (teamCreate 0)).2 (mem_groupJournal.2 ⟨0,by decide,rfl⟩)
    refine ⟨create,hc,?_⟩
    rw [hev]
    exact ⟨rfl,wellFormed_team⟩
  · rintro ⟨t,ht,ha⟩
    obtain ⟨n,-,hn⟩ := mem_groupJournal.1 ((hm t.event).1 ⟨t,ht,rfl⟩)
    rw [← hn] at ha
    exact absurd (show groupAuthor = relayAuthor from ha) (by decide +kernel)

end BuzzSolo.LocalRelay
