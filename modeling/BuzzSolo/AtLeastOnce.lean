import BuzzSolo.LocalRelay
import BuzzSolo.Replication
import BuzzSolo.QueryVisibility

/-! Replication at least once. A source sends pages of its journal again and again to a destination
that may fail to append and may be restarted; the destination holds the winners of its own events
and those it was sent. -/
namespace BuzzSolo.LocalRelay

open Ingest EventStore LatestRegister List Except
open Replication (ReplicationRecord ReplicationReceipt ReplicationIngestOutcome ReplicationBatch
  LocalReplicationSource exports readBatch localReplicationCursor)

def kindAuth : ℕ := 22242
def kindHttpAuth : ℕ := 27235

/-- Admits or denies one source and event before the destination is touched. -/
abbrev ReplicationPolicy := String → Event → Except String Unit

def sourceAllowlist (sources : List String) : ReplicationPolicy := fun source _ =>
  if sources.contains source then .ok () else .error ("replication source denied: " ++ source)

inductive ReplicationSinkError
  | submit (error : SubmitError)
  | unexpectedAcceptedOutcome (message : String)

def ingestOutcome (result : WriteResult) : Except ReplicationSinkError ReplicationIngestOutcome :=
  if result.accepted = false then .ok (.rejected result.message)
  else if result.message = "stored" then .ok .stored
  else if result.message = "duplicate" then .ok .duplicate
  else if result.message = "superseded" then .ok .superseded
  else .error (.unexpectedAcceptedOutcome result.message)

def receiptFor (record : ReplicationRecord) (outcome : ReplicationIngestOutcome) : ReplicationReceipt :=
  ⟨record.source,record.cursor,record.event.id.toHex,outcome⟩

def ingestReplication (X : Crates) (R : Relay) (policy : ReplicationPolicy) (m : Moment) (s : State)
    (record : ReplicationRecord) : State × Except ReplicationSinkError ReplicationReceipt :=
  match policy record.source record.event with
  | .error reason => (s,.ok (receiptFor record (.rejected reason)))
  | .ok () =>
    if isEphemeralKind record.event.kind then
      (s,.ok (receiptFor record (.rejected "ephemeral events are not part of durable replication")))
    else if record.event.kind = kindAuth ∨ record.event.kind = kindHttpAuth then
      (s,.ok (receiptFor record (.rejected "authentication events are never journaled")))
    else
      let submitted := submitFrom X R m s record.event none
      match submitted.2.result with
      | .error e => (submitted.1,.error (.submit e))
      | .ok result => (submitted.1,(ingestOutcome result).map (receiptFor record))

def groupCreations (store : Store) : List Event :=
  match Query.queryWithCursors store.events
    [⟨{ Filter.new with kinds := some [kindNip29CreateGroup] },none⟩] with
  | .ok creates => creates
  | .error _ => []

/-- The discovery events of one historical creation; a malformed one is skipped. -/
def backfill (X : Crates) (R : Relay) (m : Moment) (create : Event) : Except SubmitError (List Event) :=
  match projectGroupCreate X R m create with
  | .ok projected => .ok projected
  | .error (.invalidCommand _) => .ok []
  | .error (.signing reason) => .error (.materialization reason)

def materializeAll (X : Crates) (R : Relay) (m : Moment) (store : Store) :
    List Event → Except SubmitError Store
  | [] => .ok store
  | create :: rest =>
    match backfill X R m create with
    | .error e => .error e
    | .ok projected =>
      match publishProjectedEvents X m store projected with
      | (_,.error e,_) => .error (.store e)
      | (store,.ok (),_) => materializeAll X R m store rest

def materializeExistingNip29State (X : Crates) (R : Relay) (m : Moment) (store : Store) :
    Except SubmitError Store :=
  if R.relayKeys.isNone then .ok store else materializeAll X R m store (groupCreations store)

def materialized (X : Crates) (R : Relay) (m : Moment) (store : Store) : List Event :=
  if R.relayKeys.isNone then []
  else (groupCreations store).flatMap fun create => ((backfill X R m create).toOption).getD []

def reopened (X : EventStore.Crates) (store : Store) : Except StoreError Store :=
  match store.writer with
  | none => openStore X .ephemeral
  | some file => openStore X (.durable (some file))

/-- The destination, with the receipts it gave, the events it gave them for, and the discovery
events its restarts submitted. -/
structure Delivery where
  state : State
  receipts : List ReplicationReceipt
  delivered : List Event
  materialized : List Event

inductive DeliveryStep
  /-- Read a page from the checkpoint and deliver its first records. -/
  | send (checkpoint limit count : ℕ) (moment : ℕ → Moment)
  | restart (moment : Moment)

variable (X : Crates) (R : Relay) (policy : ReplicationPolicy)

/-- Records one by one, as far as there is a receipt; `i` counts them. -/
def ingestAll (moment : ℕ → Moment) : ℕ → Delivery → List ReplicationRecord → Delivery
  | _, d, [] => d
  | i, d, record :: rest =>
    match ingestReplication X R policy (moment i) d.state record with
    | (s,.error _) => { d with state := s }
    | (s,.ok receipt) => ingestAll moment (i+1)
        { d with
          state := s
          receipts := d.receipts ++ [receipt]
          delivered := d.delivered ++ [record.event] } rest

def restart (m : Moment) (d : Delivery) : Except SubmitError Delivery :=
  match reopened X.toCrates d.state.store with
  | .error e => .error (.store e)
  | .ok store =>
    match materializeExistingNip29State X R m store with
    | .error e => .error e
    | .ok after => .ok { d with
        state := ⟨after,[]⟩
        materialized := d.materialized ++ materialized X R m store }

/-- The records of the page that are sent; an unusable cursor sends nothing. -/
def pageFrom (L : LocalReplicationSource) (journal : List Event) (checkpoint limit count : ℕ) :
    List ReplicationRecord :=
  match readBatch X.toCrates L journal (some (localReplicationCursor checkpoint)) limit with
  | .error _ => []
  | .ok batch => batch.records.take count

def deliverStep (L : LocalReplicationSource) (journal : List Event) (d : Delivery) :
    DeliveryStep → Except SubmitError Delivery
  | .send checkpoint limit count moment =>
    .ok (ingestAll X R policy moment 0 d (pageFrom X L journal checkpoint limit count))
  | .restart m => restart X R m d

def deliverAll (L : LocalReplicationSource) (journal : List Event) :
    Delivery → List DeliveryStep → Except SubmitError Delivery
  | d, [] => .ok d
  | d, step :: steps =>
    match deliverStep X R policy L journal d step with
    | .error e => .error e
    | .ok d => deliverAll L journal d steps

/-- A failed append of a delivery leaves no part of its record in the log. -/
def DeliveryStep.Clean : DeliveryStep → Prop
  | .send _ _ _ moment => ∀ i event landed, (moment i).append event = .failed landed → landed = 0
  | .restart _ => True

def DeliveryStep.isRestart : DeliveryStep → Bool
  | .send _ _ _ _ => false
  | .restart _ => true

variable {X R policy}

section

variable {Y : EventStore.Crates} {io : AppendOutcome} {s : Store} {e : Event}

lemma accept_of_ok {w : WriteResult} (h : (accept Y io s e).2 = .ok w) :
    accept Y io s e = accept Y .synced s e := by
  cases io with
  | synced => rfl
  | failed ld =>
    cases hv : verifyEvent Y.toNostr e with
    | error why => simp [accept,hv]
    | ok u =>
      cases hd : decideEvent s.events (e.id ∈ s.seenIds) e with
      | duplicate | ephemeral | superseded => simp [accept,hd]
      | stored =>
        cases hw : s.writer with
        | none => simp [accept,hw]
        | some file => cases hto : Y.toVec e <;> simp [accept,hv,hd,hw,hto] at h ⊢

/-- A failed append that left nothing behind left everything as it was. -/
lemma accept_of_error {err : StoreError} (hc : ∀ ld, io = .failed ld → ld = 0)
    (h : (accept Y io s e).2 = .error err) : (accept Y io s e).1 = s := by
  cases hv : verifyEvent Y.toNostr e with
  | error why => simp [accept,hv] at h
  | ok u =>
    cases hd : decideEvent s.events (e.id ∈ s.seenIds) e with
    | duplicate | ephemeral | superseded => simp [accept,hv,hd] at h
    | stored =>
      cases hw : s.writer with
      | none => simp [accept,hv,hd,hw] at h
      | some file =>
        cases hto : Y.toVec e with
        | error source => simp [accept,hv,hd,hw,hto]
        | ok t =>
          cases io with
          | synced => simp [accept,hv,hd,hw,hto] at h
          | failed ld =>
            obtain rfl := hc ld rfl
            have hf : file ++ (t ++ "\n").toByteArray.extract 0 0 = file := by simp
            simp only [accept,hv,hd,hw,hto,hf]
            rw [← hw]

end

section

variable {m : Moment} {s : State} {event : Event}

lemma submitFrom_plain (hd : isEphemeralKind event.kind = false)
    (hc : event.kind ≠ kindNip29CreateGroup) (prin : Option Query.Principal) :
    (submitFrom X R m s event prin).1.store = (accept X.toCrates (m.append event) s.store event).1 ∧
    (submitFrom X R m s event prin).2.result =
      (accept X.toCrates (m.append event) s.store event).2.mapError .store := by
  have hr : event.kind ≠ kindBeaconResponse := by
    intro hk
    rw [hk] at hd
    simp [isEphemeralKind,kindBeaconResponse] at hd
  simp only [submitFrom,hr,projectedEvents,hc]
  cases ha : accept X.toCrates (m.append event) s.store event with
  | mk store ans =>
    cases ans with
    | error e => simp [conclude,Except.mapError]
    | ok res =>
      simp only [conclude,hr,if_false,publish,publishProjectedEvents,witness]
      cases res.publishLive with
      | false => simp [Except.mapError]
      | true =>
        by_cases hs : res.message = "stored"
        · simp only [hs]
          cases currentPulse X R m ⟨store,s.beaconRounds⟩ <;> simp [Except.mapError]
        · simp [hs,Except.mapError]

/-- A record that the policy admits gets a safe receipt, or the append failed and nothing
happened. -/
lemma ingestReplication_plain {record : ReplicationRecord} {es : List Event}
    (hpolicy : policy record.source record.event = .ok ()) (had : Admitted X.toCrates record.event)
    (hc : record.event.kind ≠ kindNip29CreateGroup) (hto : Serializes X.toCrates record.event)
    (hcl : ∀ ld, m.append record.event = .failed ld → ld = 0)
    (hco : NoCollision X.toNostr es) (hre : Refines X.toCrates es s.store) :
    ((ingestReplication X R policy m s record).1.store = (accept X.toCrates .synced s.store record.event).1 ∧
      ∃ receipt, (ingestReplication X R policy m s record).2 = .ok receipt ∧ receipt.checkpointSafe = true) ∨
    ((ingestReplication X R policy m s record).1.store = s.store ∧
      ∃ e, (ingestReplication X R policy m s record).2 = .error e) := by
  obtain ⟨hst,hr⟩ := @submitFrom_plain X R m s record.event had.2 hc none
  have hau : ¬(record.event.kind = kindAuth ∨ record.event.kind = kindHttpAuth) := by
    rintro (hk | hk) <;> simp [Admitted,hk,isEphemeralKind,kindAuth,kindHttpAuth] at had
  simp only [ingestReplication,hpolicy,had.2,Bool.false_eq_true,if_false,hau,hr]
  cases ha : (accept X.toCrates (m.append record.event) s.store record.event).2 with
  | error e =>
    exact .inr ⟨hst.trans (accept_of_error hcl ha),_,rfl⟩
  | ok res =>
    have hsa := accept_of_ok ha
    have hs := (hre.accept_result hco hto had).1
    rw [← hsa,ha] at hs
    refine .inl ⟨hst.trans (by rw [hsa]),?_⟩
    rw [ok.inj hs]
    -- the three answers of the store, each with its outcome
    split_ifs
    · exact ⟨_,rfl,rfl⟩
    · exact ⟨_,rfl,rfl⟩
    · exact ⟨_,rfl,rfl⟩

end

section

variable {m : Moment}

def acceptEach (Y : EventStore.Crates) (store : Store) (events : List Event) : Store :=
  events.foldl (fun store e => (accept Y .synced store e).1) store

lemma acceptEach_append (Y : EventStore.Crates) (store : Store) (es more : List Event) :
    acceptEach Y store (es ++ more) = acceptEach Y (acceptEach Y store es) more :=
  foldl_append

lemma acceptEach_refines {bef es : List Event} {store : Store}
    (hc : NoCollision X.toNostr (bef ++ es)) (hto : ∀ e ∈ es, Serializes X.toCrates e)
    (h : Refines X.toCrates bef store) :
    Refines X.toCrates (bef ++ es) (acceptEach X.toCrates store es) ∧
      (Logged X.toCrates store → Logged X.toCrates (acceptEach X.toCrates store es)) := by
  induction es generalizing bef store with
  | nil => exact ⟨by simpa [acceptEach] using h,id⟩
  | cons e es ih =>
    rw [append_cons] at hc ⊢
    have hn := accept_refines (hc.subset fun _ => mem_append_left _) (hto e mem_cons_self) h
    obtain ⟨hr,hlo⟩ := ih hc (fun a ha => hto a (mem_cons_of_mem _ ha)) hn
    exact ⟨hr,fun hl => hlo (accept_logged (hto e mem_cons_self) hl)⟩

variable {store aft : Store}

lemma publishProjectedEvents_ok {proj live : List Event}
    (h : publishProjectedEvents X m store proj = (aft,.ok (),live)) :
    aft = acceptEach X.toCrates store proj := by
  induction proj generalizing store live with
  | nil =>
    simp only [publishProjectedEvents,Prod.mk.injEq] at h
    exact h.1.symm
  | cons e rest ih =>
    simp only [publishProjectedEvents] at h
    split at h
    · simp at h
    · rename_i next res ha
      have hs := accept_of_ok (congrArg Prod.snd ha)
      cases hr : publishProjectedEvents X m next rest with
      | mk last out =>
        simp only [hr,Prod.mk.injEq] at h
        obtain ⟨rfl,ho,-⟩ := h
        have hn : next = (accept X.toCrates .synced store e).1 := by rw [← hs,ha]
        rw [acceptEach,foldl_cons,← hn]
        exact ih (hr.trans (by rw [← ho]))

lemma materializeAll_ok {crs : List Event} (h : materializeAll X R m store crs = .ok aft) :
    aft = acceptEach X.toCrates store (crs.flatMap fun cr => ((backfill X R m cr).toOption).getD []) := by
  induction crs generalizing store with
  | nil => simpa [materializeAll,acceptEach] using h.symm
  | cons cr rest ih =>
    simp only [materializeAll] at h
    cases hb : backfill X R m cr with
    | error e => simp [hb] at h
    | ok proj =>
      simp only [hb] at h
      split at h
      · simp at h
      · rename_i next live hp
        rw [flatMap_cons,hb,acceptEach_append,Except.toOption,Option.getD_some,
          ← publishProjectedEvents_ok hp]
        exact ih h

lemma materializeExistingNip29State_ok (h : materializeExistingNip29State X R m store = .ok aft) :
    aft = acceptEach X.toCrates store (materialized X R m store) := by
  unfold materializeExistingNip29State at h
  unfold materialized
  split at h
  · rename_i hk
    simpa [hk,acceptEach] using h.symm
  · rename_i hk
    simpa [hk] using materializeAll_ok h

end

section

variable {L : LocalReplicationSource} {journal own : List Event} {start : Store} {d : Delivery}
variable {rc : ReplicationRecord}

lemma source_pageRecords {Y : EventStore.Crates} {pos : ℕ} {page : List Event}
    (h : rc ∈ Replication.pageRecords Y L pos page) :
    rc.source = L.source := by
  obtain ⟨-,-,rfl⟩ := mem_map.1 h
  rfl

lemma mem_pageFrom {checkpoint lm cnt : ℕ} (h : rc ∈ pageFrom X L journal checkpoint lm cnt) :
    rc.source = L.source ∧ rc.event ∈ journal ∧ exports X.toCrates L rc.event = true := by
  unfold pageFrom at h
  split at h
  · simp at h
  · rename_i batch hb
    have hr := mem_of_mem_take h
    obtain ⟨pos,stop,-,-,hre,-⟩ := Replication.readBatch_page hb
    obtain ⟨p,hp,-,he⟩ := Replication.record_position hb hr
    rw [hre] at hr
    exact ⟨source_pageRecords hr,mem_of_getElem? hp,he⟩

/-- What holds all along: the destination holds the register of its own events and of those
submitted so far, its log spells its journal if it did so at the start, and every receipt is
safe. -/
structure InDelivery (X : Crates) (L : LocalReplicationSource) (journal own : List Event) (start : Store)
    (d : Delivery) : Prop where
  refines : ∃ events, Refines X.toCrates (own ++ events) d.state.store ∧
    ∀ e, e ∈ events ↔ e ∈ d.delivered ∨ e ∈ d.materialized
  logged : Logged X.toCrates start → Logged X.toCrates d.state.store
  safe : ∀ r ∈ d.receipts, r.checkpointSafe = true
  sent : ∀ e ∈ d.delivered, e ∈ journal ∧ exports X.toCrates L e = true

structure Sane (X : Crates) (events : List Event) : Prop where
  no_collision : NoCollision X.toNostr events
  round_trips : ∀ e ∈ events, RoundTrips X.toCrates e

variable {es : List Event}

lemma Sane.serializes (h : Sane X es) {e : Event} (he : e ∈ es) :
    Serializes X.toCrates e := (recordText_of_roundTrips (h.round_trips e he)).1

variable {pool : List Event} (hsane : Sane X pool)
variable (hjournal : ∀ e ∈ journal, e ∈ pool ∧ Admitted X.toCrates e ∧ e.kind ≠ kindNip29CreateGroup)
variable (hpolicy : ∀ e ∈ journal, policy L.source e = .ok ()) (hown : ∀ e ∈ own, e ∈ pool)

include hown in
lemma mem_pool (hev : ∀ e ∈ es, e ∈ pool) : ∀ e ∈ own ++ es, e ∈ pool := by
  intro e he
  rcases mem_append.1 he with he | he
  · exact hown e he
  · exact hev e he

include hjournal in
lemma InDelivery.submitted_mem_pool (h : InDelivery X L journal own start d)
    (hm : ∀ e ∈ d.materialized, e ∈ pool)
    (hev : ∀ e, e ∈ es ↔ e ∈ d.delivered ∨ e ∈ d.materialized) : ∀ e ∈ es, e ∈ pool := by
  intro e he
  rcases (hev e).1 he with he | he
  · exact (hjournal e (h.sent e he).1).1
  · exact hm e he

include hsane hjournal hown in
lemma InDelivery.accepted {after : State} {receipt : ReplicationReceipt} {ev : Event}
    (h : InDelivery X L journal own start d) (hm : ∀ e ∈ d.materialized, e ∈ pool) (hin : ev ∈ journal)
    (hex : exports X.toCrates L ev = true)
    (hs : after.store = (accept X.toCrates .synced d.state.store ev).1)
    (hsa : receipt.checkpointSafe = true) : InDelivery X L journal own start
      ⟨after,d.receipts ++ [receipt],d.delivered ++ [ev],d.materialized⟩ := by
  obtain ⟨es,hre,hev⟩ := h.refines
  have hsu := h.submitted_mem_pool hjournal hm hev
  have hp := (hjournal ev hin).1
  have hto := hsane.serializes hp
  refine ⟨⟨es ++ [ev],?_,?_⟩,?_,?_,?_⟩
  · rw [← append_assoc,hs]
    refine accept_refines (hsane.no_collision.subset ?_) hto hre
    rw [append_assoc]
    apply mem_pool hown
    intro e he
    rcases mem_append.1 he with he | he
    · exact hsu e he
    · exact mem_singleton.1 he ▸ hp
  · intro e
    simp only [mem_append,mem_singleton,hev]
    tauto
  · intro hl
    rw [hs]
    exact accept_logged hto (h.logged hl)
  · intro r hr
    rcases mem_append.1 hr with hr | hr
    · exact h.safe r hr
    · exact mem_singleton.1 hr ▸ hsa
  · intro e he
    rcases mem_append.1 he with he | he
    · exact h.sent e he
    · exact mem_singleton.1 he ▸ ⟨hin,hex⟩

include hsane hjournal hpolicy hown in
lemma ingestAll_inDelivery {mo : ℕ → Moment} (recs : List ReplicationRecord) (i : ℕ)
    (hrc : ∀ rc ∈ recs, rc.source = L.source ∧ rc.event ∈ journal ∧ exports X.toCrates L rc.event = true)
    (hcl : ∀ i ev ld, (mo i).append ev = .failed ld → ld = 0)
    (hm : ∀ e ∈ d.materialized, e ∈ pool) (h : InDelivery X L journal own start d) :
    InDelivery X L journal own start (ingestAll X R policy mo i d recs) := by
  induction recs generalizing d i with
  | nil => exact h
  | cons rc rest ih =>
    obtain ⟨es,hrf,hev⟩ := h.refines
    obtain ⟨hso,hin,hex⟩ := hrc rc mem_cons_self
    obtain ⟨hp,ha,hcr⟩ := hjournal rc.event hin
    have hco := hsane.no_collision.subset (mem_pool hown (h.submitted_mem_pool hjournal hm hev))
    have hi := @ingestReplication_plain X R policy (mo i) d.state rc (own ++ es)
      (by rw [hso]; exact hpolicy _ hin) ha hcr (hsane.serializes hp) (hcl i rc.event)
      hco hrf
    unfold ingestAll
    rcases hi with ⟨hs,receipt,hre,hsa⟩ | ⟨hs,e,he⟩
    · cases hc : ingestReplication X R policy (mo i) d.state rc with
      | mk after ans =>
        rw [hc] at hs hre
        simp only at hs hre
        subst hre
        have hn := h.accepted hsane hjournal hown hm hin hex hs hsa
        exact ih (i+1) (fun r hr => hrc r (mem_cons_of_mem _ hr)) hm hn
    · cases hc : ingestReplication X R policy (mo i) d.state rc with
      | mk after ans =>
        rw [hc] at hs he
        simp only at hs he
        subst he
        exact ⟨⟨es,hs ▸ hrf,hev⟩,fun hl => hs ▸ h.logged hl,h.safe,h.sent⟩

include hsane hjournal hown in
lemma restart_inDelivery {m : Moment} {after : Delivery} (hlo : Logged X.toCrates start)
    (hm : ∀ e ∈ after.materialized, e ∈ pool) (h : InDelivery X L journal own start d)
    (hr : restart X R m d = .ok after) : InDelivery X L journal own start after := by
  obtain ⟨es,hre,hev⟩ := h.refines
  have hl := h.logged hlo
  simp only [restart] at hr
  split at hr
  · simp at hr
  · rename_i store ho
    split at hr
    · simp at hr
    · rename_i last hla
      have haf := ok.inj hr
      subst haf
      simp only [mem_append] at hm
      have ha := mem_pool hown (h.submitted_mem_pool hjournal (fun e he => hm e (.inl he)) hev)
      have hd : ∀ e ∈ materialized X R m store, e ∈ pool := fun e he => hm e (.inr he)
      obtain ⟨t,ht,htr,htl,-⟩ := reopen_refines (hsane.no_collision.subset ha)
        (fun e he => hsane.round_trips e (ha e he)) hre hl
      have hs : t = store := by
        have hw : d.state.store.writer = some _ := hl
        rw [reopened,hw] at ho
        rw [step,hw] at ht
        exact ok.inj (ht.symm.trans ho)
      subst hs
      rw [materializeExistingNip29State_ok hla]
      have hn := @acceptEach_refines X (own ++ es) (materialized X R m t) t (hsane.no_collision.subset (by
          intro e he
          rcases mem_append.1 he with he | he
          · exact ha e he
          · exact hd e he))
        (fun e he => hsane.serializes (hd e he)) htr
      refine ⟨⟨es ++ materialized X R m t,?_,?_⟩,fun _ => hn.2 htl,h.safe,h.sent⟩
      · rw [← append_assoc]
        exact hn.1
      · intro e
        simp only [mem_append,hev]
        tauto

lemma ingestAll_materialized (mo : ℕ → Moment) (recs : List ReplicationRecord) (i : ℕ)
    (d : Delivery) : (ingestAll X R policy mo i d recs).materialized = d.materialized := by
  induction recs generalizing i d with
  | nil => rfl
  | cons rc rest ih =>
    unfold ingestAll
    split
    · rfl
    · exact ih _ _

variable {steps : List DeliveryStep} {final : Delivery}

lemma materialized_subset (hrun : deliverAll X R policy L journal d steps = .ok final) :
    ∀ e ∈ d.materialized, e ∈ final.materialized := by
  induction steps generalizing d with
  | nil =>
    have hd : d = final := by simpa [deliverAll] using hrun
    exact fun e he => hd ▸ he
  | cons step steps ih =>
    simp only [deliverAll] at hrun
    split at hrun
    · simp at hrun
    · rename_i next hn
      intro e he
      apply ih hrun
      cases step with
      | send checkpoint lm cnt mo =>
        rw [← ok.inj hn,ingestAll_materialized]
        exact he
      | restart m =>
        simp only [deliverStep,restart] at hn
        split at hn
        · simp at hn
        · split at hn
          · simp at hn
          · rw [← ok.inj hn]
            exact mem_append_left _ he

lemma deliverAll_concat (h : deliverAll X R policy L journal d steps = .ok final) (last : DeliveryStep) :
    deliverAll X R policy L journal d (steps ++ [last]) = deliverStep X R policy L journal final last := by
  induction steps generalizing d with
  | nil =>
    cases h
    rw [nil_append,deliverAll]
    cases deliverStep X R policy L journal final last <;> rfl
  | cons step steps ih =>
    rw [deliverAll] at h
    rw [cons_append,deliverAll]
    split at h
    · cases h
    · exact ih h

include hsane hjournal hpolicy hown in
lemma deliverAll_inDelivery (hc : ∀ step ∈ steps, step.Clean)
    (hl : (∃ step ∈ steps, step.isRestart = true) → Logged X.toCrates start)
    (hma : ∀ e ∈ final.materialized, e ∈ pool) (h : InDelivery X L journal own start d)
    (hrun : deliverAll X R policy L journal d steps = .ok final) :
    InDelivery X L journal own start final := by
  induction steps generalizing d with
  | nil =>
    have hd : d = final := by simpa [deliverAll] using hrun
    exact hd ▸ h
  | cons step steps ih =>
    have hre := hrun
    simp only [deliverAll] at hrun
    split at hrun
    · simp at hrun
    · rename_i next hn
      have hm : ∀ e ∈ next.materialized, e ∈ pool := fun e he => hma e (materialized_subset hrun e he)
      refine ih (fun a ha => hc a (mem_cons_of_mem _ ha)) (fun hex => hl (by
          obtain ⟨a,ha,hra⟩ := hex
          exact ⟨a,mem_cons_of_mem _ ha,hra⟩)) ?_ hrun
      cases step with
      | send checkpoint lm cnt mo =>
        have hd := ok.inj hn
        rw [← hd]
        exact ingestAll_inDelivery hsane hjournal hpolicy hown _ 0 (fun r hr => mem_pageFrom hr)
          (hc _ mem_cons_self)
          (fun e he => hma e (materialized_subset hre e he)) h
      | restart m =>
        exact restart_inDelivery hsane hjournal hown (hl ⟨_,mem_cons_self,rfl⟩) hm h hn

end

/-- The register after more submissions holds the winners of what it held and of the new
events. -/
lemma winners_refines {Y : EventStore.Crates} {own es : List Event} {start after : Store}
    (hc : NoCollision Y.toNostr (own ++ es)) (hs : Refines Y own start)
    (ha : Refines Y (own ++ es) after) : Winners stream (start.events ++ admitted Y es) after.events := by
  have hsp : admitted Y (own ++ es) = admitted Y own ++ admitted Y es := by
    simp [admitted]
  have hk : ∀ (L : Ledger StoredEvent) (cs : List StoredEvent),
      (cs.foldl (submit stream) L).kept = cs.foldl (offer stream) L.kept := by
    intro L cs
    induction cs generalizing L with
    | nil => rfl
    | cons c cs ih => rw [foldl_cons,ih,submit_kept,foldl_cons]
  have hse := hs.separated (hc.subset fun _ => mem_append_left _)
  have hrun : after.events = (admitted Y es).foldl (offer stream) start.events := by
    rw [ha.events_eq,ledger,run,hsp,foldl_append,hk,hs.events_eq]
    rfl
  rw [hrun]
  apply (winners_self hse).offers
  apply (consistent_admitted hc).mono
  intro x hx
  rw [hsp,mem_append]
  rcases mem_append.1 hx with hx | hx
  · rw [hs.events_eq] at hx
    have hso := sound_ledger (hc.subset fun e (he : e ∈ own) => mem_append_left _ he)
    exact .inl (hso.history_mem x (hso.kept_mem x hx))
  · exact .inr hx

/-- At-least-once replication: whatever is sent again and whenever the destination restarts,
every receipt is safe, and once every exported event has been delivered the effective list is
the winner set of the destination's own effective events, the exported events and the discovery
events that its restarts derived from its own group creations. -/
theorem at_least_once_replication (X : Crates) (R : Relay) (policy : ReplicationPolicy)
    (L : LocalReplicationSource) (journal own : List Event) (s : State) (steps : List DeliveryStep)
    (final : Delivery)
    (hjournal : ∀ e ∈ journal, Admitted X.toCrates e ∧ e.kind ≠ kindNip29CreateGroup)
    (hpolicy : ∀ e ∈ journal, policy L.source e = .ok ())
    (hown : Refines X.toCrates own s.store)
    (hclean : ∀ step ∈ steps, step.Clean)
    (hlog : (∃ step ∈ steps, step.isRestart = true) → Logged X.toCrates s.store)
    (hrun : deliverAll X R policy L journal ⟨s,[],[],[]⟩ steps = .ok final)
    (hsane : Sane X (own ++ journal ++ final.materialized)) :
    (∀ r ∈ final.receipts, r.checkpointSafe = true) ∧
    ((∀ e ∈ journal, exports X.toCrates L e = true → e ∈ final.delivered) →
      Winners stream (s.store.events ++ ((journal.filter (exports X.toCrates L)).map
          (storedEvent X.toCrates) ++ admitted X.toCrates final.materialized))
        final.state.store.events) := by
  have hp : ∀ e ∈ journal, e ∈ own ++ journal ++ final.materialized ∧ Admitted X.toCrates e ∧
      e.kind ≠ kindNip29CreateGroup := by
    intro e he
    exact ⟨by simp [he],hjournal e he⟩
  have hb : InDelivery X L journal own s.store ⟨s,[],[],[]⟩ :=
    ⟨⟨[],by simpa using hown,by simp⟩,id,by simp,by simp⟩
  have hen := deliverAll_inDelivery hsane hp hpolicy (fun e he => by simp [he]) hclean hlog
    (fun e he => by simp [he]) hb hrun
  refine ⟨hen.safe,?_⟩
  intro hd
  obtain ⟨events,hr,hev⟩ := hen.refines
  have hs : ∀ e ∈ own ++ events, e ∈ own ++ journal ++ final.materialized := by
    intro e he
    simp only [mem_append,hev] at he ⊢
    rcases he with he | he | he
    · exact .inl (.inl he)
    · exact .inl (.inr (hen.sent e he).1)
    · exact .inr he
  refine (winners_refines (hsane.no_collision.subset hs) hown hr).congr ?_
  intro x
  simp only [mem_append,mem_admitted,mem_map,mem_filter]
  refine or_congr_right ?_
  constructor
  · rintro ⟨e,he,ha,rfl⟩
    rcases (hev e).1 he with he | he
    · exact .inl ⟨e,hen.sent e he,rfl⟩
    · exact .inr ⟨e,he,ha,rfl⟩
  · rintro (⟨e,⟨he,hex⟩,rfl⟩ | ⟨e,he,ha,rfl⟩)
    · exact ⟨e,(hev e).2 (.inl (hd e he hex)),(hjournal e he).1,rfl⟩
    · exact ⟨e,(hev e).2 (.inr he),ha,rfl⟩

def replicaCrates : Crates where
  toCrates := signedOnly [newProfile,oldProfile,note] fun _ => none
  parseJson _ := none
  jsonText _ := ""
  uuidError := id
  debugText := id

lemma noSigner_kind : ∀ (builder : EventBuilder) (e : Event),
    (.error "no key" : Except String Event) = .ok e → e.kind = builder.kind := by
  simp

def idleMoment : Moment := ⟨0,fun _ => .error "no key",fun _ => .synced,(0,[]),noSigner_kind⟩

def replicaRelay : Relay := ⟨none,none,none⟩

def laptopStream : LocalReplicationSource := ⟨"laptop",none⟩

def sendAll : DeliveryStep := .send 0 10 10 fun _ => idleMoment

def replicate (store : Store) (journal : List Event) (steps : List DeliveryStep) :
    Except SubmitError Delivery :=
  deliverAll replicaCrates replicaRelay (sourceAllowlist ["laptop"]) laptopStream journal
    ⟨⟨store,[]⟩,[],[],[]⟩ steps

def sentEvents : List Event := [newProfile,oldProfile,note]

def freshLog : Store := ⟨[],[],∅,some ByteArray.empty⟩

/-- Both profiles and the note, sent twice to a destination with an empty log that restarts then. -/
theorem at_least_once_replication_profile :
    ∃ final, replicate freshLog sentEvents [sendAll,sendAll,.restart idleMoment] = .ok final ∧
      (∀ r ∈ final.receipts, r.checkpointSafe = true) ∧
      Winners stream (sentEvents.map (storedEvent replicaCrates.toCrates)) final.state.store.events := by
  have hi : IdsMatch sentEvents := by decide +kernel
  have hj : ∀ e ∈ sentEvents, Admitted replicaCrates.toCrates e ∧
    e.kind ≠ kindNip29CreateGroup := by decide +kernel
  have hpo : ∀ e ∈ sentEvents, sourceAllowlist ["laptop"] laptopStream.source e = .ok () := by decide
  have hs : sendAll.Clean := by
    intro i event landed hf
    simp [idleMoment] at hf
  have hsane : Sane replicaCrates sentEvents :=
    ⟨noCollision_signedOnly hi,fun e he => roundTrips_signedOnly he⟩
  have hlog : Logged replicaCrates.toCrates freshLog := by simp [freshLog,Logged,logText]
  have hv : (replicate freshLog sentEvents [sendAll,sendAll]).map (fun d => (d.delivered,d.materialized)) =
      .ok (sentEvents ++ sentEvents,[]) := by decide +kernel
  cases hsent : replicate freshLog sentEvents [sendAll,sendAll] with
  | error e => simp [hsent,Except.map] at hv
  | ok d =>
    simp only [hsent,Except.map,Except.ok.injEq,Prod.mk.injEq] at hv
    obtain ⟨hd,hm⟩ := hv
    have hin : InDelivery replicaCrates laptopStream sentEvents [] freshLog d :=
      deliverAll_inDelivery hsane (fun e he => ⟨he,hj e he⟩) hpo (by simp) (by simp [hs]) (fun _ => hlog)
        (by simp [hm]) ⟨⟨[],refines_empty _,by simp⟩,id,by simp,by simp⟩ hsent
    obtain ⟨events,hre,hev⟩ := hin.refines
    have hmem : ∀ e ∈ [] ++ events, e ∈ sentEvents := fun e he => by simpa [hm,hd] using (hev e).1 he
    obtain ⟨t,ht,-⟩ := reopen_refines (hsane.no_collision.subset hmem)
      (fun e he => hsane.round_trips e (hmem e he)) hre (hin.logged hlog)
    have hr : restart replicaCrates replicaRelay idleMoment d = .ok { d with state := ⟨t,[]⟩ } := by
      have hw : d.state.store.writer = some _ := hin.logged hlog
      rw [step,hw] at ht
      simp only [restart,reopened,hw,ht]
      simp [materializeExistingNip29State,materialized,replicaRelay]
    have hrun : replicate freshLog sentEvents [sendAll,sendAll,.restart idleMoment] =
        .ok { d with state := ⟨t,[]⟩ } := by
      rw [replicate] at hsent ⊢
      exact (deliverAll_concat hsent (.restart idleMoment)).trans hr
    obtain ⟨hsa,hw⟩ := at_least_once_replication replicaCrates replicaRelay
      (sourceAllowlist ["laptop"]) laptopStream sentEvents [] ⟨freshLog,[]⟩
        [sendAll,sendAll,.restart idleMoment] _
      hj hpo (refines_empty _) (by simp [hs,show (DeliveryStep.restart idleMoment).Clean from trivial])
        (fun _ => hlog) hrun (by simpa [hm] using hsane)
    refine ⟨_,hrun,hsa,?_⟩
    have ha := hw fun e he _ => by rw [hd]; exact mem_append_left _ he
    have hex : sentEvents.filter (exports replicaCrates.toCrates laptopStream) = sentEvents := rfl
    rw [hm,hex] at ha
    simpa [freshLog,admitted] using ha

/-- A destination that keeps its events in memory loses its profile when it restarts. The
delivery after it succeeds, and nothing that was sent makes up for the profile. -/
theorem memory_replica_forgets :
    (acceptAll replicaCrates.toCrates none [oldProfile]).events.map StoredEvent.event = [oldProfile] ∧
    (replicate (acceptAll replicaCrates.toCrates none [oldProfile]) [note]
        [.restart idleMoment,sendAll]).map
        (fun d => (d.receipts.map ReplicationReceipt.checkpointSafe,d.delivered,
          d.state.store.events.map StoredEvent.event)) = .ok ([true],[note],[note]) ∧
            replacementKey note = none := by
  decide +kernel

end BuzzSolo.LocalRelay
