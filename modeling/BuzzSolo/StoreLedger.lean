import BuzzSolo.EventStore

/-! The store as a keyed register: its effective list is what the register keeps, its journal is
what the register admitted, and its log spells the journal line by line. -/
namespace BuzzSolo.EventStore

open Ingest LineText LatestRegister List

variable {X : Crates}

/-- Verified and not live-only: the events that compete in the register. -/
def Admitted (X : Crates) (event : Event) : Prop :=
  Verified X.toNostr event ∧ isEphemeralKind event.kind = false

instance (X : Crates) (event : Event) : Decidable (Admitted X event) := inferInstanceAs (Decidable (_ ∧ _))

def admitted (X : Crates) (events : List Event) : List StoredEvent :=
  (events.filter fun e => Admitted X e).map (storedEvent X)

def ledger (X : Crates) (events : List Event) : Ledger StoredEvent := run stream (admitted X events)

def recordText (X : Crates) (event : Event) : String :=
  match X.toVec event with
  | .ok text => text
  | .error _ => ""

def Serializes (X : Crates) (event : Event) : Prop := X.toVec event = .ok (recordText X event)

def logText (X : Crates) (journal : List Event) : String := framed (journal.map (recordText X)) ""

def effectiveOf (X : Crates) (journal : List Event) : List StoredEvent :=
  journal.foldl (fun events e => (applyEffectiveEvent events (storedEvent X e)).1) []

lemma admitted_append (es : List Event) (e : Event) : admitted X (es ++ [e]) =
      if Admitted X e then admitted X es ++ [storedEvent X e] else admitted X es := by
  by_cases h : Admitted X e <;> simp [admitted,h]

lemma ledger_append (es : List Event) (e : Event) : ledger X (es ++ [e]) =
      if Admitted X e then submit stream (ledger X es) (storedEvent X e)
      else ledger X es := by
  by_cases h : Admitted X e <;> simp [ledger,admitted_append,h,run]

variable {events : List Event}

lemma mem_admitted {s : StoredEvent} :
    s ∈ admitted X events ↔ ∃ e ∈ events, Admitted X e ∧ storedEvent X e = s := by
  simp [admitted,and_assoc]

lemma consistent_admitted (h : NoCollision X.toNostr events) : Consistent stream (· ∈ admitted X events) := by
  refine consistent_of_verified ?_ (h.subset ?_)
  · intro s hs
    obtain ⟨a,-,hva,rfl⟩ := mem_admitted.1 hs
    exact hva.1
  · intro e he
    obtain ⟨s,hs,rfl⟩ := mem_map.1 he
    obtain ⟨a,ha,-,rfl⟩ := mem_admitted.1 hs
    exact ha

lemma sound_ledger (h : NoCollision X.toNostr events) : Sound stream (admitted X events) (ledger X events) :=
  sound_run _ (consistent_admitted h)

lemma covered_congr {kept : List StoredEvent} {a b : Event} (hb : a.toEventBody = b.toEventBody)
    (hid : a.id = b.id)
    (h : Covered stream kept (storedEvent X a)) : Covered stream kept (storedEvent X b) := by
  obtain ⟨s,hs,hst⟩ := h
  refine ⟨s,hs,?_⟩
  have hk := replacementKey_congr hb
  have hr := rank_congr hb hid
  simp only [Stands,Rivals,stream_ident,stream_key,stream_rank,storedEvent_event] at hst ⊢
  rwa [← hk,← hr,← hid]

variable {e : Event}

lemma recordText_of_roundTrips (h : RoundTrips X e) : Serializes X e ∧ X.fromStr (recordText X e) = .ok e ∧
      OneLine (recordText X e) ∧ isBlank (recordText X e) = false := by
  obtain ⟨t,hto,hf,hnl,hl⟩ := h
  have ht : recordText X e = t := by simp [recordText,hto]
  have hm : '}' ∈ t.toList := mem_of_getLast? hl
  refine ⟨by rw [Serializes,ht,hto],by rw [ht,hf],⟨by rw [ht]; exact hnl,by rw [ht,hl]; decide⟩,?_⟩
  rw [ht,isBlank,all_eq_false]
  exact ⟨'}',hm,by decide⟩

lemma accept_cases (s : Store) (hto : Serializes X e) :
    (¬ Verified X.toNostr e ∧ (accept X .synced s e).1 = s) ∨
    (Verified X.toNostr e ∧ decideEvent s.events (e.id ∈ s.seenIds) e ≠ .stored ∧
      ((accept X .synced s e).1 = s ∨
        (accept X .synced s e).1 = { s with seenIds := insert e.id s.seenIds })) ∨
    (Verified X.toNostr e ∧ decideEvent s.events (e.id ∈ s.seenIds) e = .stored ∧
      (accept X .synced s e).1 = commit X
        { s with writer := s.writer.map (· ++ (recordText X e ++ "\n").toByteArray) } e) := by
  have hto : X.toVec e = .ok (recordText X e) := hto
  cases hv : verifyEvent X.toNostr e with
  | error why => exact .inl ⟨by simp [Verified,hv],by simp [accept,hv]⟩
  | ok u =>
    right
    have hve : Verified X.toNostr e := hv
    cases hd : decideEvent s.events (e.id ∈ s.seenIds) e with
    | stored =>
      refine .inr ⟨hve,rfl,?_⟩
      cases hw : s.writer with
      | none =>
        obtain ⟨events,jnl,seen,wr⟩ := s
        subst hw
        simp [accept,hv,hd]
      | some file => simp [accept,hv,hd,hw,hto]
    | duplicate => exact .inl ⟨hve,by simp,.inl (by simp [accept,hv,hd])⟩
    | superseded | ephemeral => exact .inl ⟨hve,by simp,.inr (by simp [accept,hv,hd])⟩

structure Refines (X : Crates) (events : List Event) (s : Store) : Prop where
  events_eq : s.events = (ledger X events).kept
  history_eq : s.journal.map (storedEvent X) = (ledger X events).history
  replay_eq : s.events = effectiveOf X s.journal
  journal_seen : ∀ e ∈ s.journal, e.id ∈ s.seenIds
  seen_submitted : ∀ i ∈ s.seenIds, ∃ e ∈ events, Verified X.toNostr e ∧ e.id = i

lemma refines_empty (wr : Option ByteArray) : Refines X [] ⟨[],[],∅,wr⟩ := ⟨rfl,rfl,rfl,by simp,by simp⟩

variable {s : Store}

lemma Refines.mem_journal (hc : NoCollision X.toNostr events)
    (h : Refines X events s) (he : e ∈ s.journal) : e ∈ events ∧ Admitted X e := by
  have hh : storedEvent X e ∈ (ledger X events).history := by
    rw [← h.history_eq]
    exact mem_map_of_mem he
  obtain ⟨a,ha,had,hae⟩ := mem_admitted.1 ((sound_ledger hc).history_mem _ hh)
  have hae' : a = e := congrArg StoredEvent.event hae
  exact hae' ▸ ⟨ha,had⟩

lemma Refines.fresh_id (hc : NoCollision X.toNostr events) (h : Refines X events s) (hse : e.id ∉ s.seenIds) :
    ¬ ∃ t ∈ s.events, t.event.id = e.id := by
  rintro ⟨t,ht,hid⟩
  rw [h.events_eq] at ht
  have hh := (sound_ledger hc).kept_mem t ht
  rw [← h.history_eq] at hh
  obtain ⟨a,ha,rfl⟩ := mem_map.1 hh
  exact hse (hid ▸ h.journal_seen a ha)

/-- An event whose id was submitted before is covered. -/
lemma covered_of_id {a : Event}
    (hc : NoCollision X.toNostr (events ++ [e])) (ha : a ∈ events) (hva : Verified X.toNostr a)
    (had : Admitted X e) (hid : a.id = e.id) : Covered stream (ledger X events).kept (storedEvent X e) := by
  have hc' : NoCollision X.toNostr events := hc.subset fun _ => mem_append_left _
  have hb := body_eq_of_id_eq hc (mem_append_left _ ha) (by simp) hva had.1 hid
  have ham : Admitted X a := ⟨hva,by rw [hb]; exact had.2⟩
  have hco := (sound_ledger hc').covered _ (mem_admitted.2 ⟨a,ha,ham,rfl⟩)
  exact covered_congr hb hid hco

lemma ledger_append_of_covered (ha : Admitted X e)
    (hc : Covered stream (ledger X events).kept (storedEvent X e)) :
    ledger X (events ++ [e]) = ledger X events := by
  rw [ledger_append,if_pos ha,submit,if_pos hc]

lemma Refines.separated (hc : NoCollision X.toNostr events)
    (h : Refines X events s) : Separated stream s.events := by
  rw [h.events_eq]
  exact (sound_ledger hc).separated

/-- What the store answers to a verified durable event, and that it remembers the id. -/
lemma Refines.accept_result (hco : NoCollision X.toNostr events) (h : Refines X events s)
    (hto : Serializes X e)
    (ha : Admitted X e) : (accept X .synced s e).2 = .ok
      (if e.id ∈ s.seenIds then .ofAccepted e "duplicate" false
        else if Covered stream s.events (storedEvent X e) then .ofAccepted e "superseded" false
        else .ofAccepted e "stored" true) ∧ (accept X .synced s e).1.seenIds = insert e.id s.seenIds := by
  have hv : verifyEvent X.toNostr e = .ok () := ha.1
  have hto : X.toVec e = .ok (recordText X e) := hto
  have hd := decideEvent_durable (e.id ∈ s.seenIds) (storedEvent X e) (h.separated hco) ha.2
  simp only [storedEvent_event] at hd
  by_cases hse : e.id ∈ s.seenIds
  · simp only [hse,decide_true] at hd
    simp [accept,hv,hd,hse]
  · have hf := h.fresh_id hco hse
    by_cases hc : Covered stream s.events (storedEvent X e)
    · simp only [hse,decide_false,hf] at hd
      simp [accept,hv,hse,hd,hc]
    · simp only [hse,decide_false,hf] at hd
      cases hw : s.writer <;> simp [accept,hv,hse,hd,hc,hw,hto,commit]

section

variable {es : List Event} {s : Store} {e : Event}

lemma Refines.keep {seen : Finset EventId} (h : Refines X es s) (hs : s.seenIds ⊆ seen)
    (hse : ∀ i ∈ seen, ∃ a ∈ es ++ [e], Verified X.toNostr a ∧ a.id = i)
    (hl : ledger X (es ++ [e]) = ledger X es) : Refines X (es ++ [e]) { s with seenIds := seen } := by
  refine ⟨?_,?_,h.replay_eq,fun a ha => hs (h.journal_seen a ha),hse⟩
  · rw [hl]
    exact h.events_eq
  · rw [hl]
    exact h.history_eq

lemma Refines.seen_append (h : Refines X es s) (i : EventId) (hi : i ∈ s.seenIds) :
    ∃ a ∈ es ++ [e], Verified X.toNostr a ∧ a.id = i := by
  obtain ⟨a,ha,hva,hid⟩ := h.seen_submitted i hi
  exact ⟨a,mem_append_left _ ha,hva,hid⟩

lemma Refines.seen_insert (h : Refines X es s) (hv : Verified X.toNostr e) (i : EventId)
    (hi : i ∈ insert e.id s.seenIds) : ∃ a ∈ es ++ [e], Verified X.toNostr a ∧ a.id = i := by
  rcases Finset.mem_insert.1 hi with rfl | hi
  · exact ⟨e,by simp,hv,rfl⟩
  · exact h.seen_append i hi

lemma Refines.ledger_of_not_stored (hco : NoCollision X.toNostr (es ++ [e]))
    (h : Refines X es s) (hd : decideEvent s.events (e.id ∈ s.seenIds) e ≠ .stored) :
    ledger X (es ++ [e]) = ledger X es := by
  by_cases had : Admitted X e
  · apply ledger_append_of_covered had
    by_cases hse : e.id ∈ s.seenIds
    · obtain ⟨a,ha,hva,hid⟩ := h.seen_submitted _ hse
      exact covered_of_id hco ha hva had hid
    · by_contra hc
      have hs := h.separated (hco.subset fun _ => mem_append_left _)
      rw [← h.events_eq] at hc
      have hst := (decideEvent_stored_iff (storedEvent X e) hs had.2).2 hc
      simp only [hse] at hd
      exact hd hst
  · simp [ledger_append,had]

lemma Refines.commit {wr : Option ByteArray} (hco : NoCollision X.toNostr es)
    (h : Refines X es s) (hv : Verified X.toNostr e)
    (hd : decideEvent s.events (e.id ∈ s.seenIds) e = .stored) :
    Refines X (es ++ [e]) (EventStore.commit X { s with writer := wr } e) := by
  have hs := h.separated hco
  have hse : e.id ∉ s.seenIds := by
    intro hse
    simp [decideEvent,hse] at hd
  simp only [hse] at hd
  have hdu : isEphemeralKind e.kind = false := by
    by_contra hep
    have he := (decideEvent_ephemeral_iff s.events e (h.fresh_id hco hse)).2 (by simpa using hep)
    simp [he] at hd
  have hc := (decideEvent_stored_iff (storedEvent X e) hs hdu).1 hd
  have hev : (applyEffectiveEvent s.events (storedEvent X e)).1 =
      place stream (storedEvent X e) s.events := by
    rw [applyEffectiveEvent_fst _ hs hdu,if_neg hc]
  have hl : ledger X (es ++ [e]) = ⟨place stream (storedEvent X e) s.events,
      s.journal.map (storedEvent X) ++ [storedEvent X e]⟩ := by
    rw [ledger_append,if_pos ⟨hv,hdu⟩,submit,← h.events_eq,if_neg hc,h.history_eq]
  refine ⟨?_,?_,?_,?_,h.seen_insert hv⟩
  · simp only [EventStore.commit,hev,hl]
  · simp only [EventStore.commit,hl,map_append,map_cons,map_nil]
  · simp only [EventStore.commit,effectiveOf,foldl_append,foldl_cons,foldl_nil]
    rw [← effectiveOf,← h.replay_eq]
  · intro a ha
    rcases mem_append.1 ha with ha | ha
    · exact Finset.mem_insert_of_mem (h.journal_seen a ha)
    · exact mem_singleton.1 ha ▸ Finset.mem_insert_self _ _

/-- Submitting an event to the store submits it to the register. -/
lemma accept_refines (hc : NoCollision X.toNostr (es ++ [e])) (hto : Serializes X e)
    (h : Refines X es s) : Refines X (es ++ [e]) (accept X .synced s e).1 := by
  rcases accept_cases s hto with ⟨hv,hs⟩ | ⟨hv,hd,hs | hs⟩ | ⟨hv,hd,hs⟩
  · have hl : ledger X (es ++ [e]) = ledger X es := by
      simp [ledger_append,show ¬ Admitted X e from fun ha => hv ha.1]
    rw [hs]
    exact h.keep (Finset.Subset.refl _) h.seen_append hl
  · rw [hs]
    exact h.keep (Finset.Subset.refl _) h.seen_append (h.ledger_of_not_stored hc hd)
  · rw [hs]
    exact h.keep (Finset.subset_insert _ _) (h.seen_insert hv) (h.ledger_of_not_stored hc hd)
  · rw [hs]
    exact h.commit (hc.subset fun _ => mem_append_left _) hv hd

end

end BuzzSolo.EventStore
