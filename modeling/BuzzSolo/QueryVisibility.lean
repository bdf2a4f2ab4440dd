import BuzzSolo.Query
import BuzzSolo.SortedSelection
import BuzzSolo.Convergence

/-! What hidden events do to answers. The relay applies each filter's limit before it drops what the
reader may not see, so an answer depends on hidden events exactly when they push a readable one
beyond every limit. -/
namespace BuzzSolo.Query

open Ingest EventStore SortedSelection List

structure Collected (events : List StoredEvent) (acc : Finset EventId × List Event) : Prop where
  ids : ∀ i, i ∈ acc.1 ↔ ∃ e ∈ acc.2, e.id = i
  mem : ∀ e ∈ acc.2, ∃ s ∈ events, s.event = e
  nodup : acc.2.Nodup

section

variable {es : List StoredEvent} (h : EffectiveSet es)
variable {acc : Finset EventId × List Event} {s : StoredEvent}

lemma mem_orderedEvents : s ∈ orderedEvents es ↔ s ∈ es := (perm_insertionSort _ _).mem_iff

variable {c : CursorFilter}

lemma mem_events_of_taken (hs : s ∈ taken c (orderedEvents es)) : s ∈ es :=
  mem_orderedEvents.1 (mem_filter.1 (mem_of_mem_take hs)).1

include h

lemma pick_collected (hc : Collected es acc) (hs : s ∈ es) :
    Collected es (pick acc s) ∧ ∀ e, e ∈ (pick acc s).2 ↔ e ∈ acc.2 ∨ e = s.event := by
  by_cases hid : s.event.id ∈ acc.1
  · obtain ⟨a,ha,hai⟩ := (hc.ids _).1 hid
    obtain ⟨t,ht,rfl⟩ := hc.mem a ha
    have hts := h.eq_of_id ht hs hai
    subst hts
    simp only [pick,hid,if_true]
    refine ⟨hc,fun e => ⟨.inl,?_⟩⟩
    rintro (he | rfl)
    · exact he
    · exact ha
  · have hnew : s.event ∉ acc.2 := fun hm => hid ((hc.ids _).2 ⟨s.event,hm,rfl⟩)
    simp only [pick,hid,if_false]
    refine ⟨⟨?_,?_,?_⟩,by simp⟩
    · intro i
      simp only [Finset.mem_insert,hc.ids,mem_append,mem_singleton,or_and_right,exists_or, exists_eq_left]
      rw [or_comm,eq_comm (a := i)]
    · intro e he
      rcases mem_append.1 he with he | he
      · exact hc.mem e he
      · exact ⟨s,hs,(mem_singleton.1 he).symm⟩
    · exact nodup_append.2 ⟨hc.nodup,by simp,by
        intro a ha b hb hab
        exact hnew (mem_singleton.1 hb ▸ hab ▸ ha)⟩

lemma foldl_pick_collected (l : List StoredEvent) (hl : ∀ s ∈ l, s ∈ es) (hc : Collected es acc) :
    Collected es (l.foldl pick acc) ∧ ∀ e, e ∈ (l.foldl pick acc).2 ↔ e ∈ acc.2 ∨ ∃ s ∈ l, s.event = e := by
  induction l generalizing acc with
  | nil => exact ⟨hc,by simp⟩
  | cons s l ih =>
    obtain ⟨hc',hm⟩ := pick_collected h hc (hl s (by simp))
    obtain ⟨hout,hi⟩ := ih (fun t ht => hl t (by simp [ht])) hc'
    refine ⟨hout,fun e => ?_⟩
    rw [foldl_cons,hi,hm]
    simp only [mem_cons,or_and_right,exists_or,exists_eq_left,eq_comm (a := e),or_assoc]

lemma selectMatches_spec (fls : List CursorFilter) : (selectMatches (orderedEvents es) fls).Nodup ∧
      ∀ e, e ∈ selectMatches (orderedEvents es) fls ↔
        ∃ c ∈ fls, ∃ s ∈ taken c (orderedEvents es), s.event = e := by
  have hrun : ∀ acc, Collected es acc → Collected es (fls.foldl
        (fun acc c => (taken c (orderedEvents es)).foldl pick acc) acc) ∧ ∀ e, e ∈ (fls.foldl
          (fun acc c => (taken c (orderedEvents es)).foldl pick acc) acc).2 ↔
        e ∈ acc.2 ∨ ∃ c ∈ fls, ∃ s ∈ taken c (orderedEvents es), s.event = e := by
    induction fls with
    | nil => exact fun acc hc => ⟨hc,by simp⟩
    | cons c fls ih =>
      intro acc hc
      obtain ⟨hc',hm⟩ := foldl_pick_collected h (taken c (orderedEvents es))
        (fun s hs => mem_events_of_taken hs) hc
      obtain ⟨hout,hi⟩ := ih _ hc'
      refine ⟨hout,fun e => ?_⟩
      rw [foldl_cons,hi,hm]
      simp only [mem_cons,or_and_right,exists_or,exists_eq_left,or_assoc]
  obtain ⟨hout,hi⟩ := hrun (∅,[]) ⟨by simp,by simp,by simp⟩
  exact ⟨hout.nodup,fun e => by simpa [selectMatches] using hi e⟩

/-- An accepted query answers with the events its filters take, each once and newest first. -/
lemma queryWithCursors_spec {fls : List CursorFilter} (hc : checkCursors fls = .ok ()) :
    ∃ answer, queryWithCursors es fls = .ok answer ∧ answer.Pairwise NewestFirst ∧
      answer.Nodup ∧ ∀ e, e ∈ answer ↔ ∃ c ∈ fls, ∃ s ∈ taken c (orderedEvents es), s.event = e := by
  cases fls with
  | nil => exact ⟨[],by simp [queryWithCursors,hc],by simp,by simp,by simp⟩
  | cons c fls =>
    obtain ⟨hn,hm⟩ := selectMatches_spec h (c :: fls)
    have hp := perm_insertionSort NewestFirst (selectMatches (orderedEvents es) (c :: fls))
    exact ⟨_,by simp only [queryWithCursors,hc]; rfl,pairwise_insertionSort _ _,
      hp.nodup_iff.2 hn,fun e => hp.mem_iff.trans (hm e)⟩

lemma stored_antisymm : ∀ a ∈ es, ∀ b ∈ es, StoredNewestFirst a b → StoredNewestFirst b a → a = b :=
  fun _ ha _ hb hab hba => h.eq_of_id ha hb (id_eq_of_newestFirst hab hba)

lemma event_antisymm : ∀ a ∈ es.map StoredEvent.event, ∀ b ∈ es.map StoredEvent.event,
    NewestFirst a b → NewestFirst b a → a = b := by
  intro a ha b hb hab hba
  obtain ⟨s,hs,rfl⟩ := mem_map.1 ha
  obtain ⟨t,ht,rfl⟩ := mem_map.1 hb
  rw [h.eq_of_id hs ht (id_eq_of_newestFirst hab hba)]

lemma pairwise_orderedEvents : (orderedEvents es).Pairwise fun a b => rank b.event < rank a.event := by
  have hs : (orderedEvents es).Pairwise StoredNewestFirst := pairwise_insertionSort _ _
  have hi : (orderedEvents es).Pairwise fun a b => a.event.id ≠ b.event.id :=
    pairwise_map.1 (((perm_insertionSort _ _).map _).nodup_iff.2 h.nodup)
  apply (hs.and hi).imp
  rintro a b ⟨hab,hne⟩
  exact lt_of_le_of_ne ((newestFirst_iff _ _).1 hab) fun heq => hne (rank_inj _ _ heq.symm)

lemma queryWithCursors_singleton (hc : checkCursors [c] = .ok ()) : queryWithCursors es [c] =
      .ok ((taken c (orderedEvents es)).map StoredEvent.event) := by
  obtain ⟨answer,han,hso,hn,hm⟩ := queryWithCursors_spec h hc
  have hm' : ∀ e, e ∈ answer ↔ e ∈ (taken c (orderedEvents es)).map StoredEvent.event := by
    intro e
    rw [hm]
    simp
  have ht : ((taken c (orderedEvents es)).map StoredEvent.event).Pairwise
      fun a b => rank b < rank a :=
    pairwise_map.2 ((pairwise_orderedEvents h).sublist ((take_sublist _ _).trans filter_sublist))
  have hat : ∀ a ∈ answer, ∀ b ∈ answer, NewestFirst a b → NewestFirst b a → a = b := by
    have hin : ∀ e ∈ answer, e ∈ es.map StoredEvent.event := by
      intro e he
      obtain ⟨s,hs,rfl⟩ := mem_map.1 ((hm' e).1 he)
      exact mem_map_of_mem (mem_events_of_taken hs)
    exact fun a ha b hb => event_antisymm h a (hin a ha) b (hin b hb)
  rw [han,eq_of_mem_iff hat hso (ht.imp fun hlt => (newestFirst_iff _ _).2 hlt.le)
    hn (ht.imp fun hlt heq => absurd (heq ▸ hlt) (lt_irrefl _)) hm']

end

section

variable (R : Relay) (principal : Option Principal) (filters : List CursorFilter)

def readable (events : List StoredEvent) : List StoredEvent :=
  events.filter fun s => eventIsVisible R principal s.event

/-- Some filter's limit has room for the event among its readable matches, and no filter's
limit has room for it among all its matches. -/
def CrowdedOut (events : List StoredEvent) (x : StoredEvent) : Prop :=
  (∃ c ∈ filters, x ∈ taken c (orderedEvents (readable R principal events))) ∧
    ∀ d ∈ filters, x ∉ taken d (orderedEvents events)

def Refused : Prop := authorizeQuery R principal ≠ .ok () ∨ checkCursors filters ≠ .ok ()

instance (events : List StoredEvent) (x : StoredEvent) :
    Decidable (CrowdedOut R principal filters events x) := inferInstanceAs (Decidable (_ ∧ _))

variable {R principal filters} {es o : List StoredEvent} (h : EffectiveSet es)

variable {answer : List Event}

variable {e : Event}

lemma readable_of_shown (hm : ∀ e, e ∈ answer ↔ ∃ c ∈ filters, ∃ s ∈ taken c (orderedEvents es), s.event = e)
    (he : e ∈ answer.filter (eventIsVisible R principal)) :
    ∃ x ∈ readable R principal es, x.event = e := by
  obtain ⟨hin,hv⟩ := mem_filter.1 he
  obtain ⟨c,-,x,hx,rfl⟩ := (hm e).1 hin
  exact ⟨x,mem_filter.2 ⟨mem_events_of_taken hx,hv⟩,rfl⟩

include h

lemma orderedEvents_readable : orderedEvents (readable R principal es) =
    (orderedEvents es).filter fun s => eventIsVisible R principal s.event :=
  (filter_insertionSort _ (stored_antisymm h)).symm

lemma taken_readable {c : CursorFilter} {s : StoredEvent}
    (hs : s ∈ taken c (orderedEvents es)) (hv : eventIsVisible R principal s.event = true) :
    s ∈ taken c (orderedEvents (readable R principal es)) := by
  rw [orderedEvents_readable h,taken,filter_comm]
  exact mem_take_filter _ hs hv

variable {x : StoredEvent}

/-- A readable event is taken unless the limits take it from the readable ones only. -/
lemma taken_iff_not_crowdedOut (hx : x ∈ readable R principal es) :
    (∃ d ∈ filters, x ∈ taken d (orderedEvents es)) ↔
      (∃ c ∈ filters, x ∈ taken c (orderedEvents (readable R principal es))) ∧
        ¬ CrowdedOut R principal filters es x := by
  have hv : eventIsVisible R principal x.event = true := (mem_filter.1 hx).2
  constructor
  · rintro ⟨d,hd,hxd⟩
    exact ⟨⟨d,hd,taken_readable h hxd hv⟩,fun hout => hout.2 d hd hxd⟩
  · rintro ⟨hr,hout⟩
    by_contra hn
    exact hout ⟨hr,fun d hd hxd => hn ⟨d,hd,hxd⟩⟩

/-- The readable events that are shown are those that some filter takes. -/
lemma mem_shown (hm : ∀ e, e ∈ answer ↔ ∃ c ∈ filters, ∃ s ∈ taken c (orderedEvents es), s.event = e)
    (hx : x ∈ readable R principal es) :
    x.event ∈ answer.filter (eventIsVisible R principal) ↔ ∃ d ∈ filters, x ∈ taken d (orderedEvents es) := by
  obtain ⟨hxe,hv⟩ := mem_filter.1 hx
  rw [mem_filter,hm]
  constructor
  · rintro ⟨⟨c,hc,y,hy,hyx⟩,-⟩
    have hxy : y = x := h.eq_of_id (mem_events_of_taken hy) hxe (by rw [hyx])
    exact ⟨c,hc,hxy ▸ hy⟩
  · rintro ⟨d,hd,hxd⟩
    exact ⟨⟨d,hd,x,hxd,rfl⟩,hv⟩

/-- Two stores with the same readable events show the same exactly when the same readable
events are crowded out of them. -/
lemma shown_eq_iff (ho : EffectiveSet o) (hsa : (readable R principal es).Perm (readable R principal o))
    {answer' : List Event} (hs : answer.Pairwise NewestFirst)
    (hs' : answer'.Pairwise NewestFirst) (hn : answer.Nodup) (hn' : answer'.Nodup)
    (hm : ∀ e, e ∈ answer ↔ ∃ c ∈ filters, ∃ s ∈ taken c (orderedEvents es), s.event = e)
    (hm' : ∀ e, e ∈ answer' ↔ ∃ c ∈ filters, ∃ s ∈ taken c (orderedEvents o), s.event = e) :
    answer.filter (eventIsVisible R principal) = answer'.filter (eventIsVisible R principal) ↔
      ∀ x ∈ readable R principal es, CrowdedOut R principal filters es x ↔
        CrowdedOut R principal filters o x := by
  have hre : EffectiveSet (readable R principal es) := h.filter _
  have hor : orderedEvents (readable R principal es) =
      orderedEvents (readable R principal o) := eq_of_perm (stored_antisymm hre) hsa
  have hsh : ∀ x ∈ readable R principal es, (x.event ∈ answer.filter (eventIsVisible R principal) ↔
        x.event ∈ answer'.filter (eventIsVisible R principal)) ↔
      (CrowdedOut R principal filters es x ↔ CrowdedOut R principal filters o x) := by
    intro x hx
    have hx' := hsa.mem_iff.1 hx
    rw [mem_shown h hm hx,mem_shown ho hm' hx',taken_iff_not_crowdedOut h hx,
      taken_iff_not_crowdedOut ho hx',← hor]
    by_cases hr : ∃ c ∈ filters, x ∈ taken c (orderedEvents (readable R principal es))
    · simp only [hr,true_and,not_iff_not]
    · have hev : ¬ CrowdedOut R principal filters es x := fun hout => hr hout.1
      have hot : ¬ CrowdedOut R principal filters o x := by
        intro hout
        apply hr
        rw [hor]
        exact hout.1
      simp only [hr,hev,hot,false_and]
  constructor
  · intro heq x hx
    exact (hsh x hx).1 (by rw [heq])
  · intro hal
    refine eq_of_mem_iff ?_ (hs.filter _) (hs'.filter _) (hn.filter _) (hn'.filter _) ?_
    · intro a ha b hb
      obtain ⟨x,hx,rfl⟩ := readable_of_shown hm ha
      obtain ⟨y,hy,rfl⟩ := readable_of_shown hm hb
      exact event_antisymm hre _ (mem_map_of_mem hx) _ (mem_map_of_mem hy)
    · intro e
      constructor
      · intro he
        obtain ⟨x,hx,rfl⟩ := readable_of_shown hm he
        exact ((hsh x hx).2 (hal x hx)).1 he
      · intro he
        obtain ⟨x,hx,rfl⟩ := readable_of_shown hm' he
        have hx' := hsa.mem_iff.2 hx
        exact ((hsh x hx').2 (hal x hx')).2 he

omit h

variable {s : Store}

lemma countFor_eq {t : Store} (plain : List Filter)
    (hs : (readable R principal s.events).Perm (readable R principal t.events)) :
    countFor R s principal plain = countFor R t principal plain := by
  have hl : ((s.events.filter (Filter.filtersMatch plain)).filter
        fun x => eventIsVisible R principal x.event).length =
          ((t.events.filter (Filter.filtersMatch plain)).filter
        fun x => eventIsVisible R principal x.event).length := by
    rw [filter_comm,filter_comm (l := t.events)]
    exact (hs.filter _).length_eq
  simp only [countFor,hl]

variable {X : Crates}

lemma pulsePart_kind {plain : List Filter}
    (he : e ∈ pulsePart X R s principal plain) : isEphemeralKind e.kind = true := by
  simp only [pulsePart] at he
  split at he
  · cases hp : R.currentPulse s with
    | none => simp [hp] at he
    | some pulse =>
      have hep : e = pulse := by
        simp only [hp] at he
        split at he
        · exact mem_singleton.1 he
        · simp at he
      rw [hep,R.currentPulse_kind s pulse hp]
      decide
  · simp at he

lemma append_eq_append_iff {a b x y : List Event}
    (ha : ∀ e ∈ a, isEphemeralKind e.kind = true) (hb : ∀ e ∈ b, isEphemeralKind e.kind = true)
    (hx : ∀ e ∈ x, isEphemeralKind e.kind = false) (hy : ∀ e ∈ y, isEphemeralKind e.kind = false) :
    a ++ x = b ++ y ↔ a = b ∧ x = y := by
  constructor
  · intro heq
    have hs : ∀ l r : List Event, (∀ e ∈ l, isEphemeralKind e.kind = true) →
        (∀ e ∈ r, isEphemeralKind e.kind = false) → (l ++ r).filter (fun e => isEphemeralKind e.kind) =
          l := by
      intro l r hl hr
      have hr' : r.filter (fun e => isEphemeralKind e.kind) = [] := by
        rw [filter_eq_nil_iff]
        exact fun e he => by simp [hr e he]
      rw [filter_append,filter_eq_self.2 hl,hr',append_nil]
    have hab : a = b := by rw [← hs a x ha hx,heq,hs b y hb hy]
    subst hab
    exact ⟨rfl,append_cancel_left heq⟩
  · rintro ⟨rfl,rfl⟩
    rfl

lemma queryForCursors_of_refused (s t : Store) (hr : Refused R principal filters) :
    queryForCursors X R s principal filters = queryForCursors X R t principal filters := by
  simp only [queryForCursors]
  rcases hr with hau | hch
  · cases ha : authorizeQuery R principal with
    | error e => rfl
    | ok u => exact absurd ha hau
  · cases hc : checkCursors filters with
    | error e => simp [queryWithCursors,hc]
    | ok u => exact absurd hc hch

end

/-- Noninterference of reads. Two stores with the same readable events count the same.
They answer the same exactly when the request is refused, or the pulse is the same and the
same readable events are crowded out of both. -/
theorem query_noninterference (X : Crates) (R : Relay) (principal : Option Principal)
    (filters : List CursorFilter) (plain : List Filter) (s t : Store)
    (hs : EffectiveSet s.events) (ht : EffectiveSet t.events)
    (hsame : (readable R principal s.events).Perm (readable R principal t.events)) :
    countFor R s principal plain = countFor R t principal plain ∧
    (queryForCursors X R s principal filters = queryForCursors X R t principal filters ↔
      Refused R principal filters ∨ (pulsePart X R s principal (filters.map CursorFilter.filter) =
          pulsePart X R t principal (filters.map CursorFilter.filter) ∧
        ∀ x ∈ readable R principal s.events, CrowdedOut R principal filters s.events x ↔
          CrowdedOut R principal filters t.events x)) := by
  refine ⟨countFor_eq plain hsame,?_⟩
  by_cases hr : Refused R principal filters
  · simp [hr,queryForCursors_of_refused s t hr]
  · have ha : authorizeQuery R principal = .ok () := by
      by_contra hne
      exact hr (.inl hne)
    have hc : checkCursors filters = .ok () := by
      by_contra hne
      exact hr (.inr hne)
    obtain ⟨answer,hq,hso,hn,hm⟩ := queryWithCursors_spec hs hc
    obtain ⟨answer',hq',hso',hn',hm'⟩ := queryWithCursors_spec ht hc
    have hsh := shown_eq_iff hs ht hsame hso hso'
      hn hn' hm hm'
    have hd : ∀ {u : Store} {a : List Event}, EffectiveSet u.events →
        (∀ e, e ∈ a ↔ ∃ c ∈ filters, ∃ s ∈ taken c (orderedEvents u.events), s.event = e) →
        ∀ e ∈ a.filter (eventIsVisible R principal), isEphemeralKind e.kind = false := by
      intro u a hu hua e he
      obtain ⟨x,hx,rfl⟩ := readable_of_shown hua he
      exact hu.durable x (mem_filter.1 hx).1
    simp only [queryForCursors,ha,hq,hq',hr,false_or,Except.ok.injEq]
    rw [append_eq_append_iff (fun _ => pulsePart_kind) (fun _ => pulsePart_kind) (hd hs hm)
      (hd ht hm'),hsh]

def reminder : Event where
  pubkey := secondKey
  createdAt := 1700000500
  kind := 30300
  tags := [⟨"d",["r1"]⟩]
  content := "sealed"
  id := .ofNat 32 0x8bdf4504545d6b2de39d0bbc69409edbc6b66d2fe9ead8f315a01693c4c3d3a0
  sig := .ofNat 64 0xc24eb21352b07d0ceee0e07a37f0ba7ded52a19130c18ef9f8fcd197fa46af8282d9737f80f67b334a20fb5165697232e02273a0e0e76b29e78d23c975c457fb

def queryCrates : Crates := signedOnly [note,reminder] fun _ => none

def identityRelay : Relay := ⟨some [],none,fun _ => none,noPulse_kind⟩

def thirdReader : Principal := .nostr thirdKey

def openFilter (limit : ℕ) : CursorFilter := ⟨{ Filter.new with limit := some limit },none⟩

lemma acceptAll_effectiveSet (X : Crates) (wr : Option ByteArray) (es : List Event) :
    EffectiveSet (acceptAll X wr es).events := by
  induction es using reverseRecOn with
  | nil => exact effectiveSet_nil
  | append_singleton es e ih =>
    simpa [acceptAll] using accept_effectiveSet X .synced ih e

/-- With room for two events the reader is shown the note beside the hidden reminder. -/
theorem query_noninterference_note :
    countFor identityRelay (acceptAll queryCrates none [note,reminder]) (some thirdReader)
        [(openFilter 2).filter] = countFor identityRelay (acceptAll queryCrates none [note])
        (some thirdReader)
        [(openFilter 2).filter] ∧
    queryForCursors queryCrates identityRelay (acceptAll queryCrates none [note,reminder])
        (some thirdReader) [openFilter 2] =
      queryForCursors queryCrates identityRelay (acceptAll queryCrates none [note])
        (some thirdReader) [openFilter 2] := by
  obtain ⟨hc,hq⟩ := query_noninterference queryCrates identityRelay (some thirdReader)
    [openFilter 2] [(openFilter 2).filter] (acceptAll queryCrates none [note,reminder])
    (acceptAll queryCrates none [note]) (acceptAll_effectiveSet _ _ _) (acceptAll_effectiveSet _ _ _)
    (by decide +kernel)
  exact ⟨hc,hq.2 (.inr ⟨by decide +kernel,by decide +kernel⟩)⟩

/-- With room for one event the hidden reminder takes it, and the reader is shown nothing. -/
theorem hidden_event_takes_limit :
    (readable identityRelay (some thirdReader) (acceptAll queryCrates none [note,reminder]).events) =
      readable identityRelay (some thirdReader) (acceptAll queryCrates none [note]).events ∧
    queryForCursors queryCrates identityRelay (acceptAll queryCrates none [note,reminder])
        (some thirdReader) [openFilter 1] = .ok [] ∧
    queryForCursors queryCrates identityRelay (acceptAll queryCrates none [note])
        (some thirdReader) [openFilter 1] = .ok [note] := by
  decide +kernel

end BuzzSolo.Query
