import BuzzSolo.AdmitDomain
import BuzzSolo.PagedScan

/-! Paging of the command-line client over the laptop relay. The client stops at the first page
shorter than five hundred events; the relay limits a page before it drops what the reader may not
see, so a hidden match makes its page short. -/
namespace BuzzSolo.ClientPaging

open Ingest EventStore Query PagedScan List

def queryPageSize : ℕ := 500

def advanceQueryCursor (c : CursorFilter) (last : Event) : CursorFilter :=
  ⟨{ c.filter with untilTime := some last.createdAt },some last.id⟩

def withLimit (c : CursorFilter) (limit : ℕ) : CursorFilter :=
  { c with filter := { c.filter with limit := some limit } }

/-- The paging loop, with `answer` for the relay's reply to one query. There is no result
when the fuel runs out, or on a full page without a last event, where the source panics. -/
def queryPages (answer : CursorFilter → Except ApiError (List Event)) (limit : Option ℕ) :
    ℕ → CursorFilter → List Event → Option (Except ApiError (List Event))
  | 0, _, _ => none
  | fuel+1, c, events =>
    if limit.all fun limit => events.length < limit then
      let pageLimit := (limit.map fun limit => min (limit - events.length) queryPageSize).getD
        queryPageSize
      match answer (withLimit c pageLimit) with
      | .error e => some (.error e)
      | .ok page =>
        if page.length < pageLimit then some (.ok (events ++ page))
        else match page.getLast? with
          | none => none
          | some last =>
            queryPages answer limit fuel (advanceQueryCursor (withLimit c pageLimit) last) (events ++ page)
    else some (.ok events)

def queryAll (X : Crates) (R : Relay) (s : Store) (principal : Option Principal) (fuel : ℕ)
    (f : Filter) : Option (Except ApiError (List Event)) :=
  queryPages (fun c => queryForCursors X R s principal [c]) none fuel ⟨f,none⟩ []

def matching (f : Filter) (events : List StoredEvent) : List StoredEvent :=
  (orderedEvents events).filter (Filter.filterMatchOne f)

def visible (R : Relay) (principal : Option Principal) (stored : StoredEvent) : Bool :=
  eventIsVisible R principal stored.event

/-- The matches older than the page of the newest hidden match. -/
def unreached (R : Relay) (principal : Option Principal) (f : Filter) (events : List StoredEvent) :
    List StoredEvent :=
  (matching f events).drop (reach (visible R principal) queryPageSize (matching f events))

section

variable {c : CursorFilter} {last sto : StoredEvent}

lemma filterMatchOne_until (f : Filter) (untilTime : Option ℕ) (sto : StoredEvent) :
    Filter.filterMatchOne { f with untilTime := untilTime } sto =
      (Filter.filterMatchOne { f with untilTime := none } sto &&
        untilTime.all fun t => decide (sto.event.createdAt ≤ t)) := by
  cases untilTime with
  | none => simp
  | some t =>
    rw [Bool.eq_iff_iff]
    simp only [Filter.filterMatchOne,Option.all_some,Bool.and_eq_true,Bool.not_eq_true',
      decide_eq_false_iff_not,not_lt,decide_eq_true_eq]
    tauto

lemma admits_iff : admits c sto = true ↔
    Filter.filterMatchOne { c.filter with untilTime := none } sto = true ∧
      (∀ t, c.filter.untilTime = some t → sto.event.createdAt ≤ t) ∧ cursorAdmits c sto.event = true := by
  have hs := filterMatchOne_until c.filter c.filter.untilTime sto
  simp only [admits,Filter.filtersMatch,any_cons,any_nil,Bool.or_false,hs,
    Bool.and_eq_true,Option.all_eq_true,decide_eq_true_eq,and_assoc]

lemma cursorAdmits_of_older {older newer : Event} (h : cursorAdmits c newer = true)
    (hlt : rank older < rank newer) : cursorAdmits c older = true := by
  rw [← replacementCandidateWins_iff] at hlt
  cases hb : c.beforeId with
  | none => simp [cursorAdmits,hb]
  | some beforeId =>
    cases ht : c.filter.untilTime with
    | none => simp [cursorAdmits,hb,ht] at h
    | some t =>
      simp only [cursorAdmits,hb,ht,replacementCandidateWins,Bool.or_eq_true,Bool.and_eq_true,
        decide_eq_true_eq] at h hlt ⊢
      rcases hlt with hlt | ⟨heq,hid⟩
      · rcases h with h | ⟨h,-⟩
        · exact .inl (hlt.trans h)
        · exact .inl (h ▸ hlt)
      · rcases h with h | ⟨h,hn⟩
        · exact .inl (heq ▸ h)
        · exact .inr ⟨heq ▸ h,hn.trans hid⟩

lemma admits_advanceQueryCursor (h : admits c last = true) : admits (advanceQueryCursor c last.event) sto =
      (admits c sto && decide (rank sto.event < rank last.event)) := by
  obtain ⟨-,hu,hc⟩ := admits_iff.1 h
  rw [Bool.eq_iff_iff,Bool.and_eq_true,decide_eq_true_eq,admits_iff,admits_iff]
  have hn : cursorAdmits (advanceQueryCursor c last.event) sto.event = true ↔
      rank sto.event < rank last.event := by
    rw [← replacementCandidateWins_iff]
    simp only [cursorAdmits,advanceQueryCursor,replacementCandidateWins, eq_comm (a := last.event.createdAt)]
  rw [hn]
  constructor
  · rintro ⟨hm,hti,hlt⟩
    refine ⟨⟨hm,?_,cursorAdmits_of_older hc hlt⟩,hlt⟩
    intro t ht
    exact (hti last.event.createdAt rfl).trans (hu t ht)
  · rintro ⟨⟨hm,-,-⟩,hlt⟩
    refine ⟨hm,?_,hlt⟩
    intro t ht
    have hl : last.event.createdAt = t := Option.some.inj ht
    rw [← replacementCandidateWins_iff] at hlt
    simp only [replacementCandidateWins,Bool.or_eq_true,Bool.and_eq_true,decide_eq_true_eq] at hlt
    omega

lemma admits_of_rest {ordered fr rest : List StoredEvent}
    (h : ordered.filter (admits c) = fr ++ last :: rest) : admits c last = true := by
  have hm : last ∈ ordered.filter (admits c) := by simp [h]
  exact (mem_filter.1 hm).2

lemma filter_advanceQueryCursor {es fr rest : List StoredEvent} (hs : EffectiveSet es)
    (h : (orderedEvents es).filter (admits c) = fr ++ last :: rest) :
    (orderedEvents es).filter (admits (advanceQueryCursor c last.event)) = rest := by
  have hso : (fr ++ last :: rest).Pairwise fun a b => rank b.event < rank a.event := by
    rw [← h]
    exact (pairwise_orderedEvents hs).filter _
  have ha : admits (advanceQueryCursor c last.event) = fun sto =>
      decide (rank sto.event < rank last.event) && admits c sto := by
    funext sto
    rw [admits_advanceQueryCursor (admits_of_rest h),Bool.and_comm]
  rw [ha,← filter_filter,h]
  exact filter_after hso

end

section

variable {X : Crates} {R : Relay} {s : Store} {prin : Option Principal} {c : CursorFilter}

/-- The relay answers the cursor from the events `rest`, without an error and without a
pulse. -/
structure Continues (X : Crates) (R : Relay) (s : Store) (principal : Option Principal)
    (c : CursorFilter) (rest : List StoredEvent) : Prop where
  rest : (orderedEvents s.events).filter (admits c) = rest
  check : checkCursors [c] = .ok ()
  quiet : pulsePart X R s principal [c.filter] = []

lemma pulsePart_withLimit (lm : ℕ) : pulsePart X R s prin [(withLimit c lm).filter] =
      pulsePart X R s prin [c.filter] := by
  have has : asksForPulse (withLimit c lm).filter = asksForPulse c.filter := rfl
  cases ha : asksForPulse c.filter with
  | false => simp [pulsePart,has,ha]
  | true =>
    simp only [pulsePart,filter_cons,has,ha]
    rfl

lemma Continues.withLimit {rest : List StoredEvent} (h : Continues X R s prin c rest)
    (lm : ℕ) : Continues X R s prin (withLimit c lm) rest :=
  ⟨h.rest,h.check,(pulsePart_withLimit lm).trans h.quiet⟩

lemma checkCursors_singleton : checkCursors [c] = .ok () ↔
    (c.beforeId.isSome = true → c.filter.untilTime.isSome = true) ∧ c.filter.search = none := by
  cases hb : c.beforeId <;> cases ht : c.filter.untilTime <;> cases hs : c.filter.search <;>
    simp [checkCursors,validateFilters,hb,ht,hs]

lemma pulsePart_of_narrower {f g : Filter} (hk : f.kinds = g.kinds)
    (hm : ∀ stored, Filter.filterMatchOne f stored = true → Filter.filterMatchOne g stored = true)
    (h : pulsePart X R s prin [g] = []) : pulsePart X R s prin [f] = [] := by
  have has : asksForPulse f = asksForPulse g := by simp [asksForPulse,hk]
  cases ha : asksForPulse g with
  | false => simp [pulsePart,has,ha]
  | true =>
    cases hv : pulseVisibleTo R prin with
    | false => simp [pulsePart,hv]
    | true =>
      cases hp : R.currentPulse s with
      | none => simp [pulsePart,hp]
      | some pulse =>
        simp only [pulsePart,filter_cons,has,ha,hv,hp,Filter.filtersMatch,any_cons,if_true,filter_nil,
          isEmpty_cons,Bool.not_false,Bool.and_self,any_nil,Bool.or_false,ite_eq_right_iff] at h ⊢
        exact fun hf => h (hm _ hf)

variable (hs : EffectiveSet s.events)
include hs

lemma Continues.advance {fr rest : List StoredEvent} {last : StoredEvent}
    (h : Continues X R s prin c (fr ++ last :: rest)) :
    Continues X R s prin (advanceQueryCursor c last.event) rest := by
  have hl : admits c last = true := admits_of_rest h.rest
  refine ⟨filter_advanceQueryCursor hs h.rest,?_,?_⟩
  · exact checkCursors_singleton.2 ⟨fun _ => rfl,(checkCursors_singleton.1 h.check).2⟩
  · refine pulsePart_of_narrower (g := c.filter) rfl ?_ h.quiet
    intro stored hm
    have hu := (admits_iff.1 hl).2.1
    have hsp := filterMatchOne_until c.filter c.filter.untilTime stored
    have hn := filterMatchOne_until c.filter (some last.event.createdAt) stored
    have hb := hn.symm.trans hm
    simp only [Option.all_some,Bool.and_eq_true,decide_eq_true_eq] at hb
    rw [hsp,hb.1,Bool.true_and]
    cases ht : c.filter.untilTime with
    | none => rfl
    | some t => simpa using hb.2.trans (hu t ht)

/-- One page: the visible ones among the first events that are left. -/
lemma queryForCursors_page (ha : authorizeQuery R prin = .ok ()) {rest : List StoredEvent}
    (h : Continues X R s prin c rest) (lm : ℕ) (hl : lm ≤ maxQueryLimit) :
    queryForCursors X R s prin [withLimit c lm] =
      .ok (((rest.take lm).filter (visible R prin)).map StoredEvent.event) := by
  have hp := h.withLimit lm
  have ht : taken (withLimit c lm) (orderedEvents s.events) = rest.take lm := by
    rw [taken,hp.rest]
    simp [queryLimit,ClientPaging.withLimit,hl]
  simp only [queryForCursors,ha,queryWithCursors_singleton hs hp.check,map_cons,
    map_nil,hp.quiet,ht,filter_map]
  rfl

/-- From any point on, the loop collects what a paged scan of the rest shows. -/
lemma queryPages_eq (ha : authorizeQuery R prin = .ok ())
    (fuel : ℕ) (c : CursorFilter) (rest : List StoredEvent) (es : List Event)
    (h : Continues X R s prin c rest) (hfu : rest.length < fuel) :
    queryPages (fun c => queryForCursors X R s prin [c]) none fuel c es =
      some (.ok (es ++ (scan (visible R prin) queryPageSize rest).map StoredEvent.event)) := by
  induction fuel generalizing c rest es with
  | zero => omega
  | succ fuel ih =>
    have hp := queryForCursors_page hs ha h queryPageSize (by decide)
    simp only [queryPages,Option.all_none,if_true,Option.map_none,Option.getD_none,hp, length_map]
    by_cases hsh : ((rest.take queryPageSize).filter (visible R prin)).length < queryPageSize
    · rw [if_pos hsh,scan_short hsh]
    · have hf := not_lt.1 hsh
      obtain ⟨hle,hal⟩ := full_page hf
      have hne : rest.take queryPageSize ≠ [] := by
        apply ne_nil_of_length_pos
        rw [length_take,Nat.min_eq_left hle]
        decide
      obtain ⟨fr,last,hl⟩ : ∃ fr last, rest.take queryPageSize = fr ++ [last] :=
        ⟨_,_,(dropLast_append_getLast hne).symm⟩
      have hsp : rest = fr ++ last :: rest.drop queryPageSize := by
        conv_lhs => rw [← take_append_drop queryPageSize rest,hl]
        simp
      have hn := (h.withLimit queryPageSize)
      rw [hsp] at hn
      have hd : (rest.drop queryPageSize).length < fuel := by
        have hpo : 0 < queryPageSize := by decide
        rw [length_drop]
        omega
      have hl' : ((rest.take queryPageSize).map StoredEvent.event).getLast? = some last.event := by
        simp [hl]
      rw [if_neg hsh,filter_eq_self.2 hal,hl',scan_full (by decide) hf,map_append, ← append_assoc]
      exact ih _ _ _ (hn.advance hs) hd

omit hs

lemma queryPages_subset {ans : CursorFilter → Except ApiError (List Event)} {lm : Option ℕ}
    {fuel : ℕ} {c : CursorFilter} {es res : List Event}
    (h : queryPages ans lm fuel c es = some (.ok res)) : ∀ e ∈ es, e ∈ res := by
  induction fuel generalizing c es with
  | zero => simp [queryPages] at h
  | succ fuel ih =>
    intro e he
    have hin : ∀ page, e ∈ es ++ page := fun page => mem_append_left _ he
    simp only [queryPages] at h
    split at h
    · split at h
      · simp at h
      · rename_i page hp
        split at h
        · have hr : es ++ page = res := by simpa using h
          exact hr ▸ hin page
        · split at h
          · simp at h
          · exact ih h e (hin page)
    · have hr : es = res := by simpa using h
      exact hr ▸ he

end

section

variable {X : Crates} {R : Relay} {s : Store} {prin : Option Principal} {f : Filter} {fuel : ℕ}

lemma continues_start (hs : f.search = none) (hp : pulsePart X R s prin [f] = []) :
    Continues X R s prin ⟨f,none⟩ (matching f s.events) := by
  refine ⟨?_,checkCursors_singleton.2 ⟨by simp,hs⟩,hp⟩
  have ha : admits ⟨f,none⟩ = Filter.filterMatchOne f := by
    funext stored
    simp [admits,cursorAdmits,Filter.filtersMatch]
  rw [ha,matching]

lemma length_matching_le (f : Filter) (es : List StoredEvent) : (matching f es).length ≤ es.length := by
  have hp := (perm_insertionSort StoredNewestFirst es).length_eq
  exact (length_filter_le _ _).trans hp.le

lemma nodup_matching (h : EffectiveSet s.events) (f : Filter) :
    ((matching f s.events).map StoredEvent.event).Nodup :=
  pairwise_map.2 (((pairwise_orderedEvents h).filter _).imp
    fun hlt heq => absurd (heq ▸ hlt) (lt_irrefl _))

lemma queryAll_eq (hs : EffectiveSet s.events) (ha : authorizeQuery R prin = .ok ())
    (hse : f.search = none) (hp : pulsePart X R s prin [f] = [])
    (hf : s.events.length < fuel) :
    queryAll X R s prin fuel f = some (.ok ((scan (visible R prin) queryPageSize
      (matching f s.events)).map StoredEvent.event)) := by
  rw [queryAll,queryPages_eq hs ha fuel _ _ [] (continues_start hse hp)
    ((length_matching_le f s.events).trans_lt hf),nil_append]

lemma search_eq_none {es : List Event} (ha : authorizeQuery R prin = .ok ())
    (h : queryAll X R s prin fuel f = some (.ok es)) : f.search = none := by
  by_contra hso
  have hc : checkCursors [withLimit ⟨f,none⟩ queryPageSize] = .error .searchUnsupported := by
    cases hs : f.search with
    | none => exact absurd hs hso
    | some t => simp [checkCursors,validateFilters,withLimit,hs]
  cases fuel with
  | zero => simp [queryAll,queryPages] at h
  | succ fuel => simp [queryAll,queryPages,queryForCursors,queryWithCursors,ha,hc] at h

lemma pulse_mem {es : List Event} (ha : authorizeQuery R prin = .ok ())
    (h : queryAll X R s prin fuel f = some (.ok es)) : ∀ e ∈ pulsePart X R s prin [f], e ∈ es := by
  intro e he
  cases fuel with
  | zero => simp [queryAll,queryPages] at h
  | succ fuel =>
    simp only [queryAll,queryPages,Option.all_none,if_true,Option.map_none,Option.getD_none] at h
    cases hp : queryForCursors X R s prin [withLimit ⟨f,none⟩ queryPageSize] with
    | error error => simp [hp] at h
    | ok page =>
      have hin : e ∈ page := by
        simp only [queryForCursors,ha] at hp
        split at hp
        · simp at hp
        · rw [← Except.ok.inj hp]
          have hpu : pulsePart X R s prin [(withLimit ⟨f,none⟩ queryPageSize).filter] =
              pulsePart X R s prin [f] := pulsePart_withLimit queryPageSize
          exact mem_append_left _ (hpu ▸ he)
      simp only [hp] at h
      split at h
      · have hr : page = es := by simpa using h
        exact hr ▸ hin
      · split at h
        · simp at h
        · exact queryPages_subset h e hin

end

/-- Paging is complete, each event once, exactly when the relay answers the filter at all and
without its pulse, and every visible match is on or before the page of the newest hidden
one. -/
theorem query_all_complete_iff (X : Crates) (R : Relay) (s : Store) (hs : EffectiveSet s.events)
    (principal : Principal) (f : Filter) (fuel : ℕ) (hfuel : s.events.length < fuel) :
    (∃ events, queryAll X R s (some principal) fuel f = some (.ok events) ∧ events.Nodup ∧
      ∀ e, e ∈ events ↔ ∃ stored ∈ s.events, stored.event = e ∧
        Filter.filterMatchOne f stored = true ∧ eventIsVisible R (some principal) e = true) ↔
    f.search = none ∧ pulsePart X R s (some principal) [f] = [] ∧
      ∀ stored ∈ unreached R (some principal) f s.events,
        eventIsVisible R (some principal) stored.event = false := by
  have ha : authorizeQuery R (some principal) = .ok () := by
    cases hi : R.identity <;> simp [authorizeQuery,hi]
  have hn := nodup_matching hs f
  have hal := mem_scan_iff_all (visible R (some principal)) queryPageSize hn.of_map
  have hm : ∀ stored, stored ∈ matching f s.events ↔ stored ∈ s.events ∧
      Filter.filterMatchOne f stored = true := by
    intro stored
    rw [matching,mem_filter,mem_orderedEvents]
  constructor
  · rintro ⟨events,hall_events,-,hme⟩
    have hse := search_eq_none ha hall_events
    have hp : pulsePart X R s (some principal) [f] = [] := by
      rw [eq_nil_iff_forall_not_mem]
      intro pulse hin
      obtain ⟨stored,hst,rfl,-⟩ := (hme pulse).1 (pulse_mem ha hall_events pulse hin)
      simpa [hs.durable stored hst] using pulsePart_kind hin
    refine ⟨hse,hp,hal.1 ?_⟩
    rw [queryAll_eq hs ha hse hp hfuel] at hall_events
    have hr := Except.ok.inj (Option.some.inj hall_events)
    intro stored hin hv
    obtain ⟨hst,hmatch⟩ := (hm stored).1 hin
    have hsh := (hme stored.event).2 ⟨stored,hst,rfl,hmatch,hv⟩
    rw [← hr] at hsh
    obtain ⟨other,ho,heq⟩ := mem_map.1 hsh
    have hsa : other = stored := inj_on_of_nodup_map hn (mem_of_mem_take (mem_filter.1 ho).1) hin heq
    exact hsa ▸ ho
  · rintro ⟨hse,hp,hre⟩
    refine ⟨_,queryAll_eq hs ha hse hp hfuel,?_,?_⟩
    · exact hn.sublist ((filter_sublist.trans (take_sublist _ _)).map _)
    · intro e
      rw [mem_map]
      constructor
      · rintro ⟨stored,hsh,rfl⟩
        obtain ⟨ht,hv⟩ := mem_filter.1 hsh
        obtain ⟨hst,hmatch⟩ := (hm stored).1 (mem_of_mem_take ht)
        exact ⟨stored,hst,rfl,hmatch,hv⟩
      · rintro ⟨stored,hst,rfl,hmatch,hv⟩
        exact ⟨stored,hal.2 hre stored ((hm stored).2 ⟨hst,hmatch⟩) hv,rfl⟩

/-- With a single page the hidden reminder costs the reader nothing. -/
theorem query_all_complete_note : EffectiveSet (acceptAll queryCrates none [note,reminder]).events ∧
    ∃ events, queryAll queryCrates identityRelay (acceptAll queryCrates none [note,reminder])
        (some thirdReader) 3 Filter.new = some (.ok events) ∧ events.Nodup ∧
      ∀ e, e ∈ events ↔ ∃ stored ∈ (acceptAll queryCrates none [note,reminder]).events,
        stored.event = e ∧ Filter.filterMatchOne Filter.new stored = true ∧
          eventIsVisible identityRelay (some thirdReader) e = true :=
  ⟨acceptAll_effectiveSet _ _ _,(query_all_complete_iff queryCrates identityRelay _
    (acceptAll_effectiveSet _ _ _) thirdReader Filter.new 3 (by decide +kernel)).2
    ⟨rfl,rfl,by decide +kernel⟩⟩

section

/-- A note for each number below the page size; the last one is a gift wrap without a
recipient. -/
def numbered (n : ℕ) : Event where
  pubkey := note.pubkey
  createdAt := 1700000000 + n
  kind := if n < queryPageSize then 1 else kindGiftWrap
  tags := []
  content := ""
  id := .ofNat 32 n
  sig := .ofNat 64 0

def numberedEvents : List Event := (range (queryPageSize+1)).map numbered

def numberedCrates : Crates := signedOnly numberedEvents fun _ => none

lemma numbered_inj {n m : ℕ} (h : (numbered n).createdAt = (numbered m).createdAt) : n = m := by
  simpa [numbered] using h

lemma mem_numberedEvents {e : Event} : e ∈ numberedEvents ↔ ∃ n, n < queryPageSize+1 ∧ numbered n = e := by
  simp [numberedEvents]

lemma numbered_of_id {n m : ℕ} (hn : n < queryPageSize+1) (hm : m < queryPageSize+1)
    (h : (numbered n).id = (numbered m).id) : n = m := by
  simp only [queryPageSize] at hn hm
  exact HexText.FixedBytes.ofNat_inj_of_lt (by omega) (by omega) h

lemma idsMatch_numbered : IdsMatch numberedEvents := by
  intro a ha b hb
  obtain ⟨n,hn,rfl⟩ := mem_numberedEvents.1 ha
  obtain ⟨m,hm,rfl⟩ := mem_numberedEvents.1 hb
  constructor
  · intro heq
    rw [numbered_inj (congrArg EventBody.createdAt heq)]
  · intro hid
    rw [numbered_of_id hn hm hid]

lemma regular_numbered (n : ℕ) :
    replacementKey (numbered n) = none ∧ isEphemeralKind (numbered n).kind = false := by
  by_cases hn : n < queryPageSize <;>
    simp [numbered,hn,replacementKey,isEphemeralKind,kindGiftWrap]

lemma mem_acceptAll_numbered {stored : StoredEvent} :
    stored ∈ (acceptAll numberedCrates none numberedEvents).events ↔
      ∃ n, n < queryPageSize+1 ∧ storedEvent numberedCrates (numbered n) = stored := by
  have hc : NoCollision numberedCrates.toNostr numberedEvents := noCollision_signedOnly idsMatch_numbered
  have ha : ∀ e ∈ numberedEvents, Admitted numberedCrates e := by
    intro e he
    refine ⟨verified_signedOnly idsMatch_numbered he,?_⟩
    obtain ⟨n,-,rfl⟩ := mem_numberedEvents.1 he
    exact (regular_numbered n).2
  rw [(acceptAll_refines none numberedEvents hc fun _ _ => rfl).events_eq]
  constructor
  · intro hin
    obtain ⟨e,he,-,rfl⟩ := mem_of_mem_kept hc hin
    obtain ⟨n,hn,rfl⟩ := mem_numberedEvents.1 he
    exact ⟨n,hn,rfl⟩
  · rintro ⟨n,hn,rfl⟩
    obtain ⟨w,hw,hco⟩ := kept_of_mem hc ha (mem_numberedEvents.2 ⟨n,hn,rfl⟩)
    obtain ⟨e,he,-,rfl⟩ := mem_of_mem_kept hc hw
    obtain ⟨m,hm,rfl⟩ := mem_numberedEvents.1 he
    rcases hco with hs | ⟨hr,-⟩
    · have hmn : m = n := numbered_of_id hm hn (congrArg Prod.fst hs)
      exact hmn ▸ hw
    · exact absurd (regular_numbered n).1 hr.1

/-- The store in the order of its answers: the gift wrap first, the note `numbered 0` last. -/
lemma matching_numbered : matching Filter.new (acceptAll numberedCrates none numberedEvents).events =
      (range (queryPageSize+1)).reverse.map fun n => storedEvent numberedCrates (numbered n) := by
  have hse := acceptAll_effectiveSet numberedCrates none numberedEvents
  have ha : matching Filter.new (acceptAll numberedCrates none numberedEvents).events =
      orderedEvents (acceptAll numberedCrates none numberedEvents).events :=
    filter_eq_self.2 fun stored _ => by simp [Filter.filterMatchOne,Filter.new]
  have hs := pairwise_orderedEvents hse
  have hn : ((range (queryPageSize+1)).reverse.map fun n =>
      storedEvent numberedCrates (numbered n)).Pairwise fun a b => rank b.event < rank a.event := by
    rw [pairwise_map,pairwise_reverse]
    apply pairwise_lt_range.imp
    intro n m hlt
    exact Prod.Lex.toLex_lt_toLex.2 (.inl (by simpa [numbered] using hlt))
  have hne : ∀ {a b : StoredEvent}, rank b.event < rank a.event → a ≠ b :=
    fun hlt heq => absurd (heq ▸ hlt) (lt_irrefl _)
  rw [ha]
  refine SortedSelection.eq_of_mem_iff ?_ hs hn (hs.imp hne) (hn.imp hne) ?_
  · intro a _ b _ hab hba
    exact absurd hab (lt_asymm hba)
  · intro stored
    rw [mem_orderedEvents,mem_acceptAll_numbered]
    simp

/-- The gift wrap is not for the reader, so the oldest note is not reached. -/
lemma unreached_numbered : unreached identityRelay (some thirdReader) Filter.new
      (acceptAll numberedCrates none numberedEvents).events = [storedEvent numberedCrates (numbered 0)] := by
  have hl : (range (queryPageSize+1)).reverse = ((range queryPageSize).map Nat.succ).reverse ++ [0] := by
    rw [range_succ_eq_map,reverse_cons]
  have hf : (range (queryPageSize+1)).reverse = queryPageSize :: (range queryPageSize).reverse := by
    rw [range_succ,reverse_append,reverse_singleton,singleton_append]
  have hh : visible identityRelay (some thirdReader)
      (storedEvent numberedCrates (numbered queryPageSize)) = false := by decide +kernel
  have hr : reach (visible identityRelay (some thirdReader)) queryPageSize
      (matching Filter.new (acceptAll numberedCrates none numberedEvents).events) = queryPageSize := by
    rw [matching_numbered,hf,reach,map_cons,findIdx_cons,hh]
    simp
  rw [unreached,hr,matching_numbered,hl,map_append]
  exact drop_left' (by simp)

end

/-- Five hundred notes and a newer gift wrap for somebody else: the first page is one event
short, the client stops, and the oldest note is never fetched. -/
theorem older_note_is_missed :
    (∃ stored ∈ (acceptAll numberedCrates none numberedEvents).events, stored.event = numbered 0 ∧
      Filter.filterMatchOne Filter.new stored = true ∧
      eventIsVisible identityRelay (some thirdReader) (numbered 0) = true) ∧
    ∀ fuel, (acceptAll numberedCrates none numberedEvents).events.length < fuel →
      ∃ events, queryAll numberedCrates identityRelay (acceptAll numberedCrates none numberedEvents)
        (some thirdReader) fuel Filter.new = some (.ok events) ∧ numbered 0 ∉ events := by
  have hs := acceptAll_effectiveSet numberedCrates none numberedEvents
  have hv : eventIsVisible identityRelay (some thirdReader) (numbered 0) = true := by
    decide +kernel
  refine ⟨⟨storedEvent numberedCrates (numbered 0),mem_acceptAll_numbered.2 ⟨0,by decide,rfl⟩,rfl, rfl,hv⟩,?_⟩
  intro fuel hf
  refine ⟨_,queryAll_eq hs rfl rfl rfl hf,?_⟩
  intro hin
  obtain ⟨stored,hsh,heq⟩ := mem_map.1 hin
  have hl : storedEvent numberedCrates (numbered 0) ∈ unreached identityRelay (some thirdReader)
      Filter.new (acceptAll numberedCrates none numberedEvents).events := by
    rw [unreached_numbered]
    exact mem_singleton_self _
  have hn := nodup_matching hs Filter.new
  have ht := (mem_filter.1 hsh).1
  have hsa : stored = storedEvent numberedCrates (numbered 0) :=
    inj_on_of_nodup_map hn (mem_of_mem_take ht) (mem_of_mem_drop hl) heq
  exact disjoint_take_drop hn.of_map le_rfl ht (hsa ▸ hl)

end BuzzSolo.ClientPaging
