import BuzzSolo.ClientPaging

/-! Cursor paging over the store. The order of the answers and the tie-break of a cursor describe
one total order, so each page goes on where the last one ended, also among equal timestamps. -/
namespace BuzzSolo.CursorPaging

open Ingest EventStore Query ClientPaging List

/-- Pages from one cursor on, each cursor taken from the last event of the page before it, until
a page is empty. There is no result when the fuel runs out. -/
def cursorPages (events : List StoredEvent) : ℕ → CursorFilter → Option (Except QueryError (List Event))
  | 0,_ => none
  | fuel+1,c =>
    match queryWithCursors events [c] with
    | .error e => some (.error e)
    | .ok page =>
      match page.getLast? with
      | none => some (.ok [])
      | some last =>
        (cursorPages events fuel (advanceQueryCursor c last)).map fun later =>
          later.map fun rest => page ++ rest

variable {events : List StoredEvent} {c : CursorFilter}

lemma cursorPages_eq (hs : EffectiveSet events) (fuel : ℕ) (c : CursorFilter)
    (rest : List StoredEvent) (hr : (orderedEvents events).filter (admits c) = rest)
    (hc : checkCursors [c] = .ok ()) (hli : 0 < queryLimit c.filter)
    (hf : rest.length < fuel) : cursorPages events fuel c = some (.ok (rest.map StoredEvent.event)) := by
  induction fuel generalizing c rest with
  | zero => omega
  | succ fuel ih =>
    have hp : queryWithCursors events [c] =
        .ok ((rest.take (queryLimit c.filter)).map StoredEvent.event) := by
      rw [queryWithCursors_singleton hs hc,taken,hr]
    rcases eq_nil_or_concat (rest.take (queryLimit c.filter)) with hni | ⟨front,last,hl⟩
    · have he : rest = [] := (take_eq_nil_iff.1 hni).resolve_left (by omega)
      subst he
      simp [cursorPages,hp]
    · -- the cursor after the last e of the page asks for what the page left
      have hsp : rest = front ++ last :: rest.drop (queryLimit c.filter) := by
        conv_lhs => rw [← take_append_drop (queryLimit c.filter) rest,hl]
        simp
      have hd : (rest.drop (queryLimit c.filter)).length < fuel := by
        have hpo : 0 < rest.length := by
          rw [hsp]
          simp
        rw [length_drop]
        omega
      have hn := ih (advanceQueryCursor c last.event) (rest.drop (queryLimit c.filter))
        (filter_advanceQueryCursor hs (hr.trans hsp))
        (checkCursors_singleton.2 ⟨fun _ => rfl,(checkCursors_singleton.1 hc).2⟩) hli hd
      have hen : ((rest.take (queryLimit c.filter)).map StoredEvent.event).getLast? = some last.event := by
        simp [hl]
      simp only [cursorPages,hp,hen,hn,Option.map_some,Except.map]
      rw [← map_append,take_append_drop]

lemma cursorPages_of_search {f : Filter} (h : f.search ≠ none) (fuel : ℕ) :
    cursorPages events (fuel+1) ⟨f,none⟩ = some (.error .searchUnsupported) := by
  cases hs : f.search with
  | none => exact absurd hs h
  | some t => simp [cursorPages,queryWithCursors,checkCursors,validateFilters,hs]

/-- Paging ends, and gives each match once, newest first and by id where timestamps are equal,
whatever the page limit. A filter that asks for a search is refused before anything is read. -/
theorem cursor_paging_exact (events : List StoredEvent) (hs : EffectiveSet events) (f : Filter)
    (hlimit : ∀ limit ∈ f.limit, 1 ≤ limit) (fuel : ℕ) (hfuel : events.length < fuel) :
    (f.search ≠ none → cursorPages events fuel ⟨f,none⟩ = some (.error .searchUnsupported)) ∧
    (f.search = none → ∃ answer, cursorPages events fuel ⟨f,none⟩ = some (.ok answer) ∧
      (∀ e, e ∈ answer ↔ ∃ stored ∈ events, stored.event = e ∧ Filter.filterMatchOne f stored = true) ∧
        answer.Nodup ∧
      answer.Pairwise fun newer older => older.createdAt < newer.createdAt ∨
        (older.createdAt = newer.createdAt ∧ newer.id.toHex < older.id.toHex)) := by
  refine ⟨?_,?_⟩
  · intro hse
    obtain ⟨n,rfl⟩ : ∃ n, fuel = n+1 := ⟨fuel-1,by omega⟩
    exact cursorPages_of_search hse n
  · intro hse
    have hpo : 0 < queryLimit f := by
      cases hl : f.limit with
      | none => simp [queryLimit,hl,defaultQueryLimit,maxQueryLimit]
      | some limit =>
        have ho := hlimit limit hl
        simp only [queryLimit,hl,Option.getD_some,maxQueryLimit]
        omega
    have ha : admits ⟨f,none⟩ = Filter.filterMatchOne f := by
      funext stored
      simp [admits,cursorAdmits,Filter.filtersMatch]
    have hp := cursorPages_eq hs fuel ⟨f,none⟩ (matching f events)
      (by rw [ha,matching]) (checkCursors_singleton.2 ⟨by simp,hse⟩) hpo
      ((length_matching_le f events).trans_lt hfuel)
    have hso : ((matching f events).map StoredEvent.event).Pairwise
        fun newer older => rank older < rank newer :=
      pairwise_map.2 ((pairwise_orderedEvents hs).filter _)
    refine ⟨_,hp,?_,?_,?_⟩
    · intro e
      simp only [matching,mem_map,mem_filter,mem_orderedEvents]
      constructor
      · rintro ⟨stored,⟨hm,hmatch⟩,rfl⟩
        exact ⟨stored,hm,rfl,hmatch⟩
      · rintro ⟨stored,hm,rfl,hmatch⟩
        exact ⟨stored,⟨hm,hmatch⟩,rfl⟩
    · exact hso.imp fun hlt heq => absurd (heq ▸ hlt) (lt_irrefl _)
    · refine hso.imp fun hlt => ?_
      rw [← replacementCandidateWins_iff] at hlt
      simp only [replacementCandidateWins,Bool.or_eq_true,Bool.and_eq_true,decide_eq_true_eq] at hlt
      rcases hlt with hlt | ⟨heq,hid⟩
      · exact .inl hlt
      · exact .inr ⟨heq.symm,hid⟩

def noteAgain : Event :=
  { note with
    content := "hello again"
    id := .ofNat 32 0xf3200e9ef1a5a7e8b8ca06e9e4c97782134bad1cf80f44bf0937693469d3ca70
    sig := .ofNat 64 0x2190594c6761d3da62ee710ea30be134c57216415bf52b5fba83fcb8d76d62401c2e097b8cf3c49cd53031dde74718c0aee732878167e7b8e3c9824ac1769b0f }

def twoNotes : List StoredEvent :=
  (acceptAll (signedOnly [noteAgain,note] fun _ => none) none [noteAgain,note]).events

/-- Two notes of one second on pages of one. -/
theorem cursor_paging_exact_note : EffectiveSet twoNotes ∧ twoNotes.length = 2 ∧
    ∃ answer, cursorPages twoNotes 3 ⟨{ Filter.new with limit := some 1 },none⟩ = some (.ok answer) ∧
      (∀ e, e ∈ answer ↔ ∃ stored ∈ twoNotes, stored.event = e ∧
        Filter.filterMatchOne { Filter.new with limit := some 1 } stored = true) ∧ answer.Nodup ∧
      answer.Pairwise fun newer older => older.createdAt < newer.createdAt ∨
        (older.createdAt = newer.createdAt ∧ newer.id.toHex < older.id.toHex) := by
  have hs : EffectiveSet twoNotes := acceptAll_effectiveSet _ _ _
  have hl : twoNotes.length = 2 := by decide +kernel
  refine ⟨hs,hl,?_⟩
  exact (cursor_paging_exact twoNotes hs { Filter.new with limit := some 1 } (by simp) 3
    (by rw [hl]; decide)).2 rfl

end BuzzSolo.CursorPaging
