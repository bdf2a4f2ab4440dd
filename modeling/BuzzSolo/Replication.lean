import BuzzSolo.DecimalText
import BuzzSolo.EventStore
import BuzzSolo.Filter

/-! The replication source port of the laptop relay: pages of the journal behind textual
cursors, restricted to the events a stream exports. -/
namespace BuzzSolo.Replication

open DecimalText EventStore List

/-- The number of values of the machine's `usize`. -/
def usizeCount : ℕ := 2^64

structure ReplicationRecord where
  source : String
  cursor : String
  event : Event
  deriving DecidableEq

structure ReplicationBatch where
  records : List ReplicationRecord
  nextCursor : String
  caughtUp : Bool

inductive ReplicationIngestOutcome
  | stored | duplicate | superseded
  | rejected (reason : String)

structure ReplicationReceipt where
  source : String
  cursor : String
  eventId : String
  outcome : ReplicationIngestOutcome

def ReplicationReceipt.checkpointSafe (r : ReplicationReceipt) : Bool :=
  match r.outcome with
  | .rejected _ => false
  | _ => true

inductive ReplicationSourceError
  | zeroBatchLimit
  | invalidCursor (cursor : String)
  | cursorOutOfRange (position journalLen : ℕ)

/-- A stream: its source id and the filters that select what it exports. -/
structure LocalReplicationSource where
  source : String
  filter : Option (List Filter)

def exports (X : Crates) (L : LocalReplicationSource) (event : Event) : Bool :=
  match L.filter with
  | none => true
  | some filters => Filter.filtersMatch filters (storedEvent X event)

def localReplicationCursorPrefix : String := "local-ndjson-v1:"
def maxReplicationBatchSize : ℕ := 1000

def localReplicationCursor (position : ℕ) : String := localReplicationCursorPrefix ++ position.repr

def parseUsize (value : List Char) : Option ℕ := parseUnsigned usizeCount value

def parseLocalReplicationCursor (cursor : String) : Except ReplicationSourceError ℕ :=
  if localReplicationCursorPrefix.toList.isPrefixOf cursor.toList then
    match parseUsize (cursor.toList.drop localReplicationCursorPrefix.length) with
    | some position => .ok position
    | none => .error (.invalidCursor cursor)
  else .error (.invalidCursor cursor)

def startPosition (cursor : Option String) : Except ReplicationSourceError ℕ :=
  match cursor with
  | some cursor => parseLocalReplicationCursor cursor
  | none => .ok 0

def saturatingAdd (a b : ℕ) : ℕ := min (a+b) (usizeCount-1)

def pageRecords (X : Crates) (L : LocalReplicationSource) (start : ℕ) (page : List Event) :
    List ReplicationRecord :=
  ((page.zipIdx).filter fun p => exports X L p.1).map fun p =>
    ⟨L.source,localReplicationCursor (start+p.2+1),p.1⟩

def readBatch (X : Crates) (L : LocalReplicationSource) (journal : List Event)
    (cursor : Option String) (limit : ℕ) : Except ReplicationSourceError ReplicationBatch :=
  if limit = 0 then .error .zeroBatchLimit
  else
    match startPosition cursor with
    | .error e => .error e
    | .ok start =>
      if journal.length < start then .error (.cursorOutOfRange start journal.length)
      else
        let pageSize := min limit maxReplicationBatchSize
        let stop := min (saturatingAdd start pageSize) journal.length
        .ok ⟨pageRecords X L start ((journal.take stop).drop start),localReplicationCursor stop,
          stop = journal.length⟩

lemma parse_localReplicationCursor {n : ℕ} (hn : n < usizeCount) :
    parseLocalReplicationCursor (localReplicationCursor n) = .ok n := by
  have hl : (localReplicationCursor n).toList = localReplicationCursorPrefix.toList ++ Nat.toDigits 10 n := by
    rw [localReplicationCursor,String.toList_append,Nat.toList_repr]
  have hd : (localReplicationCursor n).toList.drop localReplicationCursorPrefix.length =
      Nat.toDigits 10 n := by
    rw [hl,← String.length_toList,drop_left]
  have hp : localReplicationCursorPrefix.toList.isPrefixOf (localReplicationCursor n).toList = true := by
    rw [hl, isPrefixOf_iff_prefix]
    exact prefix_append _ _
  simp only [parseLocalReplicationCursor,hp,if_true,hd,parseUsize,parseUnsigned_toDigits hn]

lemma pageRecords_events (X : Crates) (L : LocalReplicationSource) (start : ℕ) (page : List Event) :
    (pageRecords X L start page).map ReplicationRecord.event = page.filter (exports X L) := by
  have hkey : ∀ (page : List Event) (k : ℕ),
      ((page.zipIdx k).filter fun p => exports X L p.1).map Prod.fst = page.filter (exports X L) := by
    intro page
    induction page with
    | nil => simp
    | cons e page ih =>
      cases he : exports X L e <;> simp [he,ih]
  rw [pageRecords,map_map]
  exact hkey page 0

variable {X : Crates} {L : LocalReplicationSource} {s0 : ℕ} {r : ReplicationRecord}

lemma mem_pageRecords {page : List Event} (hr : r ∈ pageRecords X L s0 page) :
    ∃ k, page[k]? = some r.event ∧ r.cursor = localReplicationCursor (s0+k+1) ∧
      exports X L r.event = true := by
  obtain ⟨p,hp,rfl⟩ := mem_map.1 hr
  obtain ⟨hm,he⟩ := mem_filter.1 hp
  exact ⟨p.2,mem_zipIdx_iff_getElem?.1 hm,rfl,he⟩

/-- The records of a page stand in the order of their positions: the ones up to a record
are those of the positions up to its own. -/
lemma page_before {page : List Event} {bef aft : List ReplicationRecord}
    (h : pageRecords X L s0 page = bef ++ r :: aft) :
    ∃ k, k < page.length ∧ r.cursor = localReplicationCursor (s0+k+1) ∧
      ∀ j e, j ≤ k → page[j]? = some e → exports X L e = true → ∃ x ∈ bef ++ [r], x.event = e := by
  have hs : ((page.zipIdx).filter fun p => exports X L p.1).Pairwise fun p q => p.2 < q.2 := by
    refine List.Pairwise.filter _ ?_
    have hr : (page.zipIdx.map Prod.snd).Pairwise (· < ·) := by
      rw [zipIdx_map_snd]
      exact pairwise_lt_range'
    exact pairwise_map.1 hr
  obtain ⟨P,Q,hPQ,hP,hQ⟩ := map_eq_append_iff.1 h
  obtain ⟨q,Q',hqQ,hq,hQ'⟩ := map_eq_cons_iff.1 hQ
  subst hqQ hq hP
  have hm : q ∈ (page.zipIdx).filter fun p => exports X L p.1 := by
    rw [hPQ]
    simp
  have hqp := mem_zipIdx_iff_getElem?.1 (mem_filter.1 hm).1
  refine ⟨q.2,(List.getElem?_eq_some_iff.1 hqp).1,rfl,?_⟩
  intro j e hj hp he
  have hin : (e,j) ∈ P ++ q :: Q' := by
    rw [← hPQ,mem_filter]
    exact ⟨mem_zipIdx_iff_getElem?.2 hp,he⟩
  rw [hPQ,pairwise_append] at hs
  have hl : (e,j) ∉ Q' := by
    intro hm
    have hlt : q.2 < j := (pairwise_cons.1 hs.2.1).1 _ hm
    omega
  refine ⟨⟨L.source,localReplicationCursor (s0+j+1),e⟩,?_,rfl⟩
  rw [mem_append,mem_cons] at hin
  rw [mem_append,mem_singleton]
  rcases hin with hin | hin | hin
  · exact .inl (mem_map.2 ⟨(e,j),hin,rfl⟩)
  · subst hin
    exact .inr rfl
  · exact absurd hin hl

variable {jnl : List Event} {cursor : Option String} {lm : ℕ}

lemma readBatch_page {b : ReplicationBatch} (h : readBatch X L jnl cursor lm = .ok b) :
    ∃ s0 stop, startPosition cursor = .ok s0 ∧ stop ≤ jnl.length ∧
      b.records = pageRecords X L s0 ((jnl.take stop).drop s0) ∧
      b.nextCursor = localReplicationCursor stop := by
  simp only [readBatch] at h
  split at h
  · simp at h
  · split at h
    · simp at h
    · rename_i s0 hs
      split at h
      · simp at h
      · have hb := Except.ok.inj h
        subst hb
        exact ⟨s0,_,hs,Nat.min_le_right _ _,rfl,rfl⟩

lemma getElem?_page {stop k : ℕ} {e : Event} (h : ((jnl.take stop).drop s0)[k]? = some e) :
    jnl[s0+k]? = some e ∧ s0+k < stop := by
  rw [getElem?_drop,getElem?_take] at h
  split at h
  · exact ⟨h,by assumption⟩
  · simp at h

lemma record_position {b : ReplicationBatch} (h : readBatch X L jnl cursor lm = .ok b) (hr : r ∈ b.records) :
    ∃ p, jnl[p]? = some r.event ∧ r.cursor = localReplicationCursor (p+1) ∧ exports X L r.event = true := by
  obtain ⟨s0,stop,-,-,hre,-⟩ := readBatch_page h
  rw [hre] at hr
  obtain ⟨k,hk,hc,he⟩ := mem_pageRecords hr
  exact ⟨s0+k,(getElem?_page hk).1,hc,he⟩

/-- The page `readBatch` returns from a position of the journal. -/
lemma readBatch_spec (X : Crates) (L : LocalReplicationSource) (hl : 1 ≤ lm)
    (hle : jnl.length < usizeCount) (hs : s0 ≤ jnl.length)
    (hc : cursor = none ∧ s0 = 0 ∨ cursor = some (localReplicationCursor s0)) :
    ∃ stop, s0 ≤ stop ∧ stop ≤ jnl.length ∧ (stop = jnl.length ∨ s0 < stop) ∧ readBatch X L jnl cursor lm =
        .ok ⟨pageRecords X L s0 ((jnl.take stop).drop s0),localReplicationCursor stop,
          stop = jnl.length⟩ := by
  have hp : startPosition cursor = .ok s0 := by
    rcases hc with ⟨rfl,rfl⟩ | rfl
    · rfl
    · exact parse_localReplicationCursor (by omega)
  refine ⟨min (saturatingAdd s0 (min lm maxReplicationBatchSize)) jnl.length,?_,?_,?_,?_⟩
  · unfold saturatingAdd
    omega
  · omega
  · unfold saturatingAdd maxReplicationBatchSize
    omega
  · have hz : lm ≠ 0 := by omega
    have hr : ¬ jnl.length < s0 := by omega
    simp only [readBatch,hz,if_false,hp,hr]

end BuzzSolo.Replication
