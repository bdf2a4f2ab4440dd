import BuzzSolo.Replication
import BuzzSolo.RestartTransparency

/-! Draining a stream. A reader follows the returned cursors while the store may accept events or be
reopened before each call, and ends with exactly the exported events of the journal it caught up
with. -/
namespace BuzzSolo.Replication

open EventStore List

inductive DrainError
  | store (error : StoreError)
  | source (error : ReplicationSourceError)

/-- Calls of `readBatch` until one has caught up; `between` holds what happens to the store
before each of the coming calls, and nothing happens before the calls after those. -/
def drain (X : Crates) (L : LocalReplicationSource) (limit : ℕ) :
    ℕ → List (List Step) → Store → Option String → Except DrainError (Option (List ReplicationRecord × Store))
  | 0, _, _, _ => .ok none
  | fuel+1, between, s, cursor =>
    match runSteps X s (between.headD []) with
    | .error e => .error (.store e)
    | .ok t =>
      match readBatch X L t.journal cursor limit with
      | .error e => .error (.source e)
      | .ok batch =>
        if batch.caughtUp then .ok (some (batch.records,t))
        else match drain X L limit fuel between.tail t (some batch.nextCursor) with
          | .ok (some (records,u)) => .ok (some (batch.records ++ records,u))
          | other => other

/-- A store that has met events of `E` only, through any submissions and reopens. -/
def Live (X : Crates) (E : List Event) (s : Store) : Prop :=
  ∃ events, (∀ e ∈ events, e ∈ E) ∧ Refines X events s ∧ Logged X s

/-- Draining from the position `start` ends, with the exported events after it. -/
def Drained (X : Crates) (L : LocalReplicationSource) (limit : ℕ) (between : List (List Step))
    (s : Store) (cursor : Option String) (start : ℕ) : Prop :=
  ∃ fuel records t, drain X L limit fuel between s cursor = .ok (some (records,t)) ∧ s.journal <+: t.journal ∧
    records.map ReplicationRecord.event = (t.journal.drop start).filter (exports X L)

section

variable {X : Crates} {L : LocalReplicationSource} {lm : ℕ} {E : List Event}
variable (hlimit : 1 ≤ lm) (hrt : ∀ e ∈ E, RoundTrips X e) (hcol : NoCollision X.toNostr E)
variable (hlen : E.length < usizeCount)
variable {s : Store}

include hcol hlen in
lemma Live.journal_length (h : Live X E s) : s.journal.length < usizeCount := by
  obtain ⟨es,hs,hr,-⟩ := h
  have hcol' := hcol.subset hs
  have hn : (s.journal.map Event.id).Nodup := by
    have h := (sound_ledger (X := X) hcol').nodup
    rw [← hr.history_eq,map_map] at h
    exact h
  have hid : s.journal.map Event.id ⊆ E.map Event.id := by
    intro i hi
    obtain ⟨e,he,rfl⟩ := mem_map.1 hi
    exact mem_map_of_mem (hs e (hr.mem_journal hcol' he).1)
  have hle := (subperm_of_subset hn hid).length_le
  simp only [length_map] at hle
  omega

include hrt hcol in
lemma Live.run (h : Live X E s) {steps : List Step} (hs : ∀ e ∈ submitted steps, e ∈ E) :
    ∃ t, runSteps X s steps = .ok t ∧ Live X E t ∧ s.journal <+: t.journal := by
  obtain ⟨es,hev,hr,hl⟩ := h
  have ha : ∀ e ∈ es ++ submitted steps, e ∈ E := by
    intro e he
    rcases mem_append.1 he with he | he
    · exact hev e he
    · exact hs e he
  obtain ⟨t,ht,hr',hl',hg⟩ := runSteps_refines steps es s (hcol.subset ha) (fun e he => hrt e (ha e he)) hr hl
  exact ⟨t,ht,⟨_,ha,hr',hl'⟩,hg⟩

variable {s0 : ℕ}

lemma drop_eq_append {l m : List Event} {stop : ℕ} (hp : l <+: m) (hst : s0 ≤ stop)
    (hs : stop ≤ l.length) : (l.take stop).drop s0 ++ m.drop stop = m.drop s0 := by
  obtain ⟨rest,rfl⟩ := hp
  have ht : l.take stop = (l ++ rest).take stop := by
    rw [take_append_of_le_length hs]
  have hlen : s0 ≤ ((l ++ rest).take stop).length := by
    rw [← ht,length_take]
    omega
  rw [ht,← drop_append_of_le_length hlen,take_append_drop]

variable {cursor : Option String}

include hlimit hrt hcol hlen

/-- One call of the reader: either it has caught up, or it goes on from a later position. -/
lemma drained_of_next {mid : List (List Step)}
    (hl : Live X E s) (hsu : ∀ steps ∈ mid, ∀ e ∈ submitted steps, e ∈ E)
    (hs : s0 ≤ s.journal.length)
    (hc : cursor = none ∧ s0 = 0 ∨ cursor = some (localReplicationCursor s0))
    (hn : ∀ t stop, runSteps X s (mid.headD []) = .ok t → Live X E t → s0 < stop → stop < t.journal.length →
      Drained X L lm mid.tail t (some (localReplicationCursor stop)) stop) :
    Drained X L lm mid s cursor s0 := by
  have hh : ∀ e ∈ submitted (mid.headD []), e ∈ E := by
    cases mid with
    | nil => simp [submitted]
    | cons steps rest => exact hsu steps (by simp)
  obtain ⟨t,ht,hlt,hg⟩ := hl.run hrt hcol hh
  obtain ⟨stop,hle,hst,hm,hr⟩ := readBatch_spec X L hlimit (hlt.journal_length hcol hlen)
    (hs.trans hg.length_le) hc
  by_cases hd : stop = t.journal.length
  · refine ⟨1,pageRecords X L s0 ((t.journal.take stop).drop s0),t,?_,hg,?_⟩
    · simp only [drain,ht,hr,hd,decide_true,if_true]
    · rw [pageRecords_events,hd,take_length]
  · have hlt' : s0 < stop := hm.resolve_left hd
    obtain ⟨fuel,recs,u,hrun,hg',hre⟩ := hn t stop ht hlt hlt' (by omega)
    refine ⟨fuel+1,pageRecords X L s0 ((t.journal.take stop).drop s0) ++ recs,u,?_, hg.trans hg',?_⟩
    · simp only [drain,ht,hr,hd,decide_false,Bool.false_eq_true,if_false,hrun]
    · rw [map_append,pageRecords_events,hre,← filter_append, drop_eq_append hg' hle hst]

lemma drained_quiet (hl : Live X E s) (hs : s0 ≤ s.journal.length)
    (hc : cursor = none ∧ s0 = 0 ∨ cursor = some (localReplicationCursor s0)) :
    Drained X L lm [] s cursor s0 := by
  induction hn : s.journal.length - s0 using Nat.strong_induction_on generalizing cursor s0 with
  | h n ih =>
    refine drained_of_next hlimit hrt hcol hlen hl (by simp) hs hc ?_
    intro t stop ht _ hlt hst
    have hts : s = t := by simpa [runSteps] using ht
    subst hts
    exact ih _ (by omega) hst.le (.inr rfl) rfl

lemma drained (mid : List (List Step)) (hl : Live X E s) (hsu : ∀ steps ∈ mid, ∀ e ∈ submitted steps, e ∈ E)
    (hst : s0 ≤ s.journal.length)
    (hc : cursor = none ∧ s0 = 0 ∨ cursor = some (localReplicationCursor s0)) :
    Drained X L lm mid s cursor s0 := by
  induction mid generalizing s cursor s0 with
  | nil => exact drained_quiet hlimit hrt hcol hlen hl hst hc
  | cons steps rest ih =>
    refine drained_of_next hlimit hrt hcol hlen hl hsu hst hc ?_
    intro t stop _ hlt _ hso
    exact ih hlt (fun steps hs => hsu steps (by simp [hs])) hso.le (.inr rfl)

end

/-- Draining is exact. From no cursor the reader ends with the exported events of the
journal, in order; from the cursor of any record it was given it ends with those after that
record. Both hold for any submissions and reopens between the calls. -/
theorem drain_exact (X : Crates) (L : LocalReplicationSource) (limit : ℕ) (hlimit : 1 ≤ limit)
    (E : List Event) (hrt : ∀ e ∈ E, RoundTrips X e) (hcol : NoCollision X.toNostr E)
    (hlen : E.length < usizeCount) (prior : List Step) (hprior : ∀ e ∈ submitted prior, e ∈ E) :
    ∃ s, runFresh X prior = .ok s ∧ ∀ between : List (List Step),
    (∀ steps ∈ between, ∀ e ∈ submitted steps, e ∈ E) →
        Drained X L limit between s none 0 ∧ ∀ cursor batch, readBatch X L s.journal cursor limit =
          .ok batch →
          ∀ r ∈ batch.records, ∃ p, s.journal[p]? = some r.event ∧ exports X L r.event = true ∧
            Drained X L limit between s (some r.cursor) (p+1) := by
  obtain ⟨s,hs,hrf,hl⟩ := runFresh_refines prior (hcol.subset hprior)
    fun e he => hrt e (hprior e he)
  have hlive : Live X E s := ⟨_,hprior,hrf,hl⟩
  refine ⟨s,hs,fun between hsu => ⟨?_,?_⟩⟩
  · exact drained hlimit hrt hcol hlen between hlive hsu (Nat.zero_le _) (.inl ⟨rfl,rfl⟩)
  · intro cursor batch hre r hr
    obtain ⟨p,hp,hc,hex⟩ := record_position hre hr
    have hlt : p < s.journal.length := (List.getElem?_eq_some_iff.1 hp).1
    refine ⟨p,hp,hex,?_⟩
    rw [hc]
    exact drained hlimit hrt hcol hlen between hlive hsu hlt (.inr rfl)

/-- The stream of the notes, read one event at a time while a profile arrives and the store
is reopened. -/
theorem drain_exact_notes : let X := signedOnly [newProfile,oldProfile,note] fun _ => none
    let L : LocalReplicationSource := ⟨"laptop",some [{ Filter.new with kinds := some [1] }]⟩
    ∃ s, runFresh X [.submit oldProfile,.submit note] = .ok s ∧
      Drained X L 1 [[],[.submit newProfile,.reopen]] s none 0 := by
  have hi : IdsMatch [newProfile,oldProfile,note] := by decide +kernel
  obtain ⟨s,hs,ha⟩ := drain_exact (signedOnly [newProfile,oldProfile,note] fun _ => none)
    ⟨"laptop",some [{ Filter.new with kinds := some [1] }]⟩ 1 le_rfl [newProfile,oldProfile,note]
    (fun e he => roundTrips_signedOnly he) (noCollision_signedOnly hi) (by decide)
    [.submit oldProfile,.submit note] (by simp [submitted])
  exact ⟨s,hs,(ha [[],[.submit newProfile,.reopen]] (by simp [submitted])).1⟩

end BuzzSolo.Replication
