import BuzzSolo.ReplicationPull
import BuzzSolo.RestartTransparency

/-! Checkpoint safety of the pusher and the puller: a saved cursor passes a record only when a safe
receipt has named its event. Neither process compares receipts with records, so an answer without a
refusal has to account for its whole request. -/
namespace BuzzSolo.Replication

open EventStore LineText List

/-- The position of the cursor that a process would start from; a text that is no cursor
passes nothing. -/
def savedPosition (cursorFile : Option String) : ℕ :=
  match startPosition (savedCursor cursorFile) with
  | .ok position => position
  | .error _ => 0

/-- The exported events from `base` on that `position` passes have been named by safe
receipts. -/
def Receipted (X : Crates) (L : LocalReplicationSource) (journal : List Event) (acked : List String)
    (base position : ℕ) : Prop :=
  ∀ k e, base ≤ k → k < position → journal[k]? = some e → exports X L e = true → e.id.toHex ∈ acked

/-- The safe receipts so far, this answer included, name the record's event. -/
def Named (acked : List String) (receipts : List ReplicationReceipt) (r : ReplicationRecord) : Prop :=
  r.event.id.toHex ∈ acked ++ safeIds receipts

/-- The receipt whose cursor is advanced to, the last one before any refusal. -/
def adopted (receipts : List ReplicationReceipt) : Option ReplicationReceipt :=
  (receipts.takeWhile ReplicationReceipt.checkpointSafe).getLast?

/-- The answer accounts for the request. Without a refusal it names every record. A receipt
whose cursor is going to be saved carries the cursor of a record of the request, and this
record and those before it are named. -/
def Vouches (acked : List String) (request : List ReplicationRecord) (last : Bool)
    (receipts : List ReplicationReceipt) : Prop :=
  (receipts.all ReplicationReceipt.checkpointSafe = true → ∀ r ∈ request, Named acked receipts r) ∧
  ((last && receipts.all ReplicationReceipt.checkpointSafe) = false →
    ∀ q ∈ adopted receipts, ∃ i < request.length, request[i]?.map ReplicationRecord.cursor = some q.cursor ∧
      ∀ x ∈ request.take (i+1), Named acked receipts x)

instance (acked : List String) (receipts : List ReplicationReceipt) (r : ReplicationRecord) :
    Decidable (Named acked receipts r) :=
  inferInstanceAs (Decidable (_ ∈ _))

instance (acked : List String) (request : List ReplicationRecord) (last : Bool)
    (receipts : List ReplicationReceipt) : Decidable (Vouches acked request last receipts) :=
  inferInstanceAs (Decidable (_ ∧ _))

/-- The request that waits for its answer, and whether it is the last one of its page. -/
def PushPhase.inFlight : PushPhase → Option (List ReplicationRecord × Bool)
  | .posting _ (request :: later) _ => some (request.records,later.isEmpty)
  | _ => none

def PushAction.received : PushAction → Option (List ReplicationReceipt)
  | .answer (.receipts receipts) => some receipts
  | _ => none

def VouchedPush (s : Pusher) (action : PushAction) : Prop :=
  ∀ receipts ∈ action.received, ∀ request ∈ s.phase.inFlight, Vouches s.acked request.1 request.2 receipts

instance (s : Pusher) (action : PushAction) : Decidable (VouchedPush s action) :=
  inferInstanceAs (Decidable (∀ receipts ∈ action.received, _))

/-- Every answer of the run accounts for its request. -/
def VouchedPushes (X : Crates) (L : LocalReplicationSource) (s : Pusher) : List PushAction → Prop
  | [] => True
  | action :: actions => VouchedPush s action ∧ VouchedPushes X L (pushStep X L s action) actions

instance (X : Crates) (L : LocalReplicationSource) :
    (s : Pusher) → (actions : List PushAction) → Decidable (VouchedPushes X L s actions)
  | _, [] => isTrue trivial
  | s, action :: actions =>
    have := instDecidableVouchedPushes X L (pushStep X L s action) actions
    inferInstanceAs (Decidable (_ ∧ _))

def PullPhase.inFlight : PullPhase → Option (List ReplicationRecord)
  | .ingesting batch => some batch.records
  | _ => none

def PullAction.received : PullAction → Option (List ReplicationReceipt)
  | .answer (.receipts receipts) => some receipts
  | _ => none

def VouchedPull (s : Puller) (action : PullAction) : Prop :=
  ∀ receipts ∈ action.received, ∀ records ∈ s.phase.inFlight,
    receipts.all ReplicationReceipt.checkpointSafe = true → ∀ r ∈ records, Named s.acked receipts r

instance (s : Puller) (action : PullAction) : Decidable (VouchedPull s action) :=
  inferInstanceAs (Decidable (∀ receipts ∈ action.received, _))

def VouchedPulls (s : Puller) : List PullAction → Prop
  | [] => True
  | action :: actions => VouchedPull s action ∧ VouchedPulls (pullStep s action) actions

instance : (s : Puller) → (actions : List PullAction) → Decidable (VouchedPulls s actions)
  | _, [] => isTrue trivial
  | s, action :: actions =>
    have := instDecidableVouchedPulls (pullStep s action) actions
    inferInstanceAs (Decidable (_ ∧ _))

def appended : List PushAction → List Event
  | [] => []
  | .restart events _ _ :: actions => events ++ appended actions
  | _ :: actions => appended actions

lemma takeReceipts_eq (advanced : Option String) (receipts : List ReplicationReceipt) :
    takeReceipts advanced receipts = match receipts.find? fun r => !r.checkpointSafe with
      | some receipt => .error (receipt,((adopted receipts).map ReplicationReceipt.cursor).or advanced)
      | none => .ok (((adopted receipts).map ReplicationReceipt.cursor).or advanced) := by
  induction receipts generalizing advanced with
  | nil => simp [takeReceipts,adopted]
  | cons receipt receipts ih =>
    cases hs : receipt.checkpointSafe with
    | false => simp [takeReceipts,adopted,hs]
    | true =>
      have hor : ((adopted (receipt :: receipts)).map ReplicationReceipt.cursor).or advanced =
          ((adopted receipts).map ReplicationReceipt.cursor).or (some receipt.cursor) := by
        simp only [adopted,takeWhile_cons,hs,if_true,getLast?_cons]
        cases (receipts.takeWhile ReplicationReceipt.checkpointSafe).getLast? <;> rfl
      simp only [takeReceipts,hs,if_true,ih,find?_cons,Bool.not_true,hor]

variable {receipts : List ReplicationReceipt}

lemma all_safe_of_find_none (h : receipts.find? (fun r => !r.checkpointSafe) = none) :
    receipts.all ReplicationReceipt.checkpointSafe = true := by
  rw [find?_eq_none] at h
  rw [all_eq_true]
  intro r hr
  simpa using h r hr

lemma all_safe_eq_false {refused : ReplicationReceipt}
    (h : receipts.find? (fun r => !r.checkpointSafe) = some refused) :
    receipts.all ReplicationReceipt.checkpointSafe = false := by
  rw [all_eq_false]
  exact ⟨refused,mem_of_find?_eq_some h,by simpa using find?_some h⟩

lemma trim_localReplicationCursor (n : ℕ) : trim (localReplicationCursor n) = localReplicationCursor n := by
  have hne : Nat.toDigits 10 n ≠ [] := by
    have hl := Nat.length_toDigits_pos (b := 10) (n := n)
    exact fun h => by simp [h] at hl
  have hd : ((Nat.toDigits 10 n).getLast hne).isDigit = true :=
    Nat.isDigit_of_mem_toDigits (by decide) (by decide) (getLast_mem hne)
  have hs : (localReplicationCursor n).toList =
    'l' :: ("ocal-ndjson-v1:".toList ++ (Nat.toDigits 10 n).dropLast ++
        [(Nat.toDigits 10 n).getLast hne]) := by
    rw [localReplicationCursor,String.toList_append,Nat.toList_repr,append_assoc, dropLast_append_getLast hne]
    rfl
  exact trim_eq_self hs (by decide) (isWhitespace_of_isDigit hd)

lemma savedCursor_localReplicationCursor (n : ℕ) :
    savedCursor (some (localReplicationCursor n)) = some (localReplicationCursor n) := by
  have hne : (localReplicationCursor n).isEmpty = false := by
    simp [localReplicationCursor]
  simp [savedCursor,trim_localReplicationCursor,hne]

lemma savedPosition_localReplicationCursor {n : ℕ} (hn : n < usizeCount) :
    savedPosition (some (localReplicationCursor n)) = n := by
  simp only [savedPosition,savedCursor_localReplicationCursor,startPosition, parse_localReplicationCursor hn]

/-- A cursor read from the file is read back from a file that holds it. -/
lemma savedCursor_idem {file : Option String} {c : String} (h : savedCursor file = some c) :
    savedCursor (some c) = some c := by
  cases file with
  | none => simp [savedCursor] at h
  | some saved =>
    simp only [savedCursor] at h ⊢
    split at h
    · simp at h
    · rename_i hne
      cases h
      rw [trim_trim,if_neg hne]

section

variable {X : Crates} {L : LocalReplicationSource} {journal : List Event} {acked : List String}
variable {base : ℕ}

/-- A position the run may have reached: no further than the journal, and receipted. -/
def Cleared (X : Crates) (L : LocalReplicationSource) (journal : List Event) (acked : List String)
    (base position : ℕ) : Prop :=
  (position ≤ base ∨ position ≤ journal.length) ∧ Receipted X L journal acked base position

variable {acked' : List String}
variable {journal' : List Event}

lemma Cleared.mono {pos : ℕ} (h : Cleared X L journal acked base pos) (hj : journal <+: journal')
    (ha : acked ⊆ acked') : Cleared X L journal' acked' base pos := by
  obtain ⟨hw,hr⟩ := h
  refine ⟨hw.imp_right fun hle => hle.trans hj.length_le,?_⟩
  intro k e hb hk hget he
  have hle : k < journal.length := by omega
  rw [prefix_iff_getElem?.1 hj k hle,← getElem?_eq_getElem hle] at hget
  exact ha (hr k e hb hk hget he)

/-- The cursor in the process's memory: saved, it would be read back as it is, at a position
that is cleared. -/
def Reached (X : Crates) (L : LocalReplicationSource) (journal : List Event) (acked : List String)
    (base : ℕ) (cursor : Option String) : Prop :=
  ∀ c, cursor = some c → savedCursor (some c) = some c ∧
    Cleared X L journal acked base (savedPosition (some c))

variable {cursor : Option String}

lemma Reached.mono (h : Reached X L journal acked base cursor) (hj : journal <+: journal')
    (ha : acked ⊆ acked') : Reached X L journal' acked' base cursor :=
  fun c hc => ⟨(h c hc).1,(h c hc).2.mono hj ha⟩

lemma Reached.start {cursor : Option String} {start : ℕ}
    (h : Reached X L journal acked base cursor) (hs : startPosition cursor = .ok start) :
    Cleared X L journal acked base start := by
  cases cursor with
  | none =>
    cases hs
    exact ⟨.inl (Nat.zero_le _),fun k e _ hk => absurd hk (Nat.not_lt_zero k)⟩
  | some c =>
    obtain ⟨hr,hc⟩ := h c rfl
    simpa only [savedPosition,hr,hs] using hc

lemma reached_position {n : ℕ} (hn : n < usizeCount) (h : Cleared X L journal acked base n) :
    Reached X L journal acked base (some (localReplicationCursor n)) := by
  intro c hc
  cases hc
  rw [savedPosition_localReplicationCursor hn]
  exact ⟨savedCursor_localReplicationCursor n,h⟩

lemma reached_saved {file : Option String} (h : Cleared X L journal acked base (savedPosition file)) :
    Reached X L journal acked base (savedCursor file) := by
  intro c hc
  have hr := savedCursor_idem hc
  have hp : savedPosition (some c) = savedPosition file := by simp only [savedPosition,hr,hc]
  rw [hp]
  exact ⟨hr,h⟩

/-- The page being sent: it was read from a cleared position, and the records of the
requests already answered are acknowledged. -/
structure OnPage (X : Crates) (L : LocalReplicationSource) (journal : List Event)
    (acked : List String) (base : ℕ) (batch : ReplicationBatch) (start stop : ℕ)
    (sent rest : List ReplicationRecord) : Prop where
  cleared : Cleared X L journal acked base start
  within : stop ≤ journal.length
  page : batch.records = pageRecords X L start ((journal.take stop).drop start)
  next : batch.nextCursor = localReplicationCursor stop
  split : batch.records = sent ++ rest
  acked : ∀ r ∈ sent, r.event.id.toHex ∈ acked

variable {batch : ReplicationBatch} {start stop : ℕ} {sent rest : List ReplicationRecord}

lemma OnPage.mono (h : OnPage X L journal acked base batch start stop sent rest) (ha : acked ⊆ acked') :
    OnPage X L journal acked' base batch start stop sent rest :=
  { h with
    cleared := h.cleared.mono (prefix_refl _) ha
    acked := fun r hr => ha (h.acked r hr) }

lemma getElem?_onPage {k : ℕ} {e : Event} (hs : start ≤ k) (hst : k < stop) (hget : journal[k]? = some e) :
    ((journal.take stop).drop start)[k-start]? = some e := by
  rw [getElem?_drop,getElem?_take,Nat.add_sub_cancel' hs,if_pos hst,hget]

lemma OnPage.finished (h : OnPage X L journal acked base batch start stop sent [])  :
    Cleared X L journal acked base stop := by
  refine ⟨.inr h.within,?_⟩
  intro k e hb hk hget he
  by_cases hs : k < start
  · exact h.cleared.2 k e hb hs hget he
  · have hp := getElem?_onPage (Nat.le_of_not_lt hs) hk hget
    have hm : e ∈ (pageRecords X L start ((journal.take stop).drop start)).map
        ReplicationRecord.event := by
      rw [pageRecords_events,mem_filter]
      exact ⟨mem_of_getElem? hp,he⟩
    rw [← h.page,h.split,append_nil] at hm
    obtain ⟨r,hr,rfl⟩ := mem_map.1 hm
    exact h.acked r hr

/-- With the records up to `r` acknowledged, the page is cleared up to the cursor of `r`. -/
lemma OnPage.reached {bef aft : List ReplicationRecord} {r : ReplicationRecord}
    (h : OnPage X L journal acked base batch start stop sent (bef ++ r :: aft))
    (hsh : journal.length < usizeCount)
    (hn : ∀ x ∈ bef ++ [r], x.event.id.toHex ∈ acked) : Reached X L journal acked base (some r.cursor) := by
  have hr := h.split
  rw [h.page,← append_assoc] at hr
  obtain ⟨k,hk,hc,hb⟩ := page_before hr
  have hst : start+k < stop := by
    rw [length_drop,length_take] at hk
    omega
  have hw := h.within
  rw [hc]
  refine reached_position (by omega) ⟨.inr (by omega),?_⟩
  intro j e hba hj hget he
  by_cases hs : j < start
  · exact h.cleared.2 j e hba hs hget he
  · have hp := getElem?_onPage (Nat.le_of_not_lt hs) (show j < stop by omega) hget
    obtain ⟨x,hx,rfl⟩ := hb (j-start) e (by omega) hp he
    rw [append_assoc,mem_append] at hx
    rcases hx with hx | hx
    · exact h.acked x hx
    · exact hn x hx

structure Safe (X : Crates) (L : LocalReplicationSource) (base : ℕ) (s : Pusher) : Prop where
  short : s.journal.length < usizeCount
  saved : Cleared X L s.journal s.acked base (savedPosition s.cursorFile)
  reading : ∀ cursor, s.phase = .reading cursor → Reached X L s.journal s.acked base cursor
  posting : ∀ batch requests cursor, s.phase = .posting batch requests cursor →
    Reached X L s.journal s.acked base cursor ∧
    ∃ start stop sent, OnPage X L s.journal s.acked base batch start stop sent
      (requests.flatMap SerializedBatch.records)

lemma safe_start (batchSize batchBytes : ℕ) (file : Option String) (hs : journal.length < usizeCount) :
    Safe X L (savedPosition file) (.start batchSize batchBytes journal file) := by
  have hb : Cleared X L journal [] (savedPosition file) (savedPosition file) :=
    ⟨.inl le_rfl,fun k e hle hlt => absurd hlt (Nat.not_lt.2 hle)⟩
  refine ⟨hs,hb,?_,by simp [Pusher.start]⟩
  intro cursor hc
  cases hc
  exact reached_saved hb

variable {s : Pusher}

variable (h : Safe X L base s)
include h

lemma Safe.ended (res : PushEnd) : Safe X L base { s with phase := .ended res } :=
  ⟨h.short,h.saved,by simp,by simp⟩

lemma Safe.persist {c : String}
    (hc : Reached X L s.journal s.acked base (some c)) : Safe X L base (persistCursor s c) :=
  ⟨h.short,(hc c rfl).2,h.reading,h.posting⟩

lemma Safe.receive (ids : List String) : Safe X L base { s with acked := s.acked ++ ids } := by
  have ha : s.acked ⊆ s.acked ++ ids := subset_append_left _ _
  refine ⟨h.short,h.saved.mono (prefix_refl _) ha,?_,?_⟩
  · exact fun cursor hphase => (h.reading cursor hphase).mono (prefix_refl _) ha
  · intro batch requests cursor hphase
    obtain ⟨hr,start,stop,sent,hp⟩ := h.posting batch requests cursor hphase
    exact ⟨hr.mono (prefix_refl _) ha,start,stop,sent,hp.mono ha⟩

lemma Safe.finishPage (hp : OnPage X L s.journal s.acked base batch start stop sent []) :
    Safe X L base (finishPage s batch) := by
  have hw := hp.within
  have hs := h.short
  have hr := reached_position (by omega) hp.finished
  rw [← hp.next] at hr
  refine ⟨h.short,(hr _ rfl).2,?_,?_⟩
  · intro cursor hphase
    simp only [Replication.finishPage] at hphase
    split at hphase
    · simp at hphase
    · cases hphase
      exact hr
  · intro b requests cursor hphase
    simp only [Replication.finishPage] at hphase
    split at hphase <;> simp at hphase

lemma Safe.read : Safe X L base (pushRead X L s) := by
  simp only [pushRead]
  split
  · rename_i cursor hphase
    split
    · exact h.ended _
    · rename_i batch hra
      have hr := h.reading cursor hphase
      obtain ⟨start,stop,hs,hst,hre,hn⟩ := readBatch_page hra
      have hpa : OnPage X L s.journal s.acked base batch start stop [] batch.records :=
        ⟨hr.start hs,hst,hre,hn,rfl,by simp⟩
      split
      · rename_i he
        rw [isEmpty_iff.1 he] at hpa
        exact h.finishPage hpa
      · split
        · exact h.ended _
        · rename_i requests hsp
          refine ⟨h.short,h.saved,by simp,?_⟩
          intro b r c hp
          cases hp
          exact ⟨hr,start,stop,[],by rwa [splitSerializedBatches_records hsp]⟩
  · exact h

omit h

variable {req later : List ReplicationRecord} {rcs : List ReplicationReceipt} {last : Bool}

lemma OnPage.advanced (h : OnPage X L journal acked base batch start stop sent (req ++ later))
    (hs : journal.length < usizeCount) (hc : Reached X L journal acked base cursor)
    (hv : Vouches acked req last rcs)
    (hsa : (last && rcs.all ReplicationReceipt.checkpointSafe) = false) :
    Reached X L journal (acked ++ safeIds rcs) base
      (((adopted rcs).map ReplicationReceipt.cursor).or cursor) := by
  have ha : acked ⊆ acked ++ safeIds rcs := subset_append_left _ _
  cases had : adopted rcs with
  | none => exact hc.mono (prefix_refl _) ha
  | some q =>
    obtain ⟨i,hi,hq,hn⟩ := hv.2 hsa q had
    have hc : q.cursor = req[i].cursor := by simpa [hi,eq_comm] using hq
    have hsp : req ++ later = req.take i ++ req[i] :: (req.drop (i+1) ++ later) := by
      rw [← cons_append,← append_assoc,cons_getElem_drop_succ,take_append_drop]
    have hp := h.mono ha
    rw [hsp] at hp
    rw [Option.map_some,Option.some_or,hc]
    refine hp.reached hs ?_
    rwa [take_append_getElem hi]

/-- An answer all of whose receipts are safe moves its request to the records sent. -/
lemma OnPage.settle (h : OnPage X L journal acked base batch start stop sent (req ++ later))
    (hv : Vouches acked req last rcs)
    (ha : rcs.all ReplicationReceipt.checkpointSafe = true) :
    OnPage X L journal (acked ++ safeIds rcs) base batch start stop (sent ++ req) later := by
  refine { h.mono (subset_append_left _ _) with
    split := by rw [h.split,append_assoc]
    acked := fun r hr => ?_ }
  rcases mem_append.1 hr with hr | hr
  · exact mem_append_left _ (h.acked r hr)
  · exact hv.1 ha r hr

lemma Safe.answered (h : Safe X L base s) (ans : Answer)
    (hv : VouchedPush s (.answer ans)) : Safe X L base (pushAnswered s ans) := by
  simp only [pushAnswered]
  split
  · rename_i batch req later cursor hphase
    obtain ⟨hr,start,stop,sent,hp⟩ := h.posting _ _ _ hphase
    cases ans with
    | failed => exact h.ended _
    | receipts rcs =>
      have hv := hv rcs rfl (req.records,later.isEmpty) (by rw [hphase]; rfl)
      have hs := h.receive (safeIds rcs)
      have ha := hp.advanced h.short hr hv
      simp only [takeReceipts_eq]
      cases hf : rcs.find? fun r => !r.checkpointSafe with
      | some refused =>
        have hr' := ha (by simp [all_safe_eq_false hf])
        cases hs' : ((adopted rcs).map ReplicationReceipt.cursor).or cursor with
        | none => exact hs.ended _
        | some safe =>
          rw [hs'] at hr'
          exact (hs.persist hr').ended _
      | none =>
        have hp' := hp.settle hv (all_safe_of_find_none hf)
        cases hnew : ((adopted rcs).map ReplicationReceipt.cursor).or cursor with
        | none => exact hs.ended _
        | some advanced =>
          cases later with
          | nil => exact hs.finishPage hp'
          | cons next later =>
            have hr' := ha (by simp)
            rw [hnew] at hr'
            refine ⟨h.short,(hr' _ rfl).2,by simp,?_⟩
            intro b r c hpo
            cases hpo
            exact ⟨hr',start,stop,_,hp'⟩
  · exact h

lemma pushStep_journal (s : Pusher) (a : PushAction) :
    (pushStep X L s a).journal = s.journal ++ appended [a] := by
  cases a with
  | read =>
    simp only [pushStep,pushRead,appended,append_nil]
    repeat' split
    all_goals rfl
  | answer ans =>
    simp only [pushStep,pushAnswered,appended,append_nil]
    repeat' split
    all_goals rfl
  | restart es batchSize batchBytes => simp [pushStep,appended]

lemma Safe.step {s : Pusher} (h : Safe X L base s) (a : PushAction) (hv : VouchedPush s a)
    (hsh : (s.journal ++ appended [a]).length < usizeCount) : Safe X L base (pushStep X L s a) := by
  cases a with
  | read => exact h.read
  | answer ans => exact h.answered ans hv
  | restart es batchSize batchBytes =>
    have hs := h.saved.mono (prefix_append s.journal es) (List.Subset.refl _)
    refine ⟨by rwa [pushStep_journal],hs,?_,by simp [pushStep]⟩
    intro cursor hp
    cases hp
    exact reached_saved hs

lemma appended_cons (a : PushAction) (as : List PushAction) :
    appended (a :: as) = appended [a] ++ appended as := by
  cases a <;> simp [appended]

lemma Safe.run (as : List PushAction) (h : Safe X L base s) (hv : VouchedPushes X L s as)
    (hs : (s.journal ++ appended as).length < usizeCount) (n : ℕ) :
    Safe X L base (runPush X L s (as.take n)) := by
  induction as generalizing s n with
  | nil => simpa [runPush] using h
  | cons a as ih =>
    cases n with
    | zero => exact h
    | succ n =>
      rw [appended_cons,← append_assoc,← pushStep_journal (X := X) (L := L)] at hs
      have hst : (s.journal ++ appended [a]).length < usizeCount := by
        rw [← pushStep_journal (X := X) (L := L)]
        rw [length_append] at hs
        omega
      exact ih (h.step a hv.1 hst) hv.2 hs n

end

def Passed (s : Puller) : Prop := ∀ r ∈ s.passed, r.event.id.toHex ∈ s.acked

variable {s : Puller}

lemma Passed.finish (h : Passed s) {batch : ReplicationBatch}
    (hb : ∀ r ∈ batch.records, r.event.id.toHex ∈ s.acked) : Passed (pullFinish s batch) := by
  intro r hr
  rcases mem_append.1 hr with hr | hr
  · exact h r hr
  · exact hb r hr

lemma Passed.step {s : Puller} (h : Passed s) (a : PullAction) (hv : VouchedPull s a) :
    Passed (pullStep s a) := by
  cases a with
  | read page =>
    simp only [pullStep,pullRead]
    split
    · split
      · exact h
      · split
        · rename_i batch he
          exact h.finish (by simp [isEmpty_iff.1 he])
        · exact h
    · exact h
  | answer ans =>
    simp only [pullStep,pullAnswered]
    split
    · rename_i batch hp
      cases ans with
      | failed => exact h
      | receipts receipts =>
        have hv := hv receipts rfl batch.records (by rw [hp]; rfl)
        have hm : Passed { s with acked := s.acked ++ safeIds receipts } :=
          fun r hr => mem_append_left _ (h r hr)
        cases hf : receipts.find? fun r => !r.checkpointSafe with
        | some refused =>
          simp only [hf]
          exact hm
        | none =>
          simp only [hf]
          exact hm.finish (hv (all_safe_of_find_none hf))
    · exact h
  | restart => exact h

lemma Passed.run (as : List PullAction) (h : Passed s)
    (hv : VouchedPulls s as) (n : ℕ) : Passed (runPull s (as.take n)) := by
  induction as generalizing s n with
  | nil => simpa [runPull] using h
  | cons a as ih =>
    cases n with
    | zero => exact h
    | succ n => exact ih (h.step a hv.1) hv.2 n

/-- Checkpoint safety. In every run whose answers account for their requests, the cursor the
pusher has saved passes no exported event, beyond those the file passed at the start, that no
safe receipt has named; and the puller has saved no cursor past a record it received that no
safe receipt has named. -/
theorem checkpoint_safety (X : Crates) (L : LocalReplicationSource) :
    (∀ batchSize batchBytes journal file actions, (journal ++ appended actions).length < usizeCount →
      VouchedPushes X L (.start batchSize batchBytes journal file) actions →
      ∀ n, let s := runPush X L (.start batchSize batchBytes journal file) (actions.take n)
        Receipted X L s.journal s.acked (savedPosition file) (savedPosition s.cursorFile)) ∧
    (∀ file actions, VouchedPulls (.start file) actions →
      ∀ n, Passed (runPull (.start file) (actions.take n))) := by
  refine ⟨?_,?_⟩
  · intro batchSize batchBytes journal file actions hs hv n
    have hjournal : journal.length < usizeCount := by
      rw [length_append] at hs
      omega
    exact ((safe_start batchSize batchBytes file hjournal).run actions hv hs n).saved.2
  · intro file actions hv n
    exact Passed.run actions (by simp [Passed,Puller.start]) hv n

def storedReceipt (source : String) (position : ℕ) (e : Event) : ReplicationReceipt :=
  ⟨source,localReplicationCursor position,e.id.toHex,.stored⟩

def laptopMirror : LocalReplicationSource := ⟨"laptop",none⟩

/-- A refusal of the second event, and a restart after which it is accepted. -/
def refusedOnce : List PushAction :=
  [.read,.answer (.receipts [storedReceipt "laptop" 1 note]),.read,
    .answer (.receipts [⟨"laptop",localReplicationCursor 2,newProfile.id.toHex,.rejected "policy"⟩]),
    .restart [] 1 4096,.read,.answer (.receipts [storedReceipt "laptop" 2 newProfile])]

def notePage : ReplicationBatch := ⟨[⟨"laptop",localReplicationCursor 1,note⟩],localReplicationCursor 1,true⟩

theorem checkpoint_safety_pages : let X := signedOnly [note,newProfile] fun _ => none
    let s := runPush X laptopMirror (.start 1 4096 [note,newProfile] none) (refusedOnce.take 7)
    let t := runPull (.start none) ([.read (some notePage),
      .answer (.receipts [storedReceipt "laptop" 1 note])].take 2)
    (savedPosition s.cursorFile = 2 ∧
      Receipted X laptopMirror s.journal s.acked (savedPosition none) (savedPosition s.cursorFile)) ∧
    (t.passed = notePage.records ∧ Passed t) := by
  obtain ⟨hp,hpu⟩ := checkpoint_safety (signedOnly [note,newProfile] fun _ => none) laptopMirror
  have hs := hp 1 4096 [note,newProfile] none refusedOnce (by decide) (by decide +kernel) 7
  have ht := hpu none [.read (some notePage),.answer (.receipts [storedReceipt "laptop" 1 note])]
    (by decide +kernel) 2
  exact ⟨⟨by decide +kernel,hs⟩,by decide +kernel,ht⟩

/-- An empty answer lets both processes save a cursor past a record that nobody has
acknowledged. -/
theorem empty_answer_passes_record : let X := signedOnly [note,newProfile] fun _ => none
    let s := runPush X laptopMirror (.start 1 4096 [note,newProfile] none)
      [.read,.answer (.receipts [storedReceipt "laptop" 1 note]),.read,.answer (.receipts [])]
    let t := runPull (.start none) [.read (some notePage),.answer (.receipts [])]
    (savedPosition s.cursorFile = 2 ∧ s.journal[1]? = some newProfile ∧
      exports X laptopMirror newProfile = true ∧ newProfile.id.toHex ∉ s.acked) ∧
    (t.cursorFile = some notePage.nextCursor ∧ t.passed = notePage.records ∧ note.id.toHex ∉ t.acked) := by
  decide +kernel

end BuzzSolo.Replication
