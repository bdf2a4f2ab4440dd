import BuzzSolo.RestartTransparency

/-! Appends that fail. A call of `accept` may leave any prefix of its record in the log; every run
of appends that are clean ends in a log that holds each stored event once. -/
namespace BuzzSolo.EventStore

open Ingest LineText List

variable {X : Crates}

/-- A call of `accept` with what becomes of its append, if it makes one. -/
abbrev Call := Event × AppendOutcome

def freshStore : Store := ⟨[],[],∅,some ByteArray.empty⟩

def runCalls (X : Crates) (s : Store) : List Call → Store
  | [] => s
  | (e,io) :: calls => runCalls X (accept X io s e).1 calls

def returnedStored : Except StoreError WriteResult → Bool
  | .ok result => result.accepted && result.message = "stored"
  | .error _ => false

def storedBy (X : Crates) (s : Store) : List Call → List Event
  | [] => []
  | (e,io) :: calls =>
    if returnedStored (accept X io s e).2 then e :: storedBy X (accept X io s e).1 calls
    else storedBy X (accept X io s e).1 calls

def Appends (X : Crates) (s : Store) (e : Event) : Prop :=
  Verified X.toNostr e ∧ decideEvent s.events (e.id ∈ s.seenIds) e = .stored

def EndsLine (file : ByteArray) : Prop :=
  match String.fromUTF8? file with
  | some text => text = "" ∨ text.toList.getLast? = some '\n'
  | none => False

/-- No record that replay reads from the log carries the id. -/
def Unrecorded (X : Crates) (file : ByteArray) (id : EventId) : Prop :=
  match replayLog X (some file) with
  | .ok replayed => id ∉ replayed.seenIds
  | .error _ => True

/-- At least the JSON text of the record reaches the file, if not its newline. -/
def LandsWhole (X : Crates) (e : Event) : AppendOutcome → Prop
  | .synced => True
  | .failed landed => (recordText X e).toByteArray.size ≤ landed

/-- The append leaves no byte, or it starts on a line of its own, is the first one of its
id and leaves a whole record. -/
def CleanAppend (X : Crates) (file : ByteArray) (e : Event) (io : AppendOutcome) : Prop :=
  io = .failed 0 ∨ (EndsLine file ∧ Unrecorded X file e.id ∧ LandsWhole X e io)

/-- Every call of the run that appends does so cleanly, in the state it finds. -/
def CleanRun (X : Crates) (s : Store) : List Call → Prop
  | [] => True
  | (e,io) :: calls =>
    (∀ file, s.writer = some file → Appends X s e → CleanAppend X file e io) ∧
      CleanRun X (accept X io s e).1 calls

/-- Replay succeeds and gives a journal with every event of `stored`, in order, and no
id twice. -/
def Recovers (X : Crates) (file : Option ByteArray) (stored : List Event) : Prop :=
  ∃ replayed, replayLog X file = .ok replayed ∧ stored.Sublist replayed.journal ∧
    (replayed.journal.map Event.id).Nodup

/-- The file holds the records one to a line; the last may lack its newline. -/
inductive Spells (X : Crates) : ByteArray → List Event → Prop
  | whole (records : List Event) : Spells X (logText X records).toByteArray records
  | unterminated (records : List Event) (last : Event) :
    Spells X (logText X records ++ recordText X last).toByteArray (records ++ [last])

variable {file : ByteArray}

lemma accept_log_cases (s : Store) (e : Event) (io : AppendOutcome) (hto : Serializes X e)
    (hf : s.writer = some file) :
    ((accept X io s e).1.writer = some file ∧ returnedStored (accept X io s e).2 = false) ∨
    (Appends X s e ∧ ∃ ld, io = .failed ld ∧ (accept X io s e).1.writer =
        some (file ++ (recordText X e ++ "\n").toByteArray.extract 0 ld) ∧
      returnedStored (accept X io s e).2 = false) ∨ (Appends X s e ∧ io = .synced ∧
      (accept X io s e).1.writer = some (file ++ (recordText X e ++ "\n").toByteArray) ∧
      returnedStored (accept X io s e).2 = true) := by
  have hto : X.toVec e = .ok (recordText X e) := hto
  cases hv : verifyEvent X.toNostr e with
  | error why =>
    exact .inl (by simp [accept,hv,hf,returnedStored,WriteResult.ofRejected])
  | ok u =>
    cases hd : decideEvent s.events (e.id ∈ s.seenIds) e with
    | stored =>
      have ha : Appends X s e := ⟨hv,hd⟩
      cases io with
      | failed ld =>
        exact .inr (.inl ⟨ha,ld,rfl, by simp [accept,hv,hd,hf,hto,returnedStored]⟩)
      | synced =>
        exact .inr (.inr ⟨ha,rfl, by simp [accept,hv,hd,hf,hto,returnedStored,commit,WriteResult.ofAccepted]⟩)
    | duplicate | superseded | ephemeral =>
      exact .inl (by simp [accept,hv,hd,hf,returnedStored,WriteResult.ofAccepted])

lemma extract_append_newline (t : String) (ld : ℕ) (h : t.toByteArray.size ≤ ld) :
    (t ++ "\n").toByteArray.extract 0 ld = t.toByteArray ∨
    (t ++ "\n").toByteArray.extract 0 ld = (t ++ "\n").toByteArray := by
  by_cases heq : ld = t.toByteArray.size
  · exact .inl (ByteArray.extract_append_eq_left heq)
  · right
    have hs : (t.toByteArray ++ "\n".toByteArray).size ≤ ld := by
      have : "\n".toByteArray.size = 1 := by decide
      rw [ByteArray.size_append]
      omega
    apply ByteArray.ext
    rw [ByteArray.data_extract]
    exact Array.extract_eq_self_of_le hs

section

variable {recs : List Event} {file : ByteArray}

lemma replayLog_of_spells (h : Spells X file recs)
    (hv : ∀ e ∈ recs, Verified X.toNostr e) (hrt : ∀ e ∈ recs, RoundTrips X e) :
    ∃ rep, replayLog X (some file) = .ok rep ∧ rep.journal = recs ∧
      ∀ i, i ∈ rep.seenIds ↔ ∃ e ∈ recs, e.id = i := by
  have ho : ∀ e ∈ recs, OneLine (recordText X e) := fun e he => (recordText_of_roundTrips (hrt e he)).2.2.1
  obtain ⟨t,rfl,hl⟩ : ∃ t : String, file = t.toByteArray ∧ lines t = recs.map (recordText X) := by
    cases h with
    | whole =>
      refine ⟨_,rfl,?_⟩
      rw [logText,lines_framed _ _ _ (by simp)]
      · simp
      · simpa using ho
    | unterminated recs last =>
      refine ⟨_,rfl,?_⟩
      have hla := ho last (by simp)
      have hne : recordText X last ≠ "" := by
        obtain ⟨t,hto,-,-,hen⟩ := hrt last (by simp)
        intro hn
        simp [recordText,hto] at hn
        simp [hn] at hen
      rw [logText,← framed_append_tail,lines_framed _ _ _ (by simpa using hla.no_newline)]
      · simp [hne]
      · simp only [mem_map,forall_exists_index,and_imp,forall_apply_eq_imp_iff₂]
        exact fun e he => ho e (by simp [he])
  obtain ⟨seen,hrun,hse⟩ := replayLines_journal recs .default 1 hv hrt
  refine ⟨_,by simp only [replayLog,fromUTF8_toByteArray,hl]; exact hrun,?_,?_⟩
  · simp [ReplayedLog.default]
  · simpa [ReplayedLog.default] using hse

lemma spells_whole_of_endsLine (h : Spells X file recs) (hrt : ∀ e ∈ recs, RoundTrips X e)
    (he : EndsLine file) : file = (logText X recs).toByteArray := by
  cases h with
  | whole => rfl
  | unterminated recs last =>
    obtain ⟨t,hto,-,-,hla⟩ := hrt last (by simp)
    have hr : recordText X last = t := by simp [recordText,hto]
    have hl : (logText X recs ++ recordText X last).toList.getLast? = some '\x7d' := by
      rw [hr]
      exact getLast_toList_append hla
    rw [EndsLine,fromUTF8_toByteArray] at he
    rcases he with hn | hnl
    · simp [hn] at hl
    · rw [hl] at hnl
      exact absurd hnl (by decide)

/-- A whole record after whole lines: the file then spells one record more. -/
lemma spells_append (e : Event) {bs : ByteArray}
    (h : bs = (recordText X e).toByteArray ∨ bs = (recordText X e ++ "\n").toByteArray) :
    Spells X ((logText X recs).toByteArray ++ bs) (recs ++ [e]) := by
  rcases h with rfl | rfl
  · exact .unterminated recs e
  · rw [← String.toByteArray_append,← logText_append]
    exact .whole (recs ++ [e])

end

/-- What every clean run keeps: the log spells verified records with distinct ids, among
them the stored events. -/
structure Recorded (X : Crates) (s : Store) (stored records : List Event) : Prop where
  spelled : ∃ file, s.writer = some file ∧ Spells X file records
  verified : ∀ e ∈ records, Verified X.toNostr e
  roundTrips : ∀ e ∈ records, RoundTrips X e
  stored_sublist : stored.Sublist records
  nodup : (records.map Event.id).Nodup

lemma recorded_fresh : Recorded X freshStore [] [] := by
  have hs : Spells X ByteArray.empty [] := by simpa [logText] using Spells.whole (X := X) []
  exact ⟨⟨_,rfl,hs⟩,by simp,by simp,by simp,by simp⟩

variable {s : Store} {stored records : List Event}

lemma Recorded.recovers (h : Recorded X s stored records) : Recovers X s.writer stored := by
  obtain ⟨file,hf,hs⟩ := h.spelled
  obtain ⟨rep,hrun,hj,-⟩ := replayLog_of_spells hs h.verified h.roundTrips
  exact ⟨rep,hf ▸ hrun,hj ▸ h.stored_sublist,hj ▸ h.nodup⟩

variable {e : Event}

/-- A whole record of a new id adds itself to the log, whether or not it counts as stored. -/
lemma Recorded.append {t : Store} {stored' : List Event}
    {bs : ByteArray} (h : Recorded X s stored records) (hrt : RoundTrips X e)
    (hf : s.writer = some file) (hv : Verified X.toNostr e) (hen : EndsLine file)
    (hnew : Unrecorded X file e.id)
    (hb : bs = (recordText X e).toByteArray ∨ bs = (recordText X e ++ "\n").toByteArray)
    (ht : t.writer = some (file ++ bs)) (hst : stored'.Sublist (stored ++ [e])) :
    Recorded X t stored' (records ++ [e]) := by
  obtain ⟨file',hf',hs⟩ := h.spelled
  have hsa : file' = file := Option.some.inj (hf'.symm.trans hf)
  subst hsa
  obtain ⟨rep,hrun,-,hse⟩ := replayLog_of_spells hs h.verified h.roundTrips
  have hfr : ∀ a ∈ records, a.id ≠ e.id := by
    intro a ha hid
    rw [Unrecorded,hrun] at hnew
    exact hnew ((hse e.id).2 ⟨a,ha,hid⟩)
  have hw := spells_whole_of_endsLine hs h.roundTrips hen
  have hl : ∀ {P : Event → Prop}, (∀ a ∈ records, P a) → P e → ∀ a ∈ records ++ [e], P a := by
    intro P hr he a ha
    rcases mem_append.1 ha with ha | ha
    · exact hr a ha
    · exact mem_singleton.1 ha ▸ he
  refine ⟨⟨_,ht,hw ▸ spells_append e hb⟩,hl h.verified hv,hl h.roundTrips hrt,
    hst.trans (h.stored_sublist.append (List.Sublist.refl _)),?_⟩
  rw [map_append,nodup_append]
  refine ⟨h.nodup,by simp,?_⟩
  intro i hi j hj hij
  obtain ⟨a,ha,rfl⟩ := mem_map.1 hi
  have hje : j = e.id := by simpa using hj
  exact hfr a ha (hij.trans hje)

/-- One clean call keeps the log readable. -/
lemma accept_recorded {io : AppendOutcome} (hrt : RoundTrips X e)
    (hc : ∀ file, s.writer = some file → Appends X s e → CleanAppend X file e io)
    (h : Recorded X s stored records) : ∃ records', Recorded X (accept X io s e).1
      (stored ++ if returnedStored (accept X io s e).2 then [e] else []) records' := by
  obtain ⟨file,hf,hsp⟩ := h.spelled
  have hs : ∀ t : Store, t.writer = some file → Recorded X t stored records := fun t ht =>
    ⟨⟨file,ht,hsp⟩,h.verified,h.roundTrips,h.stored_sublist,h.nodup⟩
  have hto := (recordText_of_roundTrips hrt).1
  rcases accept_log_cases s e io hto hf with ⟨hw,hr⟩ | ⟨ha,landed,rfl,hw,hr⟩ | ⟨ha,rfl,hw,hr⟩
  · exact ⟨records,by simpa [hr] using hs _ hw⟩
  · rcases hc file hf ha with hze | ⟨he,hnew,hl⟩
    · have hz : landed = 0 := by simpa using hze
      subst hz
      have hw' : (accept X (.failed 0) s e).1.writer = some file := by simpa using hw
      exact ⟨records,by simpa [hr] using hs _ hw'⟩
    · have hb := extract_append_newline (recordText X e) landed hl
      exact ⟨records ++ [e],h.append hrt hf ha.1 he hnew hb hw (by simp)⟩
  · rcases hc file hf ha with hze | ⟨he,hnew,-⟩
    · simp at hze
    · exact ⟨records ++ [e],h.append hrt hf ha.1 he hnew (.inr rfl) hw (by simp [hr])⟩

lemma runCalls_recorded (cs : List Call) (s : Store) (stored records : List Event)
    (hrt : ∀ c ∈ cs, RoundTrips X c.1) (hcl : CleanRun X s cs)
    (h : Recorded X s stored records) :
    ∃ records', Recorded X (runCalls X s cs) (stored ++ storedBy X s cs) records' := by
  induction cs generalizing s stored records with
  | nil => exact ⟨records,by simpa [runCalls,storedBy] using h⟩
  | cons c cs ih =>
    obtain ⟨e,io⟩ := c
    obtain ⟨records',h'⟩ := accept_recorded (hrt (e,io) (by simp)) hcl.1 h
    obtain ⟨records'',h''⟩ := ih _ _ _ (fun c hc => hrt c (by simp [hc])) hcl.2 h'
    refine ⟨records'',?_⟩
    cases hr : returnedStored (accept X io s e).2 <;>
      simpa [runCalls,storedBy,hr] using h''

lemma CleanRun.take {cs : List Call} (h : CleanRun X s cs) (n : ℕ) : CleanRun X s (cs.take n) := by
  induction cs generalizing s n with
  | nil => simpa using h
  | cons c cs ih =>
    cases n with
    | zero => simp [CleanRun]
    | succ n => exact ⟨h.1,ih h.2 n⟩

/-- Recovery: in a run from an empty log whose appends are all clean, the log of every
state reached can be replayed and holds the events stored so far, in order and once. -/
theorem log_recovery (X : Crates) (calls : List Call) (hrt : ∀ c ∈ calls, RoundTrips X c.1)
    (hclean : CleanRun X freshStore calls) (n : ℕ) : Recovers X (runCalls X freshStore (calls.take n)).writer
      (storedBy X freshStore (calls.take n)) := by
  have hrt' : ∀ c ∈ calls.take n, RoundTrips X c.1 := fun c hc => hrt c (mem_of_mem_take hc)
  obtain ⟨records,h⟩ := runCalls_recorded (calls.take n) freshStore [] [] hrt' (hclean.take n)
    recorded_fresh
  exact h.recovers

lemma accept_failed (ld : ℕ) (hto : Serializes X e) (ha : Appends X s e) (hf : s.writer = some file) :
    (accept X (.failed ld) s e).1 =
      { s with writer := some (file ++ (recordText X e ++ "\n").toByteArray.extract 0 ld) } := by
  have hto : X.toVec e = .ok (recordText X e) := hto
  have hv : verifyEvent X.toNostr e = .ok () := ha.1
  simp [accept,hv,ha.2,hf,hto]

section

variable {a b : Event}

lemma cleanRun_failures (ha : RoundTrips X a) (hap : Appends X freshStore a) (hid : a.id ≠ b.id) :
    CleanRun X freshStore [(a,.failed 0),(a,.failed (recordText X a ++ "\n").toByteArray.size),
      (b,.synced)] := by
  have hto := (recordText_of_roundTrips ha).1
  have hs₁ : (accept X (.failed 0) freshStore a).1 = freshStore := by
    rw [accept_failed 0 hto hap rfl]
    simp [freshStore]
  have hs₂ : (accept X (.failed (recordText X a ++ "\n").toByteArray.size) freshStore a).1.writer =
      some (logText X [a]).toByteArray := by
    rw [accept_failed _ hto hap rfl,ByteArray.extract_zero_size,ByteArray.empty_append]
    simp [logText]
  obtain ⟨rep,hrun,-,hse⟩ := replayLog_of_spells (.whole [a]) (by simpa using hap.1) (by simpa using ha)
  refine ⟨fun _ _ _ => .inl rfl,?_⟩
  rw [hs₁]
  refine ⟨fun file hf _ => ?_,fun file hf _ => ?_,trivial⟩
  · have he : ByteArray.empty = file := Option.some.inj hf
    have hs : (recordText X a).toByteArray.size ≤ (recordText X a ++ "\n").toByteArray.size := by
      simp
    have hnew : Unrecorded X "".toByteArray a.id := by
      rw [Unrecorded,replayLog,fromUTF8_toByteArray]
      simp [lines,splitInclusive,replayLines,ReplayedLog.default]
    subst he
    exact .inr ⟨.inl rfl,hnew,hs⟩
  · have hf' := Option.some.inj (hs₂.symm.trans hf)
    subst hf'
    refine .inr ⟨?_,?_,trivial⟩
    · rw [EndsLine,fromUTF8_toByteArray]
      refine .inr ?_
      rw [logText,map_cons,map_nil,framed_cons,framed_nil,String.append_assoc]
      exact getLast_toList_append (by decide)
    · rw [Unrecorded,hrun]
      simpa [hse] using hid

lemma run_after_failure (ld : ℕ) (ha : Serializes X a) (hb : Serializes X b)
    (hap : Appends X freshStore a) (hab : Appends X freshStore b) :
    storedBy X freshStore [(a,.failed ld),(b,.synced)] = [b] ∧
    (runCalls X freshStore [(a,.failed ld),(b,.synced)]).writer =
      some ((recordText X a ++ "\n").toByteArray.extract 0 ld ++ (recordText X b ++ "\n").toByteArray) := by
  have hta : X.toVec a = .ok (recordText X a) := ha
  have htb : X.toVec b = .ok (recordText X b) := hb
  have hva : verifyEvent X.toNostr a = .ok () := hap.1
  have hvb : verifyEvent X.toNostr b = .ok () := hab.1
  have hda : decideEvent [] false a = .stored := hap.2
  have hdb : decideEvent [] false b = .stored := hab.2
  simp [runCalls,storedBy,returnedStored,accept,freshStore,hta,htb,hva,hvb,hda,hdb,commit,
    WriteResult.ofAccepted]

/-- A record left whole by an append whose sync failed is written a second time. -/
lemma replay_resent (ha : RoundTrips X a) (hap : Appends X freshStore a) :
    ∃ rep, replayLog X (runCalls X freshStore
      [(a,.failed (recordText X a ++ "\n").toByteArray.size),(a,.synced)]).writer = .ok rep ∧
        rep.journal = [a,a] := by
  have hto := (recordText_of_roundTrips ha).1
  have hv : ∀ e ∈ [a,a], Verified X.toNostr e := by simpa using hap.1
  have hl : logText X [a,a] = (recordText X a ++ "\n") ++ (recordText X a ++ "\n") := by
    simp [logText]
  obtain ⟨rep,hrun,hj,-⟩ := replayLog_of_spells (.whole [a,a]) hv (by simpa using ha)
  rw [(run_after_failure _ hto hto hap hap).2,ByteArray.extract_zero_size, ← String.toByteArray_append,← hl]
  exact ⟨rep,hrun,hj⟩

lemma eventText_ne_torn (a b : Event) : eventText a ≠ "\x7b\"id\":" ++ eventText b := by
  intro h
  have hq := String.append_right_inj _ |>.1 h
  have hh := congrArg (fun s => s.toList.head?) hq
  simp [JsonText.quote,eventText] at hh

/-- Six bytes of a record left by a failed append swallow the record after them. -/
lemma replay_torn {signed : List Event} {pu : String → Option Uuid}
    (ha : Appends (signedOnly signed pu) freshStore a)
    (hap : Appends (signedOnly signed pu) freshStore b) :
    ∃ src, replayLog (signedOnly signed pu) (runCalls (signedOnly signed pu)
      freshStore [(a,.failed 6),(b,.synced)]).writer = .error (.malformedRecord 1 src) := by
  have hto : ∀ e, Serializes (signedOnly signed pu) e := fun _ => rfl
  have hr : ∀ e, recordText (signedOnly signed pu) e = eventText e := fun _ => rfl
  have hla : (eventText a ++ "\n").toByteArray.extract 0 6 = "\x7b\"id\":".toByteArray := by
    rw [eventText,String.append_assoc,String.toByteArray_append]
    exact ByteArray.extract_append_eq_left (by decide)
  have hw := (run_after_failure 6 (hto a) (hto b) ha hap).2
  rw [hr,hr,hla,← String.toByteArray_append] at hw
  have hf : "\x7b\"id\":" ++ (eventText b ++ "\n") = framed ["\x7b\"id\":" ++ eventText b] "" := by
    simp [String.append_assoc]
  have hnl : '\n' ∉ ("\x7b\"id\":" ++ eventText b).toList := by
    simpa [String.toList_append] using newline_not_mem_eventText b
  have hl : ("\x7b\"id\":" ++ eventText b).toList.getLast? = some '\x7d' :=
    getLast_toList_append (getLast_eventText b)
  have hli := lines_framed ["\x7b\"id\":" ++ eventText b] ""
    (by simpa using ⟨hnl,by rw [hl]; decide⟩) (by simp)
  have hb : isBlank ("\x7b\"id\":" ++ eventText b) = false := by
    rw [isBlank,all_eq_false]
    exact ⟨'\x7d',mem_of_getLast? hl,by decide⟩
  have hre : (signedOnly signed pu).fromStr ("\x7b\"id\":" ++ eventText b) =
      .error "not the text of an event" := by
    have hn : (signed.find? fun e => eventText e = "\x7b\"id\":" ++ eventText b) = none := by
      simp [eventText_ne_torn]
    simp only [signedOnly,hn]
  refine ⟨"not the text of an event",?_⟩
  rw [hw,hf]
  simp only [replayLog,fromUTF8_toByteArray,hli]
  simp [replayLines,hb,hre]

end

lemma appends_note_newProfile : ∀ e ∈ [note,newProfile],
    Appends (signedOnly [note,newProfile] fun _ => none) freshStore e := by
  have hi : IdsMatch [note,newProfile] := by decide +kernel
  have hnew : ∀ e ∈ [note,newProfile], decideEvent [] false e = .stored := by decide +kernel
  exact fun e he => ⟨verified_signedOnly hi he,hnew e he⟩

theorem log_recovery_note : let X := signedOnly [note,newProfile] fun _ => none
    let calls : List Call := [(note,.failed 0),
      (note,.failed (recordText X note ++ "\n").toByteArray.size),(newProfile,.synced)]
    Recovers X (runCalls X freshStore (calls.take 3)).writer (storedBy X freshStore (calls.take 3)) := by
  have hid : note.id ≠ newProfile.id := by decide +kernel
  have hrt : ∀ e ∈ [note,newProfile], RoundTrips (signedOnly [note,newProfile] fun _ => none) e :=
    fun e he => roundTrips_signedOnly he
  have hc : ∀ landed, ∀ c ∈ ([(note,.failed 0),(note,.failed landed),(newProfile,.synced)] :
      List Call), RoundTrips (signedOnly [note,newProfile] fun _ => none) c.1 := by
    simpa using hrt
  exact log_recovery _ _ (hc _)
    (cleanRun_failures (hrt note (by simp)) (appends_note_newProfile note (by simp)) hid) 3

/-- A torn record makes the log unreadable though the next event was stored, and a record
whose sync failed ends up in it twice. -/
theorem failed_append_breaks_log : let X := signedOnly [note,newProfile] fun _ => none
    (storedBy X freshStore [(note,.failed 6),(newProfile,.synced)] = [newProfile] ∧
      ∃ source, replayLog X (runCalls X freshStore
        [(note,.failed 6),(newProfile,.synced)]).writer = .error (.malformedRecord 1 source)) ∧
    (storedBy X freshStore [(note,.failed (recordText X note ++ "\n").toByteArray.size), (note,.synced)] =
      [note] ∧
      ∃ replayed, replayLog X (runCalls X freshStore
        [(note,.failed (recordText X note ++ "\n").toByteArray.size),(note,.synced)]).writer =
          .ok replayed ∧ replayed.journal = [note,note]) := by
  have hn := appends_note_newProfile note (by simp)
  have hp := appends_note_newProfile newProfile (by simp)
  have hrt : RoundTrips (signedOnly [note,newProfile] fun _ => none) note := roundTrips_signedOnly (by simp)
  have hto : ∀ e, Serializes (signedOnly [note,newProfile] fun _ => none) e := fun _ => rfl
  exact ⟨⟨(run_after_failure 6 (hto note) (hto newProfile) hn hp).1,replay_torn hn hp⟩,
    (run_after_failure _ (hto note) (hto note) hn hn).1,replay_resent hrt hn⟩

end BuzzSolo.EventStore
