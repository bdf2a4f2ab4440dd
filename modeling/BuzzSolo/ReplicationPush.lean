import BuzzSolo.Checks
import BuzzSolo.JsonText
import BuzzSolo.Replication

/-! The pusher, which drains the local journal to a destination: it reads a page, splits it into
requests within a byte budget, posts them and saves a cursor after each answer. It may end at any
time, and a new process starts from the saved cursor. -/
namespace BuzzSolo.Replication

open EventStore JsonText LineText List

structure SerializedBatch (α : Type) where
  records : List α
  body : String

section

variable {α : Type}

/-- The size of the body once `text` is in it too, beside `count` others. -/
def candidateSize (count bodySize : ℕ) (text : String) : ℕ :=
  saturatingAdd (saturatingAdd bodySize (if 0 < count then 1 else 0)) text.utf8ByteSize

/-- Take records from the front while both limits hold; the first one is taken whatever
its size. -/
def fillBatch (recordLimit byteLimit : ℕ) : ℕ → ℕ → List (α × String) → List (α × String) × List (α × String)
  | _, _, [] => ([],[])
  | count, bodySize, record :: pending =>
    if count < recordLimit then
      if 0 < count ∧ byteLimit < candidateSize count bodySize record.2 then ([],record :: pending)
      else
        let filled := fillBatch recordLimit byteLimit (count+1)
          (candidateSize count bodySize record.2) pending
        (record :: filled.1,filled.2)
    else ([],record :: pending)

def splitFrom (recordLimit byteLimit : ℕ) : ℕ → List (α × String) → List (SerializedBatch α)
  | 0, _ => []
  | _+1, [] => []
  | fuel+1, pending =>
    let filled := fillBatch recordLimit byteLimit 0 2 pending
    ⟨filled.1.map Prod.fst,array (filled.1.map Prod.snd)⟩ :: splitFrom recordLimit byteLimit fuel filled.2

def serialized (toVec : α → Except String String) (record : α) : Except String (α × String) := do
  let text ← toVec record
  .ok (record,text)

def splitSerializedBatches (toVec : α → Except String String) (records : List α)
    (recordLimit byteLimit : ℕ) : Except String (List (SerializedBatch α)) := do
  let pending ← Checks.collect (serialized toVec) records
  .ok (splitFrom (max recordLimit 1) byteLimit records.length pending)

lemma fillBatch_append (rl bl cnt bodySize : ℕ) (pend : List (α × String)) :
    (fillBatch rl bl cnt bodySize pend).1 ++ (fillBatch rl bl cnt bodySize pend).2 = pend := by
  induction pend generalizing cnt bodySize with
  | nil => rfl
  | cons rc pend ih =>
    simp only [fillBatch]
    split
    · split
      · rfl
      · simp [ih]
    · rfl

variable {recordLimit : ℕ}

lemma fillBatch_progress (hl : 1 ≤ recordLimit) (bl bodySize : ℕ)
    (rc : α × String) (pend : List (α × String)) :
    (fillBatch recordLimit bl 0 bodySize (rc :: pend)).2.length ≤ pend.length := by
  have hc : 0 < recordLimit := hl
  simp only [fillBatch,hc,if_true,lt_self_iff_false,false_and,if_false]
  have ha := congrArg length (fillBatch_append recordLimit bl (0+1) (candidateSize 0 bodySize rc.2) pend)
  rw [length_append] at ha
  omega

/-- Every record is in one request, in order. -/
lemma splitFrom_records (hl : 1 ≤ recordLimit) (bl fuel : ℕ)
    (pend : List (α × String)) (hf : pend.length ≤ fuel) :
    (splitFrom recordLimit bl fuel pend).flatMap SerializedBatch.records = pend.map Prod.fst := by
  induction fuel generalizing pend with
  | zero => simp [splitFrom,length_eq_zero_iff.1 (Nat.le_zero.1 hf)]
  | succ fuel ih =>
    cases pend with
    | nil => simp [splitFrom]
    | cons rc pend =>
      have hle : pend.length ≤ fuel := by simpa using hf
      have hr := ih _ ((fillBatch_progress hl bl 2 rc pend).trans hle)
      rw [splitFrom,flatMap_cons,hr,← map_append,fillBatch_append]
      simp

variable {toVec : α → Except String String} {records : List α} {pend : List (α × String)}

lemma collect_serialized_fst (h : Checks.collect (serialized toVec) records = .ok pend) :
    pend.map Prod.fst = records := by
  rw [Checks.collect_eq_ok] at h
  induction h with
  | nil => rfl
  | cons hf _ ih =>
    simp only [serialized,Checks.bind_eq_ok,Except.ok.injEq] at hf
    obtain ⟨t,-,rfl⟩ := hf
    rw [map_cons,ih]

variable {byteLimit : ℕ}

lemma splitSerializedBatches_records {batches : List (SerializedBatch α)}
    (h : splitSerializedBatches toVec records recordLimit byteLimit = .ok batches) :
    batches.flatMap SerializedBatch.records = records := by
  simp only [splitSerializedBatches,Checks.bind_eq_ok,Except.ok.injEq] at h
  obtain ⟨pend,hp,rfl⟩ := h
  have hf := collect_serialized_fst hp
  have hl : pend.length ≤ records.length := by simp [← hf]
  rw [splitFrom_records (Nat.le_max_right _ _) _ _ _ hl,hf]

/-- The bytes that items take in an array, each with the sign before it. -/
def itemSizes (texts : List String) : ℕ := (texts.map fun text => text.utf8ByteSize+1).sum

lemma size_arrayTail (texts : List String) : (arrayTail texts).utf8ByteSize = itemSizes texts+1 := by
  induction texts with
  | nil => rfl
  | cons t ts ih =>
    have hc : ",".utf8ByteSize = 1 := rfl
    simp only [arrayTail,String.utf8ByteSize_append,ih,itemSizes,map_cons,sum_cons]
    omega

lemma size_array {texts : List String} (h : texts ≠ []) : (array texts).utf8ByteSize = itemSizes texts+1 := by
  cases texts with
  | nil => exact absurd rfl h
  | cons t ts =>
    have ho : "[".utf8ByteSize = 1 := rfl
    simp only [array,String.utf8ByteSize_append,size_arrayTail,itemSizes,map_cons,sum_cons]
    omega

@[simp] lemma itemSizes_append (fr back : List String) :
    itemSizes (fr ++ back) = itemSizes fr + itemSizes back := by
  simp [itemSizes]

def bodyLen (body : String) : ℕ := min body.utf8ByteSize (usizeCount-1)

/-- The size the loop counts is the length of the array. -/
lemma candidateSize_eq (fr : List String) (text : String) :
    candidateSize fr.length (bodyLen (array fr)) text = bodyLen (array (fr ++ [text])) := by
  have hs : (array (fr ++ [text])).utf8ByteSize = itemSizes fr+(text.utf8ByteSize+1)+1 := by
    rw [size_array (by simp),itemSizes_append]
    simp [itemSizes]
  unfold candidateSize saturatingAdd bodyLen
  rw [hs]
  cases fr with
  | nil =>
    have he : (array []).utf8ByteSize = 2 := rfl
    have hn : itemSizes [] = 0 := rfl
    simp only [length_nil,lt_self_iff_false,if_false]
    omega
  | cons t ts =>
    rw [size_array (by simp)]
    simp only [length_cons,Nat.zero_lt_succ,if_true]
    omega

structure Filled (recordLimit byteLimit : ℕ) (front taken left : List (α × String)) : Prop where
  few : taken = [] ∨ (front ++ taken).length ≤ recordLimit
  small : taken = [] ∨ (front ++ taken).length = 1 ∨
    bodyLen (array ((front ++ taken).map Prod.snd)) ≤ byteLimit
  full : ∀ r ∈ left.head?, recordLimit ≤ (front ++ taken).length ∨
    byteLimit < bodyLen (array ((front ++ taken ++ [r]).map Prod.snd))

lemma Filled.cons {fr taken left : List (α × String)} {rc : α × String}
    (h : Filled recordLimit byteLimit (fr ++ [rc]) taken left) (hc : fr.length < recordLimit)
    (hsi : fr.length = 0 ∨ bodyLen (array ((fr ++ [rc]).map Prod.snd)) ≤ byteLimit) :
    Filled recordLimit byteLimit fr (rc :: taken) left := by
  obtain ⟨hf,hs,hfu⟩ := h
  refine ⟨.inr ?_,.inr ?_,?_⟩
  · rw [append_cons]
    rcases hf with rfl | hf
    · simpa using hc
    · exact hf
  · rw [append_cons]
    rcases hs with rfl | hs
    · simpa using hsi
    · exact hs
  · rwa [append_cons]

lemma filled_fillBatch (rl bl : ℕ) (fr pend : List (α × String)) : Filled rl bl fr
      (fillBatch rl bl fr.length (bodyLen (array (fr.map Prod.snd))) pend).1
      (fillBatch rl bl fr.length (bodyLen (array (fr.map Prod.snd))) pend).2 := by
  induction pend generalizing fr with
  | nil => exact ⟨.inl rfl,.inl rfl,by simp [fillBatch]⟩
  | cons rc pend ih =>
    have hc := candidateSize_eq (fr.map Prod.snd) rc.2
    have ht : fr.map Prod.snd ++ [rc.2] = (fr ++ [rc]).map Prod.snd := by simp
    rw [length_map,ht] at hc
    rw [fillBatch,hc]
    split_ifs with hco hb
    · exact ⟨.inl rfl,.inl rfl,fun r hr => .inr (by cases hr; simpa using hb.2)⟩
    · have hre := ih (fr ++ [rc])
      rw [length_append,length_singleton] at hre
      exact hre.cons hco (by omega)
    · exact ⟨.inl rfl,.inl rfl,fun r _ => .inl (by simpa using hco)⟩

lemma fillBatch_cons (hl : 1 ≤ recordLimit) (bl : ℕ) (rc : α × String) (pend : List (α × String)) :
    ∃ taken left, fillBatch recordLimit bl 0 2 (rc :: pend) = (rc :: taken,left) ∧
      pend = taken ++ left ∧ Filled recordLimit bl [] (rc :: taken) left := by
  have hf : Filled recordLimit bl [] (fillBatch recordLimit bl 0 2 (rc :: pend)).1
      (fillBatch recordLimit bl 0 2 (rc :: pend)).2 :=
    filled_fillBatch recordLimit bl [] (rc :: pend)
  have ha := fillBatch_append recordLimit bl 0 2 (rc :: pend)
  have hp := fillBatch_progress hl bl 2 rc pend
  obtain ⟨⟨taken,left⟩,hfi⟩ : ∃ filled, fillBatch recordLimit bl 0 2 (rc :: pend) = filled := ⟨_,rfl⟩
  rw [hfi] at hf ha hp ⊢
  cases taken with
  | nil =>
    have hle : left = rc :: pend := ha
    simp [hle] at hp
  | cons first taken =>
    obtain ⟨rfl,hpe⟩ := cons.inj ha
    exact ⟨taken,left,rfl,hpe.symm,hf⟩

lemma map_snd_eq {t : α → String}
    (h : ∀ p ∈ pend, p.2 = t p.1) : pend.map Prod.snd = (pend.map Prod.fst).map t := by
  rw [map_map]
  exact map_congr_left h

/-- A request by its records: as many as the limits allow. -/
structure WithinLimits (text : α → String) (recordLimit byteLimit : ℕ) (batch : SerializedBatch α) :
    Prop where
  ne_nil : batch.records ≠ []
  few : batch.records.length ≤ recordLimit
  body : batch.body = array (batch.records.map text)
  small : batch.records.length = 1 ∨ bodyLen batch.body ≤ byteLimit

/-- The first record of the next request had no room in this one. -/
def Full (text : α → String) (recordLimit byteLimit : ℕ) (batch next : SerializedBatch α) : Prop :=
  ∃ r ∈ next.records.head?, recordLimit ≤ batch.records.length ∨
    byteLimit < bodyLen (array ((batch.records ++ [r]).map text))

lemma splitFrom_spec {t : α → String} {rl : ℕ} (hl : 1 ≤ rl) (bl fuel : ℕ)
    (pend : List (α × String)) (hfu : pend.length ≤ fuel)
    (ht : ∀ p ∈ pend, p.2 = t p.1) : (∀ b ∈ splitFrom rl bl fuel pend, WithinLimits t rl bl b) ∧
    (splitFrom rl bl fuel pend).IsChain (Full t rl bl) ∧
    ((splitFrom rl bl fuel pend).head?.bind fun b => b.records.head?) = pend.head?.map Prod.fst := by
  induction fuel generalizing pend with
  | zero => simp [splitFrom,length_eq_zero_iff.1 (Nat.le_zero.1 hfu)]
  | succ fuel ih =>
    cases pend with
    | nil => simp [splitFrom]
    | cons rc pend =>
      obtain ⟨taken,left,hfi,rfl,hf⟩ := fillBatch_cons hl bl rc pend
      have hbo : (rc :: taken).map Prod.snd = ((rc :: taken).map Prod.fst).map t := by
        refine map_snd_eq fun p hp => ht p ?_
        rcases mem_cons.1 hp with rfl | hp
        · simp
        · simp [hp]
      obtain ⟨hw,hc,hh⟩ := ih left (by simp at hfu; omega) (fun p hp => ht p (by simp [hp]))
      have hst : splitFrom rl bl (fuel+1) (rc :: (taken ++ left)) =
          ⟨(rc :: taken).map Prod.fst,array ((rc :: taken).map Prod.snd)⟩ ::
            splitFrom rl bl fuel left := by simp only [splitFrom,hfi]
      rw [hst]
      refine ⟨?_,?_,rfl⟩
      · intro b hb
        rcases mem_cons.1 hb with rfl | hb
        · refine ⟨by simp,?_,congrArg array hbo,?_⟩
          · simpa using hf.few
          · simpa using hf.small
        · exact hw b hb
      · rw [isChain_cons]
        refine ⟨fun next hn => ?_,hc⟩
        have hm : next ∈ splitFrom rl bl fuel left := mem_of_mem_head? hn
        rw [hn,Option.bind_some] at hh
        cases left with
        | nil => exact absurd (head?_eq_none_iff.1 hh) (hw next hm).ne_nil
        | cons r left =>
          have hr := ht r (by simp)
          refine ⟨r.1,hh,(hf.full r rfl).imp (by simp) ?_⟩
          rw [nil_append,map_append,hbo,map_append]
          simp [hr]

/-- Splitting loses nothing and keeps the limits: the requests hold the records in order, each
one is within the limits and carries the array of its records, and each one but the last is
as full as the limits allow. -/
theorem splitSerializedBatches_within_limits {toVec : α → Except String String} {text : α → String}
    (records : List α) (recordLimit byteLimit : ℕ) (hlimit : 1 ≤ recordLimit)
    (htext : ∀ r ∈ records, toVec r = .ok (text r)) :
    ∃ batches, splitSerializedBatches toVec records recordLimit byteLimit = .ok batches ∧
      batches.flatMap SerializedBatch.records = records ∧
      (∀ batch ∈ batches, WithinLimits text recordLimit byteLimit batch) ∧
      batches.IsChain (Full text recordLimit byteLimit) := by
  have hp : Checks.collect (serialized toVec) records = .ok (records.map fun r => (r,text r)) := by
    rw [Checks.collect_eq_ok,forall₂_map_right_iff,forall₂_same]
    intro r hr
    simp only [serialized,htext r hr]
    rfl
  have hs : splitSerializedBatches toVec records recordLimit byteLimit =
      .ok (splitFrom recordLimit byteLimit records.length (records.map fun r => (r,text r))) := by
    rw [splitSerializedBatches,hp,max_eq_left hlimit]
    rfl
  obtain ⟨hw,hc,-⟩ := @splitFrom_spec α text _ hlimit byteLimit records.length
    (records.map fun r => (r,text r)) (by simp) (by simp)
  exact ⟨_,hs,splitSerializedBatches_records hs,hw,hc⟩

theorem splitSerializedBatches_within_limits_numbers :
    ∃ batches, splitSerializedBatches (fun n : ℕ => .ok n.repr) [7,8,1234567,9] 3 5 = .ok batches ∧
      batches.map SerializedBatch.records = [[7,8],[1234567],[9]] ∧
      batches.map SerializedBatch.body = ["[7,8]","[1234567]","[9]"] ∧
      ∀ batch ∈ batches, WithinLimits Nat.repr 3 5 batch := by
  obtain ⟨batches,hs,-,hw,-⟩ := @splitSerializedBatches_within_limits ℕ (fun n => .ok n.repr)
    Nat.repr [7,8,1234567,9] 3 5 (by decide) (fun _ _ => rfl)
  have hv : (splitSerializedBatches (fun n : ℕ => .ok n.repr) [7,8,1234567,9] 3 5).toOption.map
      (fun batches => (batches.map SerializedBatch.records,batches.map SerializedBatch.body)) =
        some ([[7,8],[1234567],[9]],["[7,8]","[1234567]","[9]"]) := by decide +kernel
  rw [hs] at hv
  obtain ⟨hr,hb⟩ := Prod.mk.inj (Option.some.inj hv)
  exact ⟨batches,hs,hr,hb,hw⟩

end

variable (X : Crates)

/-- `serde_json::to_vec` of a record. -/
def recordVec (r : ReplicationRecord) : Except String String := do
  let text ← X.toVec r.event
  .ok ("\x7b\"source\":" ++ quote r.source ++ ",\"cursor\":" ++ quote r.cursor ++ ",\"event\":" ++
    text ++ "\x7d")

/-- What became of a posted request: it failed, was denied or had an unreadable answer, or
it was answered with receipts. -/
inductive Answer
  | failed
  | receipts (receipts : List ReplicationReceipt)

inductive PushEnd
  | caughtUp
  | source (error : ReplicationSourceError)
  | unserializable (error : String)
  | requestFailed
  | haltedAt (receipt : ReplicationReceipt) (checkpoint : Option String)
  | noCursor

inductive PushPhase
  | reading (cursor : Option String)
  | posting (batch : ReplicationBatch) (requests : List (SerializedBatch ReplicationRecord))
      (cursor : Option String)
  | ended (result : PushEnd)

/-- The pushing process with its limits, beside the journal it opened and the cursor file.
`acked` lists the event ids of the safe receipts the destination has returned. -/
structure Pusher where
  batchSize : ℕ
  batchBytes : ℕ
  journal : List Event
  cursorFile : Option String
  acked : List String
  phase : PushPhase

def savedCursor (cursorFile : Option String) : Option String :=
  match cursorFile with
  | some saved => if (trim saved).isEmpty then none else some (trim saved)
  | none => none

def persistCursor (s : Pusher) (cursor : String) : Pusher := { s with cursorFile := some cursor }

def safeIds (receipts : List ReplicationReceipt) : List String :=
  (receipts.filter ReplicationReceipt.checkpointSafe).map ReplicationReceipt.eventId

/-- The loop over the receipts: the cursor advanced to, or the receipt that halts it. -/
def takeReceipts (advanced : Option String) :
    List ReplicationReceipt → Except (ReplicationReceipt × Option String) (Option String)
  | [] => .ok advanced
  | receipt :: receipts =>
    if receipt.checkpointSafe then takeReceipts (some receipt.cursor) receipts
    else .error (receipt,advanced)

def finishPage (s : Pusher) (batch : ReplicationBatch) : Pusher :=
  { persistCursor s batch.nextCursor with
    phase := if batch.caughtUp then .ended .caughtUp else .reading (some batch.nextCursor) }

variable (L : LocalReplicationSource)

def pushRead (s : Pusher) : Pusher :=
  match s.phase with
  | .reading cursor =>
    match readBatch X L s.journal cursor s.batchSize with
    | .error e => { s with phase := .ended (.source e) }
    | .ok batch =>
      if batch.records.isEmpty then finishPage s batch
      else
        match splitSerializedBatches (recordVec X) batch.records s.batchSize s.batchBytes with
        | .error e => { s with phase := .ended (.unserializable e) }
        | .ok requests => { s with phase := .posting batch requests cursor }
  | _ => s

def pushAnswered (s : Pusher) (answer : Answer) : Pusher :=
  match s.phase with
  | .posting batch (_ :: later) cursor =>
    match answer with
    | .failed => { s with phase := .ended .requestFailed }
    | .receipts receipts =>
      let s := { s with acked := s.acked ++ safeIds receipts }
      match takeReceipts cursor receipts with
      | .error (receipt,some safe) =>
        { persistCursor s safe with phase := .ended (.haltedAt receipt (some safe)) }
      | .error (receipt,none) => { s with phase := .ended (.haltedAt receipt none) }
      | .ok none => { s with phase := .ended .noCursor }
      | .ok (some advanced) =>
        if later.isEmpty then finishPage s batch
        else { persistCursor s advanced with phase := .posting batch later (some advanced) }
  | _ => s

/-- What happens to the pusher: it reads a page, its request is answered, or its process is
gone and another one opens the journal, which may have grown, with limits of its own. -/
inductive PushAction
  | read
  | answer (answer : Answer)
  | restart (appended : List Event) (batchSize batchBytes : ℕ)

def pushStep (s : Pusher) : PushAction → Pusher
  | .read => pushRead X L s
  | .answer answer => pushAnswered s answer
  | .restart appended batchSize batchBytes =>
    ⟨batchSize,batchBytes,s.journal ++ appended,s.cursorFile,s.acked, .reading (savedCursor s.cursorFile)⟩

/-- A process that has just opened the journal beside a cursor file. -/
def Pusher.start (batchSize batchBytes : ℕ) (journal : List Event) (cursorFile : Option String) : Pusher :=
  ⟨batchSize,batchBytes,journal,cursorFile,[],.reading (savedCursor cursorFile)⟩

def runPush (s : Pusher) (actions : List PushAction) : Pusher := actions.foldl (pushStep X L) s

end BuzzSolo.Replication
