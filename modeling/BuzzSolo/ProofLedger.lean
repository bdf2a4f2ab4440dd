import BuzzSolo.Event
import BuzzSolo.LineText
import BuzzSolo.DecimalText

/-! The ledger of consumed authentication proofs: the id of a proof with the time it was consumed
at. Old entries are forgotten; a text file with one line to a proof may back it. -/
namespace BuzzSolo.ProofLedger

open HexText LineText List

def u64Count : ℕ := 2^64
def proofRetentionSecs : ℕ := 600

inductive IdentityDenialCode
  | invalidEvidence | evidenceExpired | audienceMismatch | replayDetected | peerUnbound
  | sourceMismatch
  deriving DecidableEq

inductive InternalError
  | malformedLine | eventId | timestamp
  deriving DecidableEq

inductive LocalIdentityError
  | denied (code : IdentityDenialCode)
  | internal (source : InternalError)
  deriving DecidableEq

abbrev Consumed := EventId → Option ℕ

/-- `store` is the file behind the ledger when there is a path: its text, or nothing when it
does not exist yet. -/
structure Ledger where
  consumed : Consumed
  store : Option (Option String)

def splitOnce (separator : Char) (text : String) : Option (String × String) :=
  match text.toList.span (· ≠ separator) with
  | (_,[]) => none
  | (front,_ :: back) => some (String.ofList front,String.ofList back)

def loadLine (consumed : Consumed) (line : String) : Except InternalError Consumed :=
  match splitOnce ' ' line with
  | none => .error .malformedLine
  | some (id,timestamp) =>
    match FixedBytes.fromHex 32 id with
    | none => .error .eventId
    | some id =>
      match DecimalText.parseUnsigned u64Count timestamp.toList with
      | none => .error .timestamp
      | some timestamp => .ok (Function.update consumed id (some timestamp))

def loadLines (consumed : Consumed) : List String → Except InternalError Consumed
  | [] => .ok consumed
  | line :: rest =>
    match loadLine consumed line with
    | .error e => .error e
    | .ok consumed => loadLines consumed rest

def loadText (text : String) : Except InternalError Consumed :=
  loadLines (fun _ => none) ((lines text).filter fun line => line ≠ "")

def load (store : Option (Option String)) : Except LocalIdentityError Ledger :=
  match store with
  | some (some text) =>
    match loadText text with
    | .error e => .error (.internal e)
    | .ok consumed => .ok ⟨consumed,store⟩
  | _ => .ok ⟨fun _ => none,store⟩

def record (id : EventId) (now : ℕ) : String := id.toHex ++ " " ++ now.repr

/-- The sum in the test of an entry's age wraps around at the width of the word. -/
def unexpired (now consumedAt : ℕ) : Bool := now ≤ (consumedAt + proofRetentionSecs)%u64Count

def retain (consumed : Consumed) (now : ℕ) : Consumed := fun id => (consumed id).filter (unexpired now)

def consume (ledger : Ledger) (id : EventId) (now : ℕ) : Ledger × Except LocalIdentityError Unit :=
  let retained := retain ledger.consumed now
  if (retained id).isSome then
    ({ ledger with consumed := retained },.error (.denied .replayDetected))
  else
    (⟨Function.update retained id (some now),
      ledger.store.map fun text => some (text.getD "" ++ (record id now ++ "\n"))⟩,.ok ())

/-- An entry that is younger than the retention survives, away from the end of the clock. -/
lemma retained_eq {consumed : Consumed} {id : EventId} {now t : ℕ} (h : consumed id = some t)
    (hs : t + proofRetentionSecs < u64Count) (hy : now ≤ t + proofRetentionSecs) :
    retain consumed now id = some t := by
  simp [retain,h,unexpired,Nat.mod_eq_of_lt hs,hy]

variable (id : EventId) (now : ℕ)

lemma toList_record : (record id now).toList = encode id.bytes ++ ' ' :: now.repr.toList := by
  simp [record,FixedBytes.toHex]

lemma oneLine_record : OneLine (record id now) := by
  have hd : (record id now).toList = encode id.bytes ++ ' ' :: Nat.toDigits 10 now := by
    rw [toList_record,Nat.toList_repr]
  have hla : ∀ c ∈ Nat.toDigits 10 now, c.isDigit = true := fun c hc =>
    Nat.isDigit_of_mem_toDigits (by decide) (by decide) hc
  constructor
  · rw [hd]
    intro hm
    rcases mem_append.1 hm with hm | hm
    · exact absurd (isLowerHexChar_of_mem_encode _ _ hm) (by decide)
    · rcases mem_cons.1 hm with hm | hm
      · exact absurd hm (by decide)
      · exact absurd (hla _ hm) (by decide)
  · rw [hd]
    intro hr
    have hne : Nat.toDigits 10 now ≠ [] := by
      intro hn
      have hle := Nat.length_toDigits_pos (b := 10) (n := now)
      simp [hn] at hle
    rw [getLast?_append,getLast?_cons_of_ne_nil hne] at hr
    cases hl : (Nat.toDigits 10 now).getLast? with
    | none => exact hne (getLast?_eq_none_iff.1 hl)
    | some c =>
      rw [hl] at hr
      have hc : c = '\r' := by simpa using hr
      exact absurd (hla c (mem_of_getLast? hl)) (by rw [hc]; decide)

lemma splitOnce_eq {sep : Char} {t : String} {fr back : List Char}
    (ht : t.toList = fr ++ sep :: back) (hn : sep ∉ fr) :
    splitOnce sep t = some (String.ofList fr,String.ofList back) := by
  have hf : ∀ c ∈ fr, decide (c ≠ sep) = true := by
    intro c hc
    simp only [decide_eq_true_eq]
    rintro rfl
    exact hn hc
  rw [splitOnce,ht,span_eq_takeWhile_dropWhile,takeWhile_append_of_pos hf, dropWhile_append_of_pos hf]
  simp

lemma blank_notMem_encode (bs : List Byte) : ' ' ∉ encode bs := fun hm =>
  absurd (isLowerHexChar_of_mem_encode _ _ hm) (by decide)

lemma splitOnce_record : splitOnce ' ' (record id now) = some (id.toHex,now.repr) := by
  rw [splitOnce_eq (toList_record id now) (blank_notMem_encode _),String.ofList_toList]
  rfl

variable (consumed : Consumed)

lemma loadLine_record (id : EventId) {now : ℕ} (hn : now < u64Count) :
    loadLine consumed (record id now) = .ok (Function.update consumed id (some now)) := by
  have hp : DecimalText.parseUnsigned u64Count now.repr.toList = some now := by
    rw [Nat.toList_repr]
    exact DecimalText.parseUnsigned_toDigits hn
  simp only [loadLine,splitOnce_record,FixedBytes.fromHex_toHex,hp]

lemma loadLines_append (ls ms : List String) :
    loadLines consumed (ls ++ ms) = (loadLines consumed ls).bind fun middle => loadLines middle ms := by
  induction ls generalizing consumed with
  | nil => rfl
  | cons l ls ih =>
    rw [cons_append,loadLines,loadLines]
    cases loadLine consumed l with
    | error e => rfl
    | ok next => exact ih next

lemma record_ne : (record id now).toList ≠ [] := by
  intro he
  have hs := splitOnce_record id now
  simp [splitOnce,he] at hs

/-- A line that was left open spoils the record that is written after it. -/
lemma loadLine_spoiled {tl : String} (hta : tl ≠ "") (id : EventId)
    (now : ℕ) : ∃ e, loadLine consumed (tl ++ record id now) = .error e := by
  have hl : (tl ++ record id now).toList = tl.toList ++ (encode id.bytes ++ ' ' :: now.repr.toList) := by
    rw [String.toList_append,toList_record]
  by_cases hb : ' ' ∈ tl.toList
  · obtain ⟨fr,back,hf,hn⟩ := eq_append_cons_of_mem hb
    have hs : splitOnce ' ' (tl ++ record id now) = some (String.ofList fr,
        String.ofList (back ++ (encode id.bytes ++ ' ' :: now.repr.toList))) := by
      apply splitOnce_eq _ hn
      rw [hl,hf,append_assoc,cons_append]
    have ht : DecimalText.parseUnsigned u64Count
        (back ++ (encode id.bytes ++ ' ' :: now.repr.toList)) = none := by
      apply DecimalText.parseUnsigned_eq_none _ (by decide : (' ').isDigit = false) (by decide)
      simp
    simp only [loadLine,hs,String.toList_ofList,ht]
    cases FixedBytes.fromHex 32 (String.ofList fr) <;> exact ⟨_,rfl⟩
  · have hs : splitOnce ' ' (tl ++ record id now) =
        some (String.ofList (tl.toList ++ encode id.bytes),now.repr) := by
      rw [← String.ofList_toList (s := now.repr)]
      apply splitOnce_eq
      · rw [hl,append_assoc]
      · simpa [hb] using blank_notMem_encode id.bytes
    have hid : FixedBytes.fromHex 32 (String.ofList (tl.toList ++ encode id.bytes)) = none := by
      cases hid : FixedBytes.fromHex 32 (String.ofList (tl.toList ++ encode id.bytes)) with
      | none => rfl
      | some b =>
        have hlo := FixedBytes.length_of_fromHex hid
        have hh := FixedBytes.length_of_fromHex (FixedBytes.fromHex_toHex id)
        simp only [FixedBytes.toHex,String.toList_ofList,length_append] at hlo hh
        exact absurd (String.toList_eq_nil_iff.1 (length_eq_zero_iff.1 (by omega))) hta
    exact ⟨.eventId,by simp only [loadLine,hs,hid]⟩

lemma loadText_append {t : String} {id : EventId} {now : ℕ} {ents : Consumed}
    (hn : now < u64Count) (h : loadText (t ++ (record id now ++ "\n")) = .ok ents) :
    ∃ old, loadText t = .ok old ∧ ents = Function.update old id (some now) := by
  obtain ⟨fr,tl,rfl,ht,hta⟩ := exists_terminated_append t
  have hne : tl ++ record id now ≠ "" := by
    intro hem
    have hl : tl.toList ++ (record id now).toList = [] := by
      rw [← String.toList_append,hem]
      rfl
    exact record_ne id now (append_eq_nil_iff.1 hl).2
  have hli := oneLine_append hta (oneLine_record id now) (record_ne id now)
  rw [show fr ++ tl ++ (record id now ++ "\n") = fr ++ (tl ++ record id now ++ "\n") by
    simp only [String.append_assoc],loadText,lines_append_line ht hli,filter_append, loadLines_append] at h
  cases hold : loadText fr with
  | error e =>
    rw [← loadText,hold] at h
    cases h
  | ok old =>
    rw [← loadText,hold] at h
    by_cases hem : tl = ""
    · subst hem
      rw [String.empty_append] at hne
      refine ⟨old,by simpa using hold,?_⟩
      have hen : Function.update old id (some now) = ents := by
        simpa [Except.bind,loadLines,loadLine_record old id hn,hne] using h
      exact hen.symm
    · obtain ⟨e,he⟩ := loadLine_spoiled old hem id now
      simp [Except.bind,loadLines,he,hne] at h

end BuzzSolo.ProofLedger
