import BuzzSolo.QueueCustody

/-! No event of the queue is in two places: the account of a channel balances, and an event is
accepted by one channel only. -/
namespace BuzzSolo.Acp

open HashTable EventQueue List

def BatchEvent.id (be : BatchEvent) : EventId := be.event.id

def pushedIds (ops : List (ℕ × Op)) : List EventId :=
  ops.filterMap fun timed =>
    match timed.2 with
    | .push event => some event.event.id
    | _ => none

def present (w : World) (ch : Uuid) : List BatchEvent := stored w.queue ch ++ heldEvents w.turns ch

/-- The channels with an entry in one of the queue's tables or with a batch. -/
def channels (w : World) : List Uuid :=
  (w.queue.queues.keys ++ w.queue.withheldNativeSteer.keys ++ w.queue.cancelledBatches.keys ++
    w.turns.map fun turn => turn.batch.channelId).dedup

/-- The ids of all events in the queues, the withheld table, the cancelled lists and the batches
that callers hold. -/
def presentIds (w : World) : List EventId :=
  (channels w).flatMap fun ch => (present w ch).map BatchEvent.id

/-- The accepted events are different ones of the pushed events. -/
structure Distinct (pushed : List EventId) (w : World) : Prop where
  nodup : ∀ ch, ((w.accepted ch).map BatchEvent.id).Nodup
  apart : ∀ a b, a ≠ b → ((w.accepted a).map BatchEvent.id).Disjoint ((w.accepted b).map BatchEvent.id)
  pushed : ∀ ch, ∀ be ∈ w.accepted ch, be.id ∈ pushed

section

variable {B : Backoff} {now : ℕ} {w : World} {pushed : List EventId}

lemma distinct_start (q : EventQueue) : Distinct [] (World.start q) :=
  ⟨fun _ => nodup_nil,fun _ _ _ => disjoint_nil_left _,by simp [World.start]⟩

lemma Distinct.of_accepted {w' : World} {more : List EventId} (h : Distinct pushed w)
    (hs : w'.accepted = w.accepted) : Distinct (pushed ++ more) w' := by
  refine ⟨?_,?_,?_⟩
  · rw [hs]
    exact h.nodup
  · rw [hs]
    exact h.apart
  · rw [hs]
    intro ch be hbe
    exact mem_append_left _ (h.pushed ch be hbe)

lemma Distinct.fresh (h : Distinct pushed w) {id : EventId} (hid : id ∉ pushed) (ch : Uuid) :
    id ∉ (w.accepted ch).map BatchEvent.id := by
  intro hm
  obtain ⟨be,hbe,rfl⟩ := mem_map.1 hm
  exact hid (h.pushed ch be hbe)

lemma Distinct.accept {e : QueuedEvent} {w' : World} (h : Distinct pushed w) (hid : e.event.id ∉ pushed)
    (hac : w'.accepted = w.accepted.add e.channelId [e.batched]) : Distinct (pushed ++ [e.event.id]) w' := by
  have hi : ∀ ch, (w'.accepted ch).map BatchEvent.id = (w.accepted ch).map BatchEvent.id ++
      if ch = e.channelId then [e.event.id] else [] := by
    intro ch
    rw [hac,Account.add_apply,map_append]
    by_cases hch : ch = e.channelId
    · simp [hch,BatchEvent.id,QueuedEvent.batched]
    · simp [hch]
  have hf := h.fresh hid
  refine ⟨?_,?_,?_⟩
  · intro ch
    rw [hi]
    by_cases hch : ch = e.channelId
    · rw [if_pos hch]
      rw [← concat_eq_append]
      exact (h.nodup ch).concat (hf ch)
    · rw [if_neg hch,append_nil]
      exact h.nodup ch
  · intro a b hab
    have hold := h.apart a b hab
    rw [hi,hi]
    by_cases ha : a = e.channelId
    · have hb : b ≠ e.channelId := fun hb => hab (ha.trans hb.symm)
      rw [if_pos ha,if_neg hb,append_nil,disjoint_append_left]
      exact ⟨hold,singleton_disjoint.2 (hf b)⟩
    · rw [if_neg ha,append_nil]
      by_cases hb : b = e.channelId
      · rw [if_pos hb,disjoint_append_right]
        exact ⟨hold,disjoint_singleton.2 (hf a)⟩
      · rw [if_neg hb,append_nil]
        exact hold
  · intro ch be hbe
    have hm : be.id ∈ (w'.accepted ch).map BatchEvent.id := mem_map_of_mem hbe
    rw [hi,mem_append] at hm
    rw [mem_append]
    rcases hm with hold | hnew
    · obtain ⟨old,hold,heq⟩ := mem_map.1 hold
      exact .inl (heq ▸ h.pushed ch old hold)
    · by_cases hch : ch = e.channelId
      · exact .inr (by simpa [hch] using hnew)
      · simp [hch] at hnew

lemma accepted_step (op : Op) : (w.step B now op).accepted = w.accepted ∨ ∃ e, op = .push e ∧
      (w.step B now op).accepted = w.accepted.add e.channelId [e.batched] := by
  cases op with
  | push e =>
    simp only [World.step,World.apply,World.push]
    split
    · exact .inr ⟨e,rfl,rfl⟩
    · exact .inl rfl
  | flushNext it =>
    simp only [World.step,World.apply,World.flush]
    split <;> exact .inl rfl
  | settle i out =>
    simp only [World.step,World.apply,World.settle]
    split
    · exact .inl rfl
    · split <;> simp [settleBatch_accepted]
  | complete i =>
    simp only [World.step,World.apply,World.complete]
    split
    · exact .inl rfl
    · split <;> exact .inl rfl
  | extend ch secs =>
    simp only [World.step,World.apply,World.extend]
    split <;> exact .inl rfl
  | _ => exact .inl rfl

end

section

variable {B : Backoff} {w : World}

lemma run_concat (s0 : World) (ops : List (ℕ × Op)) (timed : ℕ × Op) :
    s0.run B (ops ++ [timed]) = (s0.run B ops).step B timed.1 timed.2 := by
  simp [World.run]

lemma pushedIds_append (ops more : List (ℕ × Op)) :
    pushedIds (ops ++ more) = pushedIds ops ++ pushedIds more := by
  rw [pushedIds,filterMap_append,← pushedIds,← pushedIds]

lemma distinct_run (q : EventQueue) (ops : List (ℕ × Op)) (h : (pushedIds ops).Nodup) :
    Distinct (pushedIds ops) ((World.start q).run B ops) := by
  induction ops using reverseRecOn with
  | nil => exact distinct_start q
  | append_singleton ops timed ih =>
    rw [pushedIds_append,nodup_append] at h
    have hb := ih h.1
    rw [run_concat,pushedIds_append]
    rcases @accepted_step B timed.1 ((World.start q).run B ops) timed.2 with hs | ⟨e,hop,ha⟩
    · exact hb.of_accepted hs
    · have hid : pushedIds [timed] = [e.event.id] := by simp [pushedIds,hop]
      rw [hid]
      refine hb.accept ?_ ha
      intro hm
      exact h.2.2 _ hm _ (by rw [hid]; exact mem_singleton_self _) rfl

lemma balanced_run (q : EventQueue) (he : ∀ ch, stored q ch = []) (ops : List (ℕ × Op)) :
    Balanced ((World.start q).run B ops) := by
  induction ops using reverseRecOn with
  | nil => exact balanced_start q he
  | append_singleton ops timed ih =>
    rw [run_concat]
    exact balanced_step timed.2 ih

/-- What is present in a channel are accepted events of the channel, each at most as often as it
was accepted. -/
lemma accepted_ids_perm (h : Balanced w) (ch : Uuid) : ((w.accepted ch).map BatchEvent.id).Perm
    ((present w ch).map BatchEvent.id ++ (w.excused ch ++ w.lost ch).map BatchEvent.id) := by
  rw [← map_append]
  exact (accepted_perm h ch).map BatchEvent.id

lemma nodup_present {pushed : List EventId} (hd : Distinct pushed w) (h : Balanced w) (ch : Uuid) :
    ((present w ch).map BatchEvent.id).Nodup := by
  have hn := (accepted_ids_perm h ch).nodup_iff.1 (hd.nodup ch)
  exact (nodup_append.1 hn).1

lemma present_accepted (h : Balanced w) {ch : Uuid} {id : EventId}
    (hid : id ∈ (present w ch).map BatchEvent.id) : id ∈ (w.accepted ch).map BatchEvent.id :=
  (accepted_ids_perm h ch).mem_iff.2 (mem_append_left _ hid)

/-- In every run in which no id is pushed twice and no batch is given back twice, no id is twice
in the queues, the withheld events, the cancelled events and the batches that callers hold. -/
theorem no_event_twice (B : Backoff) (mode : DedupMode) (deadline : ℕ) (ops : List (ℕ × Op))
    (h : (pushedIds ops).Nodup) :
    (presentIds ((World.start { EventQueue.new mode with inFlightDeadline := deadline }).run B
      ops)).Nodup := by
  have hd := @distinct_run B { EventQueue.new mode with inFlightDeadline := deadline } ops h
  have hba := @balanced_run B { EventQueue.new mode with inFlightDeadline := deadline }
    (fun _ => rfl) ops
  refine nodup_flatMap.2 ⟨?_,?_⟩
  · intro ch _
    exact nodup_present hd hba ch
  · refine (nodup_dedup _).imp ?_
    intro a b hab id ha hb
    exact hd.apart a b hab (present_accepted hba ha) (present_accepted hba hb)

theorem no_event_twice_merged : (presentIds (idleHarness.run fixedBackoff (mergedTurn.take 6))).length = 2 ∧
    (presentIds (idleHarness.run fixedBackoff (mergedTurn.take 6))).Nodup :=
  ⟨by decide +kernel,no_event_twice fixedBackoff .queue (7300*nanosPerSec) (mergedTurn.take 6)
    (by decide +kernel)⟩

end

end BuzzSolo.Acp
