import BuzzSolo.AcpRelayReconnect

/-! The observer frames of the agent harness on their way to the relay: the two queues hold them in
the order in which the harness handed them over, and none is lost without being counted. -/
namespace BuzzSolo.AcpRelay

open List

def retired : List Note → List Event
  | [] => []
  | .retired _ event :: earlier => event :: retired earlier
  | _ :: earlier => retired earlier

def discarded : List Note → List Event
  | [] => []
  | .discarded event :: earlier => event :: discarded earlier
  | _ :: earlier => discarded earlier

/-- How many discarded frames the logged summaries report. -/
def summarised : List Note → ℕ
  | [] => 0
  | .summarised count :: earlier => count + summarised earlier
  | _ :: earlier => summarised earlier

/-- Notes that say nothing of the observer queues. -/
def Note.Unobserved : Note → Prop
  | .placed _ => False
  | .retired _ _ => False
  | .discarded _ => False
  | .summarised _ => False
  | _ => True

/-- Every frame that was retired was retired by an OK for its id. -/
def RetiredById (history : List Note) : Prop :=
  ∀ eventId event, Note.retired eventId event ∈ history → event.id.toHex = eventId

lemma discarded_evicted (evs : List Event) (hi : List Note) :
    (discarded ((evs.map .discarded).reverse ++ hi)).Perm (evs ++ discarded hi) := by
  induction evs generalizing hi with
  | nil => exact .refl _
  | cons e evs ih =>
    rw [map_cons,reverse_cons,append_assoc]
    exact (ih _).trans perm_middle

structure Ledger (c : Core) : Prop where
  order : (c.inFlight ++ c.gated).Sublist (placed c.history)
  account : (placed c.history).Perm (c.inFlight ++ c.gated ++ retired c.history ++ discarded c.history)
  inFlight_le : c.inFlight.length ≤ gatedObserverQueueCap
  gated_le : c.gated.length ≤ gatedObserverQueueCap
  counted : (discarded c.history).length = summarised c.history + c.dropped
  byId : RetiredById c.history

section

variable {c d : Core}

variable (h : Ledger c)
include h

lemma Ledger.keep (hi : d.inFlight = c.inFlight) (hg : d.gated = c.gated)
    (hdr : d.dropped = c.dropped) (hp : placed d.history = placed c.history)
    (hr : retired d.history = retired c.history) (hd : discarded d.history = discarded c.history)
    (hs : summarised d.history = summarised c.history)
    (hnew : ∀ eid e, Note.retired eid e ∈ d.history → Note.retired eid e ∈ c.history) : Ledger d where
  order := by rw [hi,hg,hp]; exact h.order
  account := by rw [hi,hg,hp,hr,hd]; exact h.account
  inFlight_le := by rw [hi]; exact h.inFlight_le
  gated_le := by rw [hg]; exact h.gated_le
  counted := by rw [hdr,hd,hs]; exact h.counted
  byId := fun eid e hm => h.byId eid e (hnew eid e hm)

lemma Ledger.noted {n : Note} (hi : d.inFlight = c.inFlight)
    (hg : d.gated = c.gated) (hd : d.dropped = c.dropped) (hh : d.history = n :: c.history)
    (hn : n.Unobserved) : Ledger d := by
  have hnew : (∀ eid e, Note.retired eid e ≠ n) → ∀ eid e,
      Note.retired eid e ∈ d.history → Note.retired eid e ∈ c.history := by
    intro hne eid e hm
    rw [hh] at hm
    exact (mem_cons.1 hm).resolve_left (hne eid e)
  cases n with
  | placed | retired | discarded | summarised => exact hn.elim
  | _ =>
    refine h.keep hi hg hd ?_ ?_ ?_ ?_ (hnew (by simp))
    all_goals rw [hh]; rfl

/-- The queues move, and take in frames that the record has just placed. -/
lemma Ledger.shifted {hi : List Note} {added inFlight gated evs : List Event}
    (hsh : Shift c added inFlight gated evs) (hp : placed hi = placed c.history ++ added)
    (hr : retired hi = retired c.history) (hd : discarded hi = discarded c.history)
    (hs : summarised hi = summarised c.history)
    (hnew : ∀ eid e, Note.retired eid e ∈ hi → Note.retired eid e ∈ c.history) :
    Ledger (({ c with history := hi } : Core).shifted inFlight gated evs) := by
  have hp' : placed ((evs.map Note.discarded).reverse ++ hi) = placed c.history ++ added :=
    (skip_notes placed _ (fun _ _ => rfl) _ _).trans hp
  have hr' : retired ((evs.map Note.discarded).reverse ++ hi) = retired c.history :=
    (skip_notes retired _ (fun _ _ => rfl) _ _).trans hr
  have hs' : summarised ((evs.map Note.discarded).reverse ++ hi) = summarised c.history :=
    (skip_notes summarised _ (fun _ _ => rfl) _ _).trans hs
  have hd' : (discarded ((evs.map Note.discarded).reverse ++ hi)).Perm (evs ++ discarded c.history) := by
    rw [← hd]
    exact discarded_evicted evs hi
  refine ⟨?_,?_,?_,?_,?_,?_⟩
  · simp only [Core.shifted]
    rw [hp']
    exact hsh.order.trans (h.order.append_right added)
  · simp only [Core.shifted]
    rw [hp',hr']
    -- frame by frame, what leaves the queues is what is evicted
    refine perm_iff_count.2 fun e => ?_
    have hb := h.account.count_eq e
    have hmo := hsh.account.count_eq e
    have hg := hd'.count_eq e
    simp only [count_append] at hb hmo hg ⊢
    omega
  · exact (hsh.caps h.inFlight_le h.gated_le).1
  · exact (hsh.caps h.inFlight_le h.gated_le).2
  · simp only [Core.shifted]
    rw [hs',hd'.length_eq,length_append,h.counted]
    omega
  · intro eid e hm
    simp only [Core.shifted,mem_append,mem_reverse,mem_map] at hm
    rcases hm with ⟨_,_,ho⟩ | hm
    · cases ho
    · exact h.byId eid e (hnew eid e hm)

lemma Ledger.acknowledged {bef aft : List Event} {eventId : String} {e : Event}
    (hfl : c.inFlight = bef ++ e :: aft) (hid : e.id.toHex = eventId) : Ledger { c with
      inFlight := bef ++ aft
      history := .retired eventId e :: c.history } where
  order := by
    have hs : (bef ++ aft).Sublist c.inFlight := by
      rw [hfl]
      exact List.Sublist.append_left (sublist_cons_self e aft) bef
    exact (hs.append_right _).trans h.order
  account := by
    refine h.account.trans (perm_iff_count.2 fun o => ?_)
    simp only [hfl,retired,discarded,count_append,count_cons]
    omega
  inFlight_le := by
    have hl := h.inFlight_le
    rw [hfl,length_append,length_cons] at hl
    rw [length_append]
    omega
  gated_le := h.gated_le
  counted := h.counted
  byId := by
    intro eventId' event' hm
    rcases mem_cons.1 hm with heq | hm
    · obtain ⟨rfl,rfl⟩ := Note.retired.inj heq
      exact hid
    · exact h.byId eventId' event' hm

lemma Ledger.summarised : Ledger { c with dropped := 0, history := .summarised c.dropped :: c.history } where
  order := h.order
  account := h.account
  inFlight_le := h.inFlight_le
  gated_le := h.gated_le
  counted := by
    have hc := h.counted
    simp only [discarded,AcpRelay.summarised]
    omega
  byId := fun eid e hm => h.byId eid e ((mem_cons.1 hm).resolve_left (by simp))

omit h

lemma Work.accounts (h : Work c d) (hl : Ledger c) : Ledger d := by
  cases h with
  | @plain n hn =>
    refine hl.noted (n := n) rfl rfl rfl rfl ?_
    cases n with
    | sent | offered => trivial
    | _ => exact hn.elim
  | received | replayed => exact hl.noted rfl rfl rfl rfl trivial
  | left ch n hn =>
    refine hl.noted (n := n) rfl rfl rfl rfl ?_
    rcases hn with rfl | rfl
    · trivial
    · trivial
  | shifted hs =>
    exact hl.shifted hs (append_nil _).symm rfl rfl rfl fun _ _ hm => hm
  | acknowledged bef aft eid e hfl hid => exact hl.acknowledged hfl hid
  | summarised => exact hl.summarised
  | _ => exact hl.keep rfl rfl rfl rfl rfl rfl rfl fun _ _ hm => hm

lemma Step.accounts (h : Step c d) (hl : Ledger c) : Ledger d := by
  cases h with
  | work hw => exact hw.accounts hl
  | placed e hsh =>
    refine hl.shifted (c := c) hsh rfl rfl rfl rfl fun eid e hm => ?_
    exact (mem_cons.1 hm).resolve_left (by simp)
  | took | announced | intended | connected | drainFailed => exact hl.noted rfl rfl rfl rfl trivial
  | commanded ch filter t req hsince =>
    have hs : Ledger (c.noted (.subscribed ch)) := hl.noted rfl rfl rfl rfl trivial
    exact hs.noted rfl rfl rfl rfl trivial
  | _ => exact hl.keep rfl rfl rfl rfl rfl rfl rfl fun _ _ hm => hm

lemma Reachable.accounts (h : Reachable c) : Ledger c := by
  refine h.invariant ⟨.refl _,.refl _,?_,?_,rfl,?_⟩ fun _ _ hl hst => hst.accounts hl
  · exact Nat.zero_le _
  · exact Nat.zero_le _
  · intro eid e hm
    simp [Core.start] at hm

end

/-- In every run, the frames in flight followed by those parked are in the order in which the harness
handed them over; both queues stay within their cap; and every frame handed over is in one of the
queues, was retired by an OK for its id, belongs to a command still put off, or was counted when it
was discarded. -/
theorem observer_frames_accounted (E : Env) (buffer : List RelayMessage) (inputs : List Input) :
    ((run E buffer inputs).1.state.observerInFlight ++
        (run E buffer inputs).1.state.gatedObserverPending).Sublist (handed (run E buffer inputs).1.history) ∧
      (run E buffer inputs).1.state.observerInFlight.length ≤ gatedObserverQueueCap ∧
      (run E buffer inputs).1.state.gatedObserverPending.length ≤ gatedObserverQueueCap ∧
      (handed (run E buffer inputs).1.history).Perm ((run E buffer inputs).1.state.observerInFlight ++
          (run E buffer inputs).1.state.gatedObserverPending ++
          retired (run E buffer inputs).1.history ++ (run E buffer inputs).1.deferred.flatMap framesOf ++
          discarded (run E buffer inputs).1.history) ∧ RetiredById (run E buffer inputs).1.history ∧
      (discarded (run E buffer inputs).1.history).length =
        summarised (run E buffer inputs).1.history + (run E buffer inputs).1.state.gatedObserverDropped := by
  obtain ⟨hs,-⟩ := run_rests E buffer inputs
  have hl := hs.reachable.accounts
  have hh : handed (run E buffer inputs).1.history = placed (run E buffer inputs).1.history ++
      (run E buffer inputs).1.deferred.flatMap framesOf := hs.settled
  refine ⟨?_,hl.inFlight_le,hl.gated_le,?_,hl.byId,hl.counted⟩
  · rw [hh]
    exact hl.order.trans (sublist_append_left _ _)
  · rw [hh]
    refine (hl.account.append_right _).trans ?_
    -- the frames put off change places with those discarded
    rw [append_assoc (_ ++ _ ++ _),append_assoc (_ ++ _ ++ _)]
    exact perm_append_comm.append_left _

end BuzzSolo.AcpRelay
