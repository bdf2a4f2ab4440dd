import BuzzSolo.AcpRelayReconnect

/-! The subscriptions that the agent harness asked for: a channel is asked for on the current socket
or held for a later attempt, and one that was given up or refused is asked for no more. -/
namespace BuzzSolo.AcpRelay

open HashTable

/-- Whether the channel was unsubscribed or access to it denied, and it was not subscribed since. -/
def barred (channelId : Uuid) : List Note → Bool
  | [] => false
  | .subscribed ch :: earlier => ch ≠ channelId && barred channelId earlier
  | .unsubscribed ch :: earlier => ch = channelId || barred channelId earlier
  | .denied ch :: earlier => ch = channelId || barred channelId earlier
  | _ :: earlier => barred channelId earlier

/-- Only channels that may be asked for have a filter. -/
def Core.Unbarred (c : Core) : Prop :=
  ∀ channelId, (c.filters.lookup channelId).isSome → barred channelId c.history = false

section

variable {c d : Core}

lemma Core.Unbarred.keep (h : c.Unbarred) (hf : d.filters = c.filters)
    (hb : ∀ ch, barred ch d.history = barred ch c.history) : d.Unbarred := by
  intro ch hfilter
  rw [hf] at hfilter
  rw [hb]
  exact h ch hfilter

lemma Core.Unbarred.left (h : c.Unbarred) {cid : Uuid} {n : Note}
    (hn : n = .unsubscribed cid ∨ n = .denied cid) : (c.left cid n).Unbarred := by
  intro ch hf
  simp only [Core.left,lookup_erase_eq] at hf ⊢
  split at hf
  · simp at hf
  next hne =>
    have hne' : cid ≠ ch := fun heq => hne heq.symm
    rcases hn with rfl | rfl
    · simp [barred,hne',h ch hf]
    · simp [barred,hne',h ch hf]

/-- A Subscribe lets its channel be asked for again, and the others as before. -/
lemma Core.Unbarred.subscribed (h : c.Unbarred) {cid : Uuid} {filter : ChannelFilter}
    (hf : d.filters = c.filters.insert cid filter)
    (hb : ∀ ch, barred ch d.history = barred ch (.subscribed cid :: c.history)) : d.Unbarred := by
  intro ch hfilter
  rw [hf,lookup_insert_eq] at hfilter
  rw [hb]
  by_cases heq : ch = cid
  · simp [barred,heq]
  · rw [if_neg heq] at hfilter
    simp [barred,h ch hfilter]

lemma Work.unbarred (h : Work c d) (hu : c.Unbarred) : d.Unbarred := by
  cases h with
  | @plain n hn =>
    refine hu.keep rfl fun ch => ?_
    cases n with
    | sent | offered => rfl
    | _ => exact hn.elim
  | left ch n hn => exact hu.left hn
  | shifted hs => exact hu.keep rfl fun ch => skip_notes (barred ch) _ (fun _ _ => rfl) _ _
  | _ => exact hu.keep rfl fun _ => rfl

lemma Step.unbarred (h : Step c d) (hu : c.Unbarred) : d.Unbarred := by
  cases h with
  | work hw => exact hw.unbarred hu
  | placed e hs => exact hu.keep rfl fun ch => skip_notes (barred ch) _ (fun _ _ => rfl) _ _
  | announced channelId =>
    intro ch hf
    have hb := hu ch hf
    simp [Core.noted,barred,hb]
  | intended | commanded => exact hu.subscribed rfl fun _ => rfl
  | _ => exact hu.keep rfl fun _ => rfl

lemma Reachable.unbarred (h : Reachable c) : c.Unbarred :=
  h.invariant (fun _ hf => by simp [Core.start] at hf) fun _ _ hI hst => hst.unbarred hI

/-- A request for a channel is written only where the channel may be asked for. -/
def AsksUnbarred (n : Note) (earlier : List Note) : Prop :=
  ∀ origin channelId request, n = .sent origin (.req (.channel channelId) request) →
    barred channelId earlier = false

lemma Step.asksUnbarred (h : Step c d) (hu : c.Unbarred)
    (ha : Throughout AsksUnbarred c.history) : Throughout AsksUnbarred d.history := by
  refine h.throughout ?_ ?_ ?_ ha
  · intro n ear hq og ch req heq
    exact absurd heq (hq og ch req)
  · rintro ch filter hf - _ _ _ ⟨⟩
    exact hu ch hf
  · rintro ch filter - _ _ _ ⟨⟩
    simp [barred]

lemma Reachable.asksUnbarred (h : Reachable c) : Throughout AsksUnbarred c.history := by
  refine (h.invariant (I := fun c => Reachable c ∧ Throughout AsksUnbarred c.history) ?_ ?_).2
  · exact ⟨.refl,trivial⟩
  · exact fun _ _ hI hst => ⟨hI.1.step hst,hst.asksUnbarred hI.1.unbarred hI.2⟩

end

/-- In every run, where the main loop waits, each subscribed channel was asked for on the current
socket since its latest Subscribe or is held for a later attempt, unless that Subscribe was among
the commands drained after the latest reconnect and the drain ended in a failed write; and at no
point of any run is a channel asked for that was unsubscribed or denied since its latest
Subscribe. -/
theorem subscription_intent_kept (E : Env) (buffer : List RelayMessage) (inputs : List Input) :
    ((run E buffer inputs).2 = .error .select → ∀ channelId,
      ((run E buffer inputs).1.state.activeSubscriptions.lookup channelId).isSome →
      abandoned channelId (run E buffer inputs).1.history = false →
        live channelId (run E buffer inputs).1.history = true ∨
          ((run E buffer inputs).1.state.rateLimitedPending.lookup channelId).isSome ∨
          ((run E buffer inputs).1.state.resubscribeRetry.lookup channelId).isSome) ∧
    ∀ later origin channelId request earlier,
      (run E buffer inputs).1.history = later ++ .sent origin (.req (.channel channelId) request) :: earlier →
      barred channelId earlier = false := by
  obtain ⟨hs,hc⟩ := run_rests E buffer inputs
  constructor
  · intro hw channelId hac hk
    rcases hc hw channelId hac with hco | ha
    · exact hco
    · have hl : abandoned channelId (run E buffer inputs).1.history = true := ha
      rw [hk] at hl
      exact absurd hl Bool.false_ne_true
  · intro later origin channelId request earlier hh
    have hal : Throughout AsksUnbarred (run E buffer inputs).1.history := hs.reachable.asksUnbarred
    rw [hh] at hal
    exact hal.at origin channelId request rfl

section

def lobby : Uuid := .ofNat 16 9

/-- Surroundings where a second passes with each question and one write fails, if any. -/
def failingWrite (failing : Option ℕ) : Env where
  parseUuid := fun text => if text = uuidText lobby then some lobby else none
  agentPubkeyHex := ""
  answers := fun tick =>
    { written := some tick ≠ failing
      instant := tick*nanosPerSec
      unixTime := 1000 + tick
      jittered := id
      offered := .ok
      order := [] }
  rounds := 20

def subscribeLobby : Input := .command (some (.subscribe lobby ⟨none,false⟩ none))

/-- The socket is lost, and the Subscribe comes once a new one is there. -/
def subscribeAfterReconnect : List Input :=
  [.message .ended,.connection (.connected []),.empty,subscribeLobby,.empty]

/-- Where every write succeeds the pause after the request is over before the drain is. -/
def pausedAfterReconnect : List Input :=
  [.message .ended,.connection (.connected []),.empty,subscribeLobby,.elapsed,.empty]

theorem subscription_intent_kept_lobby :
    ((run (failingWrite none) [] pausedAfterReconnect).1.state.activeSubscriptions.lookup lobby).isSome ∧
      (live lobby (run (failingWrite none) [] pausedAfterReconnect).1.history = true ∨
        ((run (failingWrite none) [] pausedAfterReconnect).1.state.rateLimitedPending.lookup lobby).isSome ∨
        ((run (failingWrite none) [] pausedAfterReconnect).1.state.resubscribeRetry.lookup lobby).isSome) ∧
      barred lobby (run (failingWrite none) [] pausedAfterReconnect).1.history.tail = false := by
  have hk := subscription_intent_kept (failingWrite none) [] pausedAfterReconnect
  have ha : ((run (failingWrite none) [] pausedAfterReconnect).1.state.activeSubscriptions.lookup
      lobby).isSome := by decide +kernel
  refine ⟨ha,hk.1 ?_ lobby ha ?_,hk.2 [] .command lobby ⟨none,some [uuidText lobby],none,999⟩ _ ?_⟩
  · decide +kernel
  · decide +kernel
  · decide +kernel

/-- A Subscribe whose write fails in the drain after a reconnect is recorded as intent only: the
failure is not acted on, and the channel is neither asked for nor held. -/
theorem failed_drain_strands_subscribe : (run (failingWrite (some 6)) [] subscribeAfterReconnect).2 =
    .error .select ∧
      ((run (failingWrite (some 6)) [] subscribeAfterReconnect).1.state.activeSubscriptions.lookup
        lobby).isSome ∧
      live lobby (run (failingWrite (some 6)) [] subscribeAfterReconnect).1.history = false ∧
      (run (failingWrite (some 6)) [] subscribeAfterReconnect).1.state.rateLimitedPending.lookup lobby =
        none ∧
      (run (failingWrite (some 6)) [] subscribeAfterReconnect).1.state.resubscribeRetry.lookup lobby =
        none := by
  decide +kernel

end

end BuzzSolo.AcpRelay
