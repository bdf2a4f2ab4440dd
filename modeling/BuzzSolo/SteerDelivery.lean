import BuzzSolo.AgentRun

/-! Whether a steer that was answered with success reaches the model. Until it stands in a request
it is in the queue, or a handoff keeps it, or it is in the history of a round about to make its
request. -/
namespace BuzzSolo.BuzzAgent

open Handoff (Json)

section

lemma currentPrompt_append_user (hi : List HistoryItem) (t : String) :
    currentPrompt (hi ++ [.user t]) = some t := by
  rw [currentPrompt,List.reverse_append]
  rfl

lemma currentPrompt_kept (dropped rest : List HistoryItem) (t : String) :
    currentPrompt (dropped ++ .user t :: rest) = currentPrompt (.user t :: rest) := by
  have hs : ((HistoryItem.user t :: rest).reverse.findSome? HistoryItem.userText).isSome := by
    rw [List.findSome?_isSome_iff]
    exact ⟨.user t,by simp,rfl⟩
  rw [currentPrompt,List.reverse_append,List.findSome?_append,Option.or_of_isSome hs]
  rfl

lemma mem_of_currentPrompt {his : List HistoryItem} {text : String} (h : currentPrompt his = some text) :
    .user text ∈ his := by
  obtain ⟨item,hm,hi⟩ := List.exists_of_findSome?_eq_some h
  cases item with
  | user text' =>
    cases hi
    exact List.mem_reverse.1 hm
  | assistant | toolResult => cases hi

lemma currentPrompt_truncateHistory (jsonText : Json → String) (hi : List HistoryItem) (mb : ℕ) :
    currentPrompt (truncateHistory jsonText hi mb) = currentPrompt hi := by
  rcases keepable_truncateHistory jsonText mb hi with hs | ⟨⟨dropped,heq⟩,text,rest,hk⟩
  · rw [hs]
  · rw [hk] at heq ⊢
    rw [← heq,currentPrompt_kept]

end

variable (b : Batch)

section

variable {E : Env} {s s' : Session}

def queued (s : Session) : List String := s.steer.filterMap steerText

def Phase.stopReason : Phase → Option StopReason
  | .finished (.ok stop) => some stop
  | _ => none

def StopReason.isRegular : StopReason → Bool
  | .endTurn | .maxTokens | .refusal => true
  | .cancelled | .maxTurnRequests => false

/-- A request after the first `n` ones shows the text to the model. -/
def Delivered (s : Session) (n : ℕ) (text : String) : Prop :=
  ∃ k request, n ≤ k ∧ s.requests[k]? = some request ∧ .user text ∈ request

/-- The text is sure to stand in the next request, if there is one. -/
def Held (history : List HistoryItem) (text : String) : Phase → Prop
  | .summarizing => currentPrompt history = some text
  | .compacting _ prompt => prompt = some text
  | .ready => .user text ∈ history
  | _ => False

/-- The run is over for a reason that excuses the loss of its steers. -/
def Excused : Phase → Prop
  | .idle => True
  | .finished (.ok stop) => stop.isRegular = false
  | .finished (.error _) => True
  | _ => False

/-- Where an accepted steer with a text is. -/
structure Custody (s : Session) (steer : List ContentBlock × ℕ) (text : String) : Prop where
  before : steer.2 ≤ s.requests.length
  somewhere : Delivered s steer.2 text ∨ steer.1 ∈ s.steer ∨ Held s.history text s.phase ∨ Excused s.phase

def AllInCustody (s : Session) : Prop :=
  ∀ steer ∈ s.accepted, ∀ text, steerText steer.1 = some text → Custody s steer text

structure Quiet (s s' : Session) : Prop where
  accepted : s'.accepted = s.accepted
  steer : s'.steer = s.steer
  requests : s'.requests = s.requests

lemma AllInCustody.quiet (h : AllInCustody s) (hq : Quiet s s')
    (hheld : ∀ t, Held s.history t s.phase → Held s'.history t s'.phase ∨ Excused s'.phase)
    (he : Excused s.phase → Excused s'.phase) : AllInCustody s' := by
  intro steer hm t ht
  rw [hq.accepted] at hm
  obtain ⟨hb,hs⟩ := h steer hm t ht
  refine ⟨by rwa [hq.requests],?_⟩
  rcases hs with hd | hqu | hh | hex
  · left
    unfold Delivered
    rw [hq.requests]
    exact hd
  · exact .inr (.inl (by rwa [hq.steer]))
  · rcases hheld t hh with hh | hex
    · exact .inr (.inr (.inl hh))
    · exact .inr (.inr (.inr hex))
  · exact .inr (.inr (.inr (he hex)))

/-- From a phase that holds nothing and excuses nothing, a quiet step may go anywhere. -/
lemma AllInCustody.quiet_from {phase : Phase} (h : AllInCustody s) (hp : s.phase = phase) (hq : Quiet s s')
    (hheld : ∀ t, ¬Held s.history t phase) (he : ¬Excused phase) : AllInCustody s' := by
  subst hp
  exact h.quiet hq (fun t hh => absurd hh (hheld t)) fun hex => absurd hex he

lemma quiet_start (pr : List ContentBlock) : Quiet s (start s pr) := by
  unfold start
  cases promptToText pr with
  | error e => exact ⟨rfl,rfl,rfl⟩
  | ok t =>
    dsimp only
    split_ifs <;> exact ⟨rfl,rfl,rfl⟩

lemma quiet_onSummary (rp : Except String String) : Quiet s (onSummary E s rp) := by
  unfold onSummary
  split_ifs
  · exact ⟨rfl,rfl,rfl⟩
  · cases rp with
    | error e => exact ⟨rfl,rfl,rfl⟩
    | ok summary =>
      dsimp only
      split_ifs <;> exact ⟨rfl,rfl,rfl⟩

lemma quiet_recordUsage (tokens : Option ℕ) : Quiet s (recordUsage E s tokens) := by
  cases tokens <;> exact ⟨rfl,rfl,rfl⟩

lemma quiet_onReply (rp : Except AgentError LlmResponse) : Quiet s (onReply E s rp) := by
  unfold onReply
  split_ifs
  · exact ⟨rfl,rfl,rfl⟩
  · cases rp with
    | error e => exact ⟨rfl,rfl,rfl⟩
    | ok resp =>
      obtain ⟨ha,hs,hr⟩ := quiet_recordUsage (E := E) (s := s) resp.inputTokens
      dsimp only
      split_ifs <;> exact ⟨ha,hs,hr⟩

lemma quiet_onStopHooks (objs : List (String × String)) : Quiet s (onStopHooks s objs) := by
  unfold onStopHooks
  split_ifs <;> exact ⟨rfl,rfl,rfl⟩

lemma quiet_preflightStep (next : ℕ) : Quiet s (preflightStep E s b next) := by
  unfold preflightStep
  cases b.calls[next]? with
  | none => exact ⟨rfl,rfl,rfl⟩
  | some call =>
    dsimp only
    split_ifs <;> exact ⟨rfl,rfl,rfl⟩

lemma quiet_onSkill (next : ℕ) (cont : List ToolResultContent) (isError : Bool) :
    Quiet s (onSkill s b next cont isError) := by
  unfold onSkill
  cases b.calls[next]? <;> exact ⟨rfl,rfl,rfl⟩

lemma quiet_onJoined (running : List ℕ) (cancelled : Bool) (i : ℕ)
    (out : Option InvokeOutcome) : Quiet s (onJoined s b running cancelled i out) := by
  unfold onJoined
  cases b.calls[i]? <;> cases out <;> exact ⟨rfl,rfl,rfl⟩

lemma quiet_completeBatch : Quiet s (completeBatch s b) := by
  unfold completeBatch
  dsimp only
  split_ifs <;> exact ⟨rfl,rfl,rfl⟩

end

section

variable {E : Env} {s s' : Session}

def Phase.isBoundary : Phase → Bool
  | .boundary => true
  | _ => false

/-- The phases that a round boundary goes to when it has emptied the queue. -/
def Phase.isDrained : Phase → Bool
  | .summarizing | .ready => true
  | _ => false

/-- A run does not end with a steer in the queue; and a round boundary finds at most one there, or neither
hands off nor truncates. -/
structure Careful (E : Env) (s s' : Session) : Prop where
  ending : s'.phase.stopReason.any StopReason.isRegular = true → queued s' = []
  boundary : s.phase.isBoundary = true → s'.phase.isDrained = true → (queued s).length ≤ 1 ∨
    (asksForSummary E (drainSteers s) = false ∧ totalBytes E.jsonText (drainSteers s).history ≤
      E.cfg.maxHistoryBytes)

lemma careful_iff : Careful E s s' ↔ (s'.phase.stopReason.any StopReason.isRegular = true → queued s' = []) ∧
    (s.phase.isBoundary = true → s'.phase.isDrained = true → (queued s).length ≤ 1 ∨
      (asksForSummary E (drainSteers s) = false ∧
        totalBytes E.jsonText (drainSteers s).history ≤ E.cfg.maxHistoryBytes)) := by
  constructor
  · rintro ⟨he,hb⟩
    exact ⟨he,hb⟩
  · rintro ⟨he,hb⟩
    exact ⟨he,hb⟩

instance : Decidable (Careful E s s') := decidable_of_iff' _ careful_iff

lemma drainSteers_history : (drainSteers s).history = s.history ++ (queued s).map .user := rfl

lemma currentPrompt_drainSteers {t : String} (ht : t ∈ queued s) (hon : (queued s).length ≤ 1) :
    currentPrompt (drainSteers s).history = some t := by
  have hp := List.length_pos_of_mem ht
  obtain ⟨only,ho⟩ := List.length_eq_one_iff.1 (le_antisymm hon hp)
  rw [ho,List.mem_singleton] at ht
  rw [drainSteers_history,ho,ht]
  exact currentPrompt_append_user s.history only

/-- What a careful boundary takes from the queue stands in the next request. -/
lemma held_of_boundary (hp : s.phase = .boundary) (hc : Careful E s (roundBoundary E s)) {t : String}
    (ht : t ∈ queued s) :
    Held (roundBoundary E s).history t (roundBoundary E s).phase ∨ Excused (roundBoundary E s).phase := by
  have hca := hc.boundary (by rw [hp]; rfl)
  unfold roundBoundary at hca ⊢
  split_ifs at hca ⊢ with hr hcn ha
  · exact .inr rfl
  · exact .inr rfl
  · left
    rcases hca rfl with ho | ⟨hn,-⟩
    · exact currentPrompt_drainSteers ht ho
    · rw [ha] at hn
      cases hn
  · left
    change HistoryItem.user t ∈ truncateHistory E.jsonText (drainSteers s).history E.cfg.maxHistoryBytes
    rcases hca rfl with ho | ⟨-,hf⟩
    · apply mem_of_currentPrompt
      rw [currentPrompt_truncateHistory]
      exact currentPrompt_drainSteers ht ho
    · rw [truncateHistory_of_fits hf,drainSteers_history]
      exact List.mem_append_right _ (List.mem_map_of_mem ht)

lemma roundBoundary_frame :
    (roundBoundary E s).accepted = s.accepted ∧ (roundBoundary E s).requests = s.requests := by
  unfold roundBoundary
  split_ifs <;> exact ⟨rfl,rfl⟩

variable (h : AllInCustody s)
include h

lemma AllInCustody.roundBoundary (hp : s.phase = .boundary)
    (hc : Careful E s (roundBoundary E s)) : AllInCustody (roundBoundary E s) := by
  intro steer hm t ht
  obtain ⟨ha,hr⟩ := roundBoundary_frame (E := E) (s := s)
  rw [ha] at hm
  obtain ⟨hb,hs⟩ := h steer hm t ht
  rw [hp] at hs
  refine ⟨by rwa [hr],?_⟩
  rcases hs with hd | hq | hh | he
  · left
    unfold Delivered
    rw [hr]
    exact hd
  · exact .inr (.inr (held_of_boundary hp hc (List.mem_filterMap.2 ⟨steer.1,hq,ht⟩)))
  · exact absurd hh id
  · exact absurd he id

lemma AllInCustody.onSummary (hp : s.phase = .summarizing)
    (rp : Except String String) : AllInCustody (onSummary E s rp) := by
  refine h.quiet (quiet_onSummary rp) ?_ (by rw [hp]; exact False.elim)
  intro t hh
  rw [hp] at hh
  have hs : Held (skipHandoff E s).history t .ready := by
    apply mem_of_currentPrompt
    exact (currentPrompt_truncateHistory _ _ _).trans hh
  unfold BuzzAgent.onSummary
  split_ifs
  · exact .inr rfl
  · cases rp with
    | error e => exact .inl hs
    | ok summary =>
      dsimp only
      split_ifs
      · exact .inl hs
      · exact .inl hh

lemma AllInCustody.onPostCompact {summary : String} {pr : Option String}
    (hp : s.phase = .compacting summary pr) (outputs : List (String × String)) :
    AllInCustody (onPostCompact s summary pr outputs) := by
  refine h.quiet ⟨rfl,rfl,rfl⟩ ?_ (by rw [hp]; exact False.elim)
  intro t hh
  rw [hp] at hh
  cases hh
  left
  change HistoryItem.user t ∈ [_,_]
  simp

lemma AllInCustody.sendRequest (hp : s.phase = .ready) : AllInCustody (sendRequest s) := by
  unfold BuzzAgent.sendRequest
  split_ifs
  · refine h.quiet ⟨rfl,rfl,rfl⟩ (fun t hh => .inr rfl) fun _ => rfl
  · intro steer hm t ht
    obtain ⟨hb,hs⟩ := h steer hm t ht
    rw [hp] at hs
    refine ⟨?_,?_⟩
    · rw [List.length_append]
      omega
    · rcases hs with ⟨k,req,hk,hget,hin⟩ | hq | hh | he
      · left
        refine ⟨k,req,hk,?_,hin⟩
        exact List.getElem?_append_left (List.getElem?_eq_some_iff.1 hget).1 |>.trans hget
      · exact .inr (.inl hq)
      · left
        exact ⟨s.requests.length,s.history,hb,List.getElem?_concat_length,hh⟩
      · exact absurd he id

lemma AllInCustody.steered (blocks : List ContentBlock) : AllInCustody { s with
      steer := s.steer ++ [blocks], accepted := s.accepted ++ [(blocks,s.requests.length)] } := by
  intro steer hm t ht
  rcases List.mem_append.1 hm with hm | hm
  · obtain ⟨hb,hs⟩ := h steer hm t ht
    refine ⟨hb,?_⟩
    rcases hs with hd | hq | hr
    · exact .inl hd
    · exact .inr (.inl (List.mem_append_left _ hq))
    · exact .inr (.inr hr)
  · rw [List.mem_singleton.1 hm]
    exact ⟨le_rfl,.inr (.inl (List.mem_append_right _ (List.mem_singleton_self _)))⟩

lemma AllInCustody.transition (ht : Transition E s s') (hc : Careful E s s') : AllInCustody s' := by
  cases ht with
  | refused => exact h
  | acquired runId pr hp => exact fun steer hm => by cases hm
  | steered blocks runId hrun => exact h.steered blocks
  | cancelled | counted => exact h.quiet ⟨rfl,rfl,rfl⟩ (fun _ => .inl) id
  | started hp => exact h.quiet_from hp (quiet_start _) (fun _ => id) id
  | bounded hp => exact h.roundBoundary hp hc
  | summarized hp rp => exact h.onSummary hp rp
  | compacted hp outputs => exact h.onPostCompact hp outputs
  | sent hp => exact h.sendRequest hp
  | replied hp rp =>
    exact h.quiet_from hp (quiet_onReply rp) (fun _ => id) id
  | stopped hp objs =>
    exact h.quiet_from hp (quiet_onStopHooks objs) (fun _ => id) id
  | looked hp =>
    exact h.quiet_from hp (quiet_preflightStep _ _) (fun _ => id) id
  | loaded hp cont isError =>
    exact h.quiet_from hp (quiet_onSkill _ _ cont isError) (fun _ => id) id
  | joined hp i out =>
    exact h.quiet_from hp (quiet_onJoined _ _ _ i out) (fun _ => id) id
  | noticed hp =>
    exact h.quiet_from hp ⟨rfl,rfl,rfl⟩ (fun _ => id) id
  | completed hp =>
    exact h.quiet_from hp (quiet_completeBatch _) (fun _ => id) id
  | released hp =>
    intro steer hm t hte
    exact ⟨(h steer hm t hte).before,.inr (.inr (.inr trivial))⟩

omit h

inductive CarefulRun (E : Env) : Session → Prop
  | new (nonce : ℕ) : CarefulRun E (.new nonce)
  | step {s s' : Session} {action : Action} (hs : CarefulRun E s) (h : step E s action = some s')
      (hc : Careful E s s') : CarefulRun E s'

/-- The session after a list of actions, if all of them happen and are careful. -/
def runCarefully (E : Env) (s : Session) : List Action → Option Session
  | [] => some s
  | action :: actions => (step E s action).bind fun s' =>
    if Careful E s s' then runCarefully E s' actions else none

lemma CarefulRun.runCarefully {as : List Action} (h : CarefulRun E s)
    (hrun : runCarefully E s as = some s') : CarefulRun E s' := by
  induction as generalizing s with
  | nil =>
    cases hrun
    exact h
  | cons a as ih =>
    obtain ⟨mid,hst,hr⟩ := Option.bind_eq_some_iff.1 hrun
    obtain ⟨hc,hr⟩ := Option.ite_none_right_eq_some.1 hr
    exact ih (h.step hst hc) hr

lemma allInCustody_of_carefulRun (h : CarefulRun E s) : AllInCustody s := by
  induction h with
  | new nonce => exact fun steer hm => by cases hm
  | step _ hst hc ih => exact ih.transition (transition_of_step hst) hc

lemma queued_of_regular (h : CarefulRun E s) (hr : s.phase.stopReason.any StopReason.isRegular = true) :
    queued s = [] := by
  cases h with
  | new nonce => rfl
  | step _ _ hc => exact hc.ending hr

/-- In a careful run that ends regularly, every accepted steer that has a text was shown to the model,
verbatim, after it was accepted. -/
theorem accepted_steer_delivered (hrun : CarefulRun E s) {stop : StopReason}
    (hphase : s.phase = .finished (.ok stop))
    (hcancelled : stop ≠ .cancelled) (hrounds : stop ≠ .maxTurnRequests) :
    ∀ steer ∈ s.accepted, ∀ text, promptToText steer.1 = .ok text → LineText.isBlank text = false →
      ∃ k request, steer.2 ≤ k ∧ s.requests[k]? = some request ∧ .user text ∈ request := by
  intro steer hm text hre hb
  have ht : steerText steer.1 = some text := by
    rw [steerText,hre]
    simp [hb]
  have hr : stop.isRegular = true := by
    cases stop with
    | cancelled => exact absurd rfl hcancelled
    | maxTurnRequests => exact absurd rfl hrounds
    | _ => rfl
  have he := queued_of_regular hrun (by rw [hphase]; exact hr)
  have hc := (allInCustody_of_carefulRun hrun steer hm text ht).somewhere
  rw [hphase] at hc
  rcases hc with hd | hq | hh | hex
  · exact hd
  · have hin : text ∈ queued s := List.mem_filterMap.2 ⟨steer.1,hq,ht⟩
    rw [he] at hin
    cases hin
  · exact absurd hh id
  · rw [Excused,hr] at hex
    cases hex

end

section

lemma stopReason_eq_some {phase : Phase} {stop : StopReason} (h : phase.stopReason = some stop) :
    phase = .finished (.ok stop) := by
  cases phase with
  | finished res =>
    cases res with
    | ok stop' =>
      cases h
      rfl
    | error e => cases h
  | _ => cases h

/-- How the run ended, what it accepted and what the user says in its requests. -/
def steerView (s : Session) : Option StopReason × List (List ContentBlock × ℕ) × List (List String) :=
  (s.phase.stopReason,s.accepted,s.requests.map (·.filterMap HistoryItem.userText))

/-- A steer comes while the model asks for a tool, and stands in the next request. -/
def steeredRun : List Action :=
  [.prompt "run_1" [.text "list the files"],.advance,.advance,.advance,.steer "run_1" [.text "only tests"],
    .reply (.ok ⟨"looking",[⟨"call_1","ls",.object []⟩],.toolUse,none⟩),.advance,.advance,.complete,.advance,
    .advance,.reply (.ok ⟨"done",[],.endTurn,none⟩),.stopHooks []]

theorem accepted_steer_delivered_after_tool : ∃ s, CarefulRun bareEnv s ∧ s.phase = .finished (.ok .endTurn) ∧
    s.accepted = [([.text "only tests"],1)] ∧
    ∃ k request, 1 ≤ k ∧ s.requests[k]? = some request ∧ .user "only tests" ∈ request := by
  have hv : (runCarefully bareEnv (.new 0) steeredRun).map steerView =
      some (some .endTurn,[([.text "only tests"],1)],
        [["list the files"],["list the files","only tests"]]) := by
    decide +kernel
  obtain ⟨s,hrun,hs⟩ := Option.map_eq_some_iff.1 hv
  obtain ⟨hst,ha,-⟩ : s.phase.stopReason = some .endTurn ∧ s.accepted = [([.text "only tests"],1)] ∧
      s.requests.map (·.filterMap HistoryItem.userText) =
        [["list the files"],["list the files","only tests"]] := by
    simpa only [steerView,Prod.mk.injEq] using hs
  have hc : CarefulRun bareEnv s := (CarefulRun.new 0).runCarefully hrun
  have hphase := stopReason_eq_some hst
  refine ⟨s,hc,hphase,ha,?_⟩
  exact accepted_steer_delivered hc hphase (by decide) (by decide) ([.text "only tests"],1)
    (by rw [ha]; exact List.mem_singleton_self _) "only tests" (by decide +kernel) (by decide +kernel)

/-- A steer comes while the model gives its last answer. -/
def lateSteerRun : List Action :=
  [.prompt "run_1" [.text "list the files"],.advance,.advance,.advance,.steer "run_1" [.text "only tests"],
    .reply (.ok ⟨"done",[],.endTurn,none⟩),.stopHooks []]

/-- Two steers come before a round boundary that hands off, which keeps the second. -/
def handoffRun : List Action :=
  [.prompt "run_1" [.text "list the files"],.advance,.advance,.advance,.steer "run_1" [.text "only tests"],
    .steer "run_1" [.text "sorted"],
    .reply (.ok ⟨"looking",[⟨"call_1","ls",.object []⟩],.toolUse,some 190000⟩),.advance,.advance,.complete,
    .advance,.summary (.ok "looked"),.postCompact [],.advance,.reply (.ok ⟨"done",[],.endTurn,none⟩),
      .stopHooks []]

/-- No request of the run, which ended its turn, says the text of its first accepted steer. -/
def SteerLost (s : Session) (text : String) : Prop :=
  s.phase = .finished (.ok .endTurn) ∧ s.accepted.head? = some ([.text text],1) ∧
    ∀ request ∈ s.requests, .user text ∉ request

lemma steerLost_of_view {s : Session} {t : String} {steers : List (List ContentBlock × ℕ)}
    {said : List (List String)} (hv : steerView s = (some .endTurn,([.text t],1) :: steers,said))
    (hs : ∀ ts ∈ said, t ∉ ts) : SteerLost s t := by
  rw [steerView,Prod.mk.injEq,Prod.mk.injEq] at hv
  obtain ⟨hst,ha,hr⟩ := hv
  refine ⟨stopReason_eq_some hst,by rw [ha]; rfl,?_⟩
  intro req hre hin
  subst hr
  exact hs _ (List.mem_map_of_mem hre) (List.mem_filterMap.2 ⟨.user t,hin,rfl⟩)

/-- Neither a late steer nor the first of two steers at a handoff is in any request. -/
theorem accepted_steer_lost :
    (∃ s, Reach bareEnv s ∧ run bareEnv (.new 0) lateSteerRun = some s ∧ SteerLost s "only tests") ∧
    (∃ s, Reach bareEnv s ∧ run bareEnv (.new 0) handoffRun = some s ∧ SteerLost s "only tests") := by
  constructor
  · have hv : (run bareEnv (.new 0) lateSteerRun).map steerView =
        some (some .endTurn,[([.text "only tests"],1)],[["list the files"]]) := by
      decide +kernel
    obtain ⟨s,hrun,hs⟩ := Option.map_eq_some_iff.1 hv
    exact ⟨s,(Reach.new 0).run hrun,hrun,steerLost_of_view hs (by decide)⟩
  · have hv : (run bareEnv (.new 0) handoffRun).map steerView =
        some (some .endTurn,[([.text "only tests"],1),([.text "sorted"],1)],
          [["list the files"],["[Context Handoff]\nlooked","sorted"]]) := by
      decide +kernel
    obtain ⟨s,hrun,hs⟩ := Option.map_eq_some_iff.1 hv
    exact ⟨s,(Reach.new 0).run hrun,hrun,steerLost_of_view hs (by decide)⟩

end

end BuzzSolo.BuzzAgent
