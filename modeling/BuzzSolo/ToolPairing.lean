import BuzzSolo.AgentRun

/-! Tool calls and their results stay together in the history of an agent session, whatever comes
between its steps, and with them in every request that is built from it. -/
namespace BuzzSolo.BuzzAgent

open Handoff (Json)
open CallPairing Option

section

structure Settled (history : List HistoryItem) : Prop where
  paired : Paired HistoryItem.role history
  first : ∃ text rest, history = .user text :: rest

lemma paired_users (ts : List String) : Paired HistoryItem.role (ts.map .user) := by
  induction ts with
  | nil => rfl
  | cons t ts ih => exact (read_plain rfl _).trans ih

lemma paired_assistant (t : String) : Paired HistoryItem.role [.assistant t []] := rfl

variable {his : List HistoryItem}

lemma Settled.append {later : List HistoryItem} (h : Settled his)
    (hl : Paired HistoryItem.role later) : Settled (his ++ later) := by
  obtain ⟨t,rest,heq⟩ := h.first
  exact ⟨h.paired.append hl,t,rest ++ later,by rw [heq]; rfl⟩

lemma settled_append_user (t : String) (h : his = [] ∨ Settled his) : Settled (his ++ [.user t]) := by
  rcases h with rfl | h
  · exact ⟨rfl,t,[],rfl⟩
  · exact h.append rfl

/-- Truncation starts at a user item, before which nothing is due. -/
lemma Settled.truncate {jsonText : Json → String} (h : Settled his)
    (mb : ℕ) : Settled (truncateHistory jsonText his mb) := by
  rcases keepable_truncateHistory jsonText mb his with hs | ⟨⟨dropped,heq⟩,text,rest,hk⟩
  · rw [hs]
    exact h
  · have hp := h.paired
    rw [← heq,hk] at hp
    rw [hk]
    exact ⟨(hp.split (by intro call hc; cases hc)).2,text,rest,rfl⟩

/-- A history that ends in an assistant item whose calls have no results yet. -/
structure Asking (history : List HistoryItem) (calls : List ToolCall) : Prop where
  due : CallPairing.read HistoryItem.role [] history = some (calls.map ToolCall.providerId)
  first : ∃ text rest, history = .user text :: rest

lemma Settled.ask (h : Settled his) (t : String) (calls : List ToolCall) :
    Asking (his ++ [.assistant t calls]) calls := by
  obtain ⟨first,rest,heq⟩ := h.first
  refine ⟨?_,first,rest ++ [.assistant t calls],by rw [heq]; rfl⟩
  rw [read_append,h.paired]
  rfl

/-- The results in their slots carry the ids of their calls. -/
def Batch.Labelled (b : Batch) : Prop :=
  ∀ (i : ℕ) call result, b.calls[i]? = some call → b.results[i]? = some (some result) →
    result.providerId = call.providerId

variable {cs : List ToolCall} {rs : List (Option ToolResult)}

lemma role_appendResults (h : ∀ (i : ℕ) call res, cs[i]? = some call → rs[i]? = some (some res) →
      res.providerId = call.providerId) :
    (cs.mapIdx fun i call => HistoryItem.toolResult (finalResult call (rs[i]?.getD none))).map
      HistoryItem.role = (cs.map ToolCall.providerId).map .answers := by
  apply List.ext_getElem?
  intro i
  simp only [List.getElem?_map,List.getElem?_mapIdx]
  cases hc : cs[i]? with
  | none => rfl
  | some call =>
    simp only [map_some,HistoryItem.role]
    congr 2
    apply finalResult_providerId
    intro res hr
    apply h i call res hc
    cases hs : rs[i]? with
    | none =>
      rw [hs] at hr
      cases hr
    | some slot =>
      rw [hs] at hr
      exact congrArg some hr

lemma Asking.appendResults (h : Asking his cs)
    (hr : ∀ (i : ℕ) call res, cs[i]? = some call → rs[i]? = some (some res) →
      res.providerId = call.providerId) : Settled (appendResults his cs rs) := by
  obtain ⟨t,rest,heq⟩ := h.first
  refine ⟨?_,t,rest ++ _,by rw [BuzzAgent.appendResults,heq]; rfl⟩
  have hre := read_of_answers (role_appendResults hr) []
  rw [List.append_nil] at hre
  rw [Paired,BuzzAgent.appendResults,read_append,h.due,bind_some,hre]
  rfl

end

section

variable {b : Batch}
variable {i : ℕ} {call : ToolCall} {res : ToolResult}

variable (h : b.Labelled) (hc : b.calls[i]? = some call) (hid : res.providerId = call.providerId)
include h hc hid

lemma Batch.Labelled.setResult : (b.setResult i res).Labelled := by
  intro j call' result' hc' hr'
  change (b.results.set i (some res))[j]? = _ at hr'
  rw [List.getElem?_set] at hr'
  split_ifs at hr' with hij hlt
  · subst hij
    cases hr'
    cases hc.symm.trans hc'
    exact hid
  · exact h j call' result' hc' hr'

lemma Batch.Labelled.fillResult : (b.fillResult i res).Labelled := by
  intro j call' result' hc' hr'
  change (b.results.modify i fun slot => slot.or (some res))[j]? = _ at hr'
  rw [List.getElem?_modify] at hr'
  cases hs : b.results[j]? with
  | none =>
    rw [hs] at hr'
    cases hr'
  | some slot =>
    rw [hs] at hr'
    by_cases hij : i = j
    · subst hij
      cases hc.symm.trans hc'
      cases slot with
      | none =>
        simp only [if_true] at hr'
        cases hr'
        exact hid
      | some kept =>
        simp only [if_true] at hr'
        cases hr'
        exact h i call _ hc hs
    · simp only [if_neg hij] at hr'
      cases hr'
      exact h j call' _ hc' hs

omit h hc hid

lemma Batch.Labelled.fill (h : b.Labelled) (places : ℕ → Bool) (i : ℕ) (call : ToolCall) (res : ToolResult)
    (hc : b.calls[i]? = some call) (hr : (b.fill places)[i]? = some (some res)) :
    res.providerId = call.providerId := by
  rw [Batch.fill,fillSlots,List.getElem?_mapIdx,hc,map_some,some.injEq] at hr
  cases hs : b.results[i]?.getD none with
  | none =>
    rw [hs,none_or] at hr
    split_ifs at hr
    cases hr
    rfl
  | some kept =>
    rw [hs,some_or] at hr
    have hk := some.inj hr
    subst hk
    apply h i call kept hc
    cases hget : b.results[i]? with
    | none =>
      rw [hget] at hs
      cases hs
    | some slot =>
      rw [hget] at hs
      exact congrArg some hs

end

section

variable {E : Env} {s s' : Session}

/-- What holds of the history in each phase of a run. -/
def PhaseOk (history : List HistoryItem) : Phase → Prop
  | .idle | .starting _ => history = [] ∨ Settled history
  | .boundary | .summarizing | .ready | .waiting | .stopping => Settled history
  | .compacting _ _ => history = []
  | .preflight b _ | .loadingSkill b _ | .executing b _ _ => Asking history b.calls ∧ b.Labelled
  | .finished (.error (.invalidParams _)) => history = [] ∨ Settled history
  | .finished _ => Settled history

structure HistoryOk (s : Session) : Prop where
  phase : PhaseOk s.history s.phase
  requests : ∀ request ∈ s.requests, Settled request

lemma PhaseOk.finished {his : List HistoryItem} (h : Settled his) (res : Except AgentError StopReason) :
    PhaseOk his (.finished res) := by
  rcases res with e | stop
  · cases e with
    | invalidParams msg => exact .inr h
    | _ => exact h
  · exact h

lemma HistoryOk.finish (h : ∀ req ∈ s.requests, Settled req) (hs : Settled s.history)
    (res : Except AgentError StopReason) : HistoryOk (s.finish res) := ⟨.finished hs res,h⟩

lemma HistoryOk.start {pr : List ContentBlock} (h : HistoryOk s) (hp : s.phase = .starting pr) :
    HistoryOk (start s pr) := by
  have hh := h.phase
  rw [hp] at hh
  unfold BuzzAgent.start
  cases ht : promptToText pr with
  | error e =>
    cases e with
    | invalidParams msg => exact ⟨hh,h.requests⟩
    | _ =>
      unfold promptToText Checks.okOr at ht
      split at ht <;> cases ht
  | ok t =>
    dsimp only
    split_ifs with hs
    · exact ⟨hh,h.requests⟩
    · exact ⟨settled_append_user t hh,h.requests⟩

lemma Settled.drain (h : Settled s.history) : Settled (drainSteers s).history := h.append (paired_users _)

lemma HistoryOk.skipHandoff (h : ∀ req ∈ s.requests, Settled req) (hs : Settled s.history) :
    HistoryOk (skipHandoff E s) := ⟨hs.truncate _,h⟩

lemma HistoryOk.roundBoundary (h : HistoryOk s) (hp : s.phase = .boundary) :
    HistoryOk (roundBoundary E s) := by
  have hs := h.phase
  rw [hp] at hs
  unfold BuzzAgent.roundBoundary
  split_ifs
  · exact .finish h.requests hs _
  · exact .finish h.requests hs _
  · exact ⟨hs.drain,h.requests⟩
  · exact .skipHandoff (s := drainSteers s) h.requests hs.drain

lemma HistoryOk.onSummary (h : HistoryOk s) (hp : s.phase = .summarizing) (rp : Except String String) :
    HistoryOk (onSummary E s rp) := by
  have hs := h.phase
  rw [hp] at hs
  unfold BuzzAgent.onSummary
  split_ifs
  · exact .finish h.requests hs _
  · cases rp with
    | error e => exact .skipHandoff h.requests hs
    | ok summary =>
      dsimp only
      split_ifs
      · exact .skipHandoff h.requests hs
      · exact ⟨rfl,h.requests⟩

lemma HistoryOk.onPostCompact (h : HistoryOk s) (summary : String) (pr : Option String)
    (outputs : List (String × String)) : HistoryOk (onPostCompact s summary pr outputs) := by
  refine ⟨⟨?_,_,_,rfl⟩,h.requests⟩
  exact (read_plain rfl _).trans (paired_users pr.toList)

lemma HistoryOk.sendRequest (h : HistoryOk s) (hp : s.phase = .ready) : HistoryOk (sendRequest s) := by
  have hs := h.phase
  rw [hp] at hs
  unfold BuzzAgent.sendRequest
  split_ifs
  · exact .finish (s := { s with round := s.round + 1 }) h.requests hs _
  · refine ⟨hs,?_⟩
    intro req hm
    rcases List.mem_append.1 hm with hm | hm
    · exact h.requests req hm
    · rw [List.mem_singleton.1 hm]
      exact hs

lemma recordUsage_history (tokens : Option ℕ) : (recordUsage E s tokens).history = s.history := by
  cases tokens <;> rfl

lemma recordUsage_requests (tokens : Option ℕ) : (recordUsage E s tokens).requests = s.requests := by
  cases tokens <;> rfl

lemma labelled_new (calls : List ToolCall) : (Batch.mk calls (calls.map fun _ => none) []).Labelled := by
  intro i call res _ hr
  rw [List.getElem?_map] at hr
  cases hs : calls[i]? with
  | none | some =>
    rw [hs] at hr
    cases hr

lemma HistoryOk.onReply (h : HistoryOk s) (hp : s.phase = .waiting) (rp : Except AgentError LlmResponse) :
    HistoryOk (onReply E s rp) := by
  have hs := h.phase
  rw [hp] at hs
  unfold BuzzAgent.onReply
  split_ifs
  · exact .finish h.requests hs _
  · cases rp with
    | error e => exact .finish h.requests hs _
    | ok resp =>
      have hr : ∀ req ∈ (recordUsage E s resp.inputTokens).requests, Settled req := by
        rw [recordUsage_requests]
        exact h.requests
      have hh : Settled (recordUsage E s resp.inputTokens).history := by
        rw [recordUsage_history]
        exact hs
      dsimp only
      split_ifs
      · exact .finish hr hh _
      · exact ⟨hh.append (paired_assistant _),hr⟩
      · exact ⟨.finished (hh.append (paired_assistant _)) _,hr⟩
      · exact ⟨⟨hh.ask _ _,labelled_new _⟩,hr⟩

lemma HistoryOk.onStopHooks (h : HistoryOk s) (hp : s.phase = .stopping)
    (objs : List (String × String)) : HistoryOk (onStopHooks s objs) := by
  have hs := h.phase
  rw [hp] at hs
  unfold BuzzAgent.onStopHooks
  split_ifs
  · exact .finish h.requests hs _
  · exact ⟨hs.append (paired_hookOutputItems _ _ _),h.requests⟩

variable {b : Batch}
variable {next : ℕ}

lemma HistoryOk.preflightStep (h : HistoryOk s) (hp : s.phase = .preflight b next) :
    HistoryOk (preflightStep E s b next) := by
  have hs := h.phase
  rw [hp] at hs
  obtain ⟨ha,hl⟩ := hs
  unfold BuzzAgent.preflightStep
  cases hc : b.calls[next]? with
  | none => exact ⟨⟨ha,hl⟩,h.requests⟩
  | some call =>
    dsimp only
    split_ifs
    · exact ⟨.finished (ha.appendResults (hl.fill _)) _,h.requests⟩
    · exact ⟨⟨ha,hl⟩,h.requests⟩
    · exact ⟨⟨ha,hl.setResult hc rfl⟩,h.requests⟩
    · exact ⟨⟨ha,hl⟩,h.requests⟩

lemma HistoryOk.onSkill (h : HistoryOk s) (hp : s.phase = .loadingSkill b next)
    (cont : List ToolResultContent) (isError : Bool) : HistoryOk (onSkill s b next cont isError) := by
  have hs := h.phase
  rw [hp] at hs
  unfold BuzzAgent.onSkill
  cases hc : b.calls[next]? with
  | none => exact h
  | some call => exact ⟨⟨hs.1,hs.2.setResult hc rfl⟩,h.requests⟩

lemma outcomeToResult_providerId (call : ToolCall) (out : InvokeOutcome) :
    (outcomeToResult call out).providerId = call.providerId := by
  cases out <;> rfl

variable {running : List ℕ} {cancelled : Bool}

variable (h : HistoryOk s) (hphase : s.phase = .executing b running cancelled)
include h hphase

lemma HistoryOk.onJoined (i : ℕ) (out : Option InvokeOutcome) :
    HistoryOk (onJoined s b running cancelled i out) := by
  have hs := h.phase
  rw [hphase] at hs
  unfold BuzzAgent.onJoined
  cases hc : b.calls[i]? with
  | none => exact ⟨hs,h.requests⟩
  | some call =>
    cases out with
    | none => exact ⟨hs,h.requests⟩
    | some out =>
      have hid := outcomeToResult_providerId call out
      cases cancelled with
      | false => exact ⟨⟨hs.1,hs.2.setResult hc hid⟩,h.requests⟩
      | true => exact ⟨⟨hs.1,hs.2.fillResult hc hid⟩,h.requests⟩

lemma HistoryOk.completeBatch : HistoryOk (completeBatch s b) := by
  have hs := h.phase
  rw [hphase] at hs
  have hse := hs.1.appendResults (hs.2.fill fun i => decide (i ∈ b.runnable))
  unfold BuzzAgent.completeBatch
  dsimp only
  split_ifs
  · exact ⟨.finished hse _,h.requests⟩
  · exact ⟨hse,h.requests⟩

omit h hphase

lemma HistoryOk.release {res : Except AgentError StopReason} (h : HistoryOk s)
    (hp : s.phase = .finished res) : HistoryOk (releaseSession s) := by
  have hs := h.phase
  rw [hp] at hs
  refine ⟨?_,h.requests⟩
  rcases res with e | stop
  · cases e with
    | invalidParams msg => exact hs
    | _ => exact .inr hs
  · exact .inr hs

lemma HistoryOk.transition (h : HistoryOk s) (ht : Transition E s s') : HistoryOk s' := by
  cases ht with
  | refused => exact h
  | acquired _ _ hphase | noticed hphase =>
    have hs := h.phase
    rw [hphase] at hs
    exact ⟨hs,h.requests⟩
  | steered | cancelled | counted => exact ⟨h.phase,h.requests⟩
  | started hphase => exact h.start hphase
  | bounded hphase => exact h.roundBoundary hphase
  | summarized hphase rp => exact h.onSummary hphase rp
  | compacted hphase outputs => exact h.onPostCompact _ _ outputs
  | sent hphase => exact h.sendRequest hphase
  | replied hphase rp => exact h.onReply hphase rp
  | stopped hphase objs => exact h.onStopHooks hphase objs
  | looked hphase => exact h.preflightStep hphase
  | loaded hphase cont isError => exact h.onSkill hphase cont isError
  | joined hphase i out => exact h.onJoined hphase i out
  | completed hphase => exact h.completeBatch hphase
  | released hphase => exact h.release hphase

lemma step_starting {pr : List ContentBlock} {a : Action} (hp : s.phase = .starting pr)
    (h : step E s a = some s') : a = .advance ∧ s' = start s pr ∨ s'.phase = .starting pr ∧
      s'.history = s.history := by
  cases a with
  | advance => exact .inl ⟨rfl,by simpa [step,hp] using h.symm⟩
  | prompt =>
    simp only [step,acquireSession,hp] at h
    cases h
    exact .inr ⟨hp,rfl⟩
  | steer runId blocks =>
    cases h
    unfold steerSession
    right
    split_ifs
    · exact ⟨hp,rfl⟩
    · exact ⟨hp,rfl⟩
    · cases hrun : s.activeRunId with
      | none => exact ⟨hp,rfl⟩
      | some active =>
        dsimp only
        split_ifs <;> exact ⟨hp,rfl⟩
  | cancel | hooksElsewhere =>
    cases h
    exact .inr ⟨hp,rfl⟩
  | _ => simp [step,hp] at h

lemma historyOk_of_reach (h : Reach E s) : HistoryOk s := by
  induction h with
  | new nonce => exact ⟨.inl rfl,by simp [Session.new]⟩
  | step _ hst ih => exact ih.transition (transition_of_step hst)

end

section

/-- Every assistant item is followed at once by exactly the results of its calls, in order, and a result
stands nowhere else. -/
structure ResultsPaired (history : List HistoryItem) : Prop where
  answered : ∀ before text toolCalls after, history = before ++ .assistant text toolCalls :: after →
    ∃ (results : List ToolResult) (rest : List HistoryItem), after = results.map .toolResult ++ rest ∧
      results.map ToolResult.providerId = toolCalls.map ToolCall.providerId ∧
      ∀ result, rest.head? ≠ some (.toolResult result)
  asked : ∀ before result after, history = before ++ .toolResult result :: after →
    ∃ (front : List HistoryItem) (text : String) (toolCalls : List ToolCall) (results : List ToolResult),
      before = front ++ .assistant text toolCalls :: results.map .toolResult ∧
      results.map ToolResult.providerId ++ [result.providerId] <+: toolCalls.map ToolCall.providerId

lemma resultsPaired_of_paired {his : List HistoryItem} (h : Paired HistoryItem.role his) :
    ResultsPaired his where
  answered := by
    rintro bef t tcs aft rfl
    obtain ⟨anss,rest,rfl,ha,hr⟩ := h.answered rfl
    obtain ⟨results,rfl,hi⟩ := exists_results ha
    exact ⟨results,rest,rfl,hi,fun res hh => hr _ hh _ rfl⟩
  asked := by
    rintro bef res aft rfl
    obtain ⟨fr,item,mid,done,left,rfl,hit,hb⟩ := h.asked rfl
    obtain ⟨t,tcs,rfl,hi⟩ := role_eq_opens hit
    obtain ⟨results,rfl,hd⟩ := exists_results hb
    refine ⟨fr,t,tcs,results,rfl,left,?_⟩
    rw [hi,hd]
    simp

def StartsWithUser (history : List HistoryItem) : Prop := ∃ text rest, history = .user text :: rest

lemma history_of_refused {E : Env} {s s' : Session} {pr : List ContentBlock} {waited : List Action}
    {message : String}
    (hw : ∀ a ∈ waited, a ≠ .advance) (hphase : s.phase = .starting pr)
    (hrun : run E s (waited ++ [.advance]) = some s')
    (hend : s'.phase = .finished (.error (.invalidParams message))) : s'.history = s.history := by
  induction waited generalizing s with
  | nil =>
    obtain ⟨mid,hst,hr⟩ := bind_eq_some_iff.1 hrun
    cases hr
    obtain ⟨-,rfl⟩ | ⟨hp,-⟩ := step_starting hphase hst
    · unfold start at hend ⊢
      cases ht : promptToText pr with
      | error e => rfl
      | ok t =>
        rw [ht] at hend
        dsimp only at hend ⊢
        split_ifs at hend ⊢ with hs
        rfl
    · cases hp.symm.trans hend
  | cons a waited ih =>
    obtain ⟨mid,hst,hr⟩ := bind_eq_some_iff.1 hrun
    obtain ⟨ha,-⟩ | ⟨hp,hh⟩ := step_starting hphase hst
    · exact absurd ha (hw a List.mem_cons_self)
    · exact (ih (fun x hx => hw x (List.mem_cons_of_mem _ hx)) hp hr).trans hh

/-- In every session, whenever a model request is built and whenever a run ends, tool calls and results are
paired; the history starts with a user item in every request and at the end of every run, except that a
refused prompt leaves the history as it was. The three request bodies keep the results with their calls. -/
theorem tool_results_paired {E : Env} {s : Session} (hreach : Reach E s) :
    (∀ request ∈ s.requests, StartsWithUser request ∧ ResultsPaired request ∧
      ∀ (Effort : Type) (F : Efforts Effort) maxOutputTokens systemPrompt tools model effort,
        Followed anthropicAnswered
            (anthropicBody F maxOutputTokens systemPrompt request tools model effort).messages ∧
          Followed openaiAnswered
            (openaiBody E.jsonText F maxOutputTokens systemPrompt request tools model effort).messages ∧
          (responsesBody E.jsonText F maxOutputTokens systemPrompt request tools model effort).input =
            responsesInput E.jsonText request ∧ ResponsesAnswered E.jsonText request) ∧
      (∀ result, s.phase = .finished result →
        ResultsPaired s.history ∧ (s.history = [] ∨ StartsWithUser s.history) ∧
          ((∀ message, result ≠ .error (.invalidParams message)) → StartsWithUser s.history)) ∧
      ∀ runId blocks waited s' message, s.phase = .idle → (∀ action ∈ waited, action ≠ .advance) →
        run E s (.prompt runId blocks :: (waited ++ [.advance])) = some s' →
        s'.phase = .finished (.error (.invalidParams message)) → s'.history = s.history := by
  have hok := historyOk_of_reach hreach
  refine ⟨?_,?_,?_⟩
  · intro request hr
    have hse := hok.requests request hr
    refine ⟨hse.first,resultsPaired_of_paired hse.paired,?_⟩
    intro Effort F maxOutputTokens systemPrompt tools model effort
    exact ⟨followed_anthropic hse.paired,followed_openai E.jsonText hse.paired systemPrompt,rfl,
      responsesAnswered_of_paired E.jsonText hse.paired⟩
  · intro result hphase
    have hs := hok.phase
    rw [hphase] at hs
    have hse : s.history = [] ∨ Settled s.history := by
      rcases result with e | stop
      · cases e with
        | invalidParams message => exact hs
        | _ => exact .inr hs
      · exact .inr hs
    refine ⟨?_,hse.imp_right Settled.first,?_⟩
    · rcases hse with he | hse
      · rw [he]
        exact resultsPaired_of_paired rfl
      · exact resultsPaired_of_paired hse.paired
    · intro hv
      rcases result with e | stop
      · cases e with
        | invalidParams message => exact absurd rfl (hv message)
        | _ => exact hs.first
      · exact hs.first
  · intro runId blocks waited s' message hidle hw hrun hend
    obtain ⟨mid,hstep,hr⟩ := bind_eq_some_iff.1 hrun
    simp only [step,acquireSession,hidle] at hstep
    cases hstep
    have hh := history_of_refused hw rfl hr hend
    exact hh

def unknownToolRun : List Action :=
  [.prompt "run_1" [.text "list the files"],.advance,.advance,.advance,
    .reply (.ok ⟨"looking",[⟨"call_1","ls",.object []⟩],.toolUse,none⟩),.advance,.advance,.complete,.advance,
    .advance]

theorem tool_results_paired_unknown_tool : ∃ s, Reach bareEnv s ∧ s.requests.length = 2 ∧
    ∀ request ∈ s.requests, StartsWithUser request ∧ ResultsPaired request := by
  have hv : (run bareEnv (.new 0) unknownToolRun).map (fun s => s.requests.length) = some 2 := by
    decide +kernel
  obtain ⟨s,hrun,hl⟩ := map_eq_some_iff.1 hv
  have hr : Reach bareEnv s := (Reach.new 0).run hrun
  exact ⟨s,hr,hl,fun request hre =>
    ⟨((tool_results_paired hr).1 request hre).1,((tool_results_paired hr).1 request hre).2.1⟩⟩

/-- The first prompt of a session is refused: its run ends, and the history starts with nothing. -/
theorem refused_prompt_leaves_no_user : ∃ s, Reach bareEnv s ∧ s.phase = .finished (.error (.invalidParams
      "prompt: unsupported content block (only text and resource_link are advertised)")) ∧
    ¬StartsWithUser s.history := by
  have hrun : run bareEnv (.new 0) [.prompt "run_1" [.unsupported],.advance] = some _ := rfl
  refine ⟨_,(Reach.new 0).run hrun,rfl,?_⟩
  rintro ⟨text,rest,h⟩
  cases h

end

end BuzzSolo.BuzzAgent
